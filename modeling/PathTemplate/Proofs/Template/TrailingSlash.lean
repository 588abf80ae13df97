import PathTemplate.Proofs.DotSegments.NormalForm
import PathTemplate.Proofs.Template.Building
import PathTemplate.Template.Expansion
import PathTemplate.Template.Matcher
import PathTemplate.Template.Specificity

/-!
# TrailingSlash — a slash at the end of a template

A slash at the end of a template belongs to its last literal run, and the compiler drops it there.
All that is left of it is the text of the template, which is read again only for the head of a match.

- `Text.SlashApart`              : one text, or the other with a slash behind it
- `slashApart_normalize`         : normalizing keeps texts a slash apart
- `Template.make?_of_slashApart` : texts a slash apart compile to one template but for the text
- `Matcher.AnswersAlike`         : two matchers with the same answers, up to a slash of the head
- `Template.trailing_slash_ignored` : what a slash at the end of a template changes
-/

namespace PathTemplate

/-! ## Texts -/

/-- The same text, or the one with a slash behind it where it had none. -/
def Text.SlashApart (s s' : Text) : Prop := s' = s ∨ s.endsWith '/' = false ∧ s' = s ++ ['/']

/-- A slash at the beginning is taken from both. -/
theorem Text.SlashApart.dropLeading {s s' : Text} (h : s.SlashApart s') :
    SlashApart (s.dropLeading '/') (s'.dropLeading '/') := by
  rcases h with rfl | ⟨hends, rfl⟩
  · exact .inl rfl
  · cases s with
    | nil => exact .inl rfl
    | cons c r =>
        rw [List.cons_append, Text.dropLeading, Text.dropLeading]
        split
        case isTrue =>
          refine .inr ⟨?_, rfl⟩
          -- Behind the slash the text ends as before, if there is anything.
          cases r with
          | nil => rfl
          | cons d r => simpa [endsWith] using hends
        case isFalse => exact .inr ⟨hends, rfl⟩

namespace DotSegments

variable {u : Text}

/-- A slash at the end is one more segment, which is empty and stays; but behind a dot segment it
is there in any case. -/
theorem slashApart_join_resolve (absolute : Bool) (hne : u ≠ []) (hslash : u.endsWith '/' = false) :
    Text.SlashApart (Text.join ['/'] (resolve absolute (Text.split '/' u)))
      (Text.join ['/'] (resolve absolute (Text.split '/' (u ++ ['/'])))) := by
  obtain ⟨before, last, hsplit⟩ :=
    (List.eq_nil_or_concat _).resolve_left (Text.split_ne_nil '/' u)
  rw [List.concat_eq_append] at hsplit
  have hlastmem : last ∈ Text.split '/' u := by
    rw [hsplit]
    exact List.mem_append_right before (List.mem_singleton_self last)
  -- The empty segment is no dot segment, and is put on top of the stack that the others leave.
  have hnew : resolve absolute (before ++ [last] ++ [[]]) =
      ([] :: (before ++ [last]).foldl (push absolute) []).reverse := by
    rw [resolve, List.getLast?_concat, Option.any_some, if_neg (by decide), List.foldl_append,
      List.foldl_cons, List.foldl_nil, push_of_not_isDots absolute _ rfl]
  rw [Text.split_append_singleton, hsplit, hnew, resolve, List.getLast?_concat, Option.any_some]
  cases hlast : isDots last with
  | true =>
      -- Behind a dot segment the same empty segment is put there in any case.
      exact .inl rfl
  | false =>
      have hpush : (before ++ [last]).foldl (push absolute) [] =
          last :: before.foldl (push absolute) [] := by
        rw [List.foldl_append, List.foldl_cons, List.foldl_nil, push_of_not_isDots absolute _ hlast]
      rw [if_neg Bool.false_ne_true, hpush, join_reverse_cons, join_reverse_cons, front_cons,
        List.append_nil, ← List.append_assoc]
      refine .inr ⟨?_, rfl⟩
      exact Text.endsWith_append_of_notMem _ (Text.last_ne_nil_of_split hne hslash hsplit)
        (Text.notMem_of_mem_split hlastmem)

end DotSegments

open DotSegments

/-- Normalizing a text with a slash behind it gives the normal form of the text, or this with a
slash behind it. -/
theorem slashApart_normalize {u : Text} (hslash : u.endsWith '/' = false) :
    Text.SlashApart (normalize u) (normalize (u ++ ['/'])) := by
  cases u with
  | nil => exact .inl (by decide)
  | cons c rest =>
      by_cases hc : c = '/'
      · -- The slash at the beginning is not the one at the end, so that something stands behind it.
        subst hc
        have hne : rest ≠ [] := by
          rintro rfl
          cases hslash
        have hrest : Text.endsWith '/' rest = false := by
          obtain ⟨d, rest, rfl⟩ := List.exists_cons_of_ne_nil hne
          simpa [Text.endsWith] using hslash
        rw [List.cons_append, normalize, normalize, remove_slash, remove_slash, Text.dropLeading,
          Text.dropLeading, if_pos rfl, if_pos rfl]
        exact slashApart_join_resolve true hne hrest
      · have hrelative : ∀ r : Text, (c :: r).head? ≠ some '/' :=
          fun r hslash => hc (Option.some.inj hslash)
        rw [List.cons_append, normalize, normalize, remove_relative (hrelative rest),
          remove_relative (hrelative _), ← List.cons_append]
        exact (slashApart_join_resolve false (List.cons_ne_nil c rest) hslash).dropLeading

theorem CompileOptions.slashApart_prepare (o : CompileOptions) {text : Text}
    (hslash : text.endsWith '/' = false) :
    Text.SlashApart (o.prepare text) (o.prepare (text ++ ['/'])) := by
  rw [prepare, prepare]
  split
  · exact slashApart_normalize hslash
  · exact .inr ⟨hslash, rfl⟩

namespace Template

variable {t : Template} {s s' text : Text} {d : Dialect}

/-! ## Compiling -/

def withText (t : Template) (s : Text) : Template := { t with text := s }

theorem ofBuilder?_withText {b : Builder} (h : ofBuilder? s d b = .ok t) (s' : Text) :
    ofBuilder? s' d b = .ok (t.withText s') := by
  obtain ⟨p, hp, hgroups, rfl⟩ := ofBuilder?_eq_ok h
  rw [ofBuilder?, hp]
  exact if_neg fun hne => hne hgroups

theorem text_of_make? (h : make? s d = .ok t) : t.text = s := by
  obtain ⟨_, _, -, -, h⟩ := make?_eq_ok h
  obtain ⟨_, -, -, rfl⟩ := ofBuilder?_eq_ok h
  rfl

/-- Texts that are a slash apart compile to the same template, but for its text. -/
theorem make?_of_slashApart (h : make? s d = .ok t) (hs : s.SlashApart s') :
    make? s' d = .ok (t.withText s') := by
  rcases hs with rfl | ⟨hslash, rfl⟩
  · rw [h, withText, ← text_of_make? h]
  · obtain ⟨parsed, b, hparsed, hb, hbuilt⟩ := make?_eq_ok h
    have hspelt := Parsed.ofText?_eq_ok_iff_speltBy.mp hparsed
    have hparsed' := Parsed.ofText?_eq_ok_iff_speltBy.mpr
      (hspelt.append_plain (List.forall_mem_singleton.mpr (by decide) : ∀ c ∈ ['/'], _))
    -- The builder sees the same parts, and the same text behind them once it has dropped the slash.
    have hdrop : Text.dropTrailing '/' (parsed.trailing ++ ['/']) =
        Text.dropTrailing '/' parsed.trailing := by
      rw [Text.dropTrailing_append_singleton,
        Text.dropTrailing_eq_self (hspelt.endsWith_eq.symm.trans hslash)]
    have hb' : Builder.ofParsed? d { parsed with trailing := parsed.trailing ++ ['/'] } = .ok b := by
      rw [← hb, Builder.ofParsed?, hdrop]
      rfl
    rw [make?, hparsed']
    dsimp only
    rw [hb']
    exact ofBuilder?_withText hbuilt _

theorem compareSpecificity_withText (t : Template) (s : Text) :
    compareSpecificity t (t.withText s) = .eq := by
  simp [compareSpecificity, variableCount, withText]

end Template

/-! ## Matching -/

namespace Matcher

/-- Two matchers answer the same to every question about their last match, but one: where their
texts differ, a tail of one slash belongs to the second head and not to the first. -/
structure AnswersAlike (m m' : Matcher) : Prop where
  tail : ∀ decode, m'.tail decode = m.tail decode
  isExact : m'.isExact = m.isExact
  allValues : ∀ decode, m'.allValues decode = m.allValues decode
  values : ∀ name decode, m'.values name decode = m.values name decode
  value : ∀ name decode, m'.value name decode = m.value name decode
  spannedSegments : ∀ segments offset count,
    m'.spannedSegments segments offset count = m.spannedSegments segments offset count
  head : ∀ decode, m'.head decode = (do
    let h ← m.head decode
    let t ← m.tail false
    .ok (h ++ if m'.template.text ≠ m.template.text ∧ t = ['/'] then ['/'] else []))

/-- The slash of the head, for texts that are a slash apart. -/
theorem slash_of_slashApart {s s' : Text} (hs : s.SlashApart s') (u : Text) :
    (if s'.endsWith '/' && u == ['/'] then ['/'] else []) =
      (if s.endsWith '/' && u == ['/'] then ['/'] else []) ++
        if s' ≠ s ∧ u = ['/'] then ['/'] else [] := by
  rcases hs with rfl | ⟨hslash, rfl⟩
  · simp
  · have hne : s ++ ['/'] ≠ s := by simp
    rw [hslash, Text.endsWith_append_singleton]
    by_cases hu : u = ['/'] <;> simp [hu, hne]

/-- The text of the template plays a part in the head only. -/
theorem answersAlike_withText (m : Matcher) {s : Text} (hs : m.template.text.SlashApart s) :
    m.AnswersAlike { m with template := m.template.withText s } where
  tail := fun _ => rfl
  isExact := rfl
  allValues := fun _ => rfl
  values := fun _ _ => rfl
  value := fun _ _ => rfl
  spannedSegments := fun _ _ _ => rfl
  head := by
    intro decode
    have hslash := slash_of_slashApart hs
    change (m.groupText Template.headGroup >>= fun h => m.tail false >>= fun t =>
        Except.ok (decoded decode h ++ if s.endsWith '/' && t == ['/'] then ['/'] else [])) =
      (m.head decode >>= fun h => m.tail false >>= fun t =>
        Except.ok (h ++ if s ≠ m.template.text ∧ t = ['/'] then ['/'] else []))
    rw [head]
    -- Without a match both fail, and else the texts of the groups are the same.
    cases m.groupText Template.headGroup with
    | error e => rfl
    | ok h =>
        cases m.tail false with
        | error e => rfl
        | ok u =>
            change Except.ok _ = Except.ok _
            rw [hslash, List.append_assoc]

end Matcher

namespace Template

/-- A slash at the end of a template changes nothing but its text.  The template compiles with it if
it does without, with the same pattern, elements, names and counts; it gives the same text for all
values, and neither of the two is the more specific one.  Both match the same paths and give the same
answers about a match; only a tail of one slash belongs to the head of the one whose text ends with a
slash. -/
theorem trailing_slash_ignored {t : Template} {text : Text} {o : CompileOptions}
    (hslash : text.endsWith '/' = false) (h : (compileWith text o).value = .ok t) :
    ∃ t', (compileWith (text ++ ['/']) o).value = .ok t' ∧
      t.text.SlashApart t'.text ∧
      (o.normalize = false → t.text = text ∧ t'.text = text ++ ['/']) ∧
      t'.pattern = t.pattern ∧ t'.elements = t.elements ∧ t'.names = t.names ∧
      t'.literalChars = t.literalChars ∧ t'.variableCount = t.variableCount ∧
      t'.constrained = t.constrained ∧
      (∀ values encode, t'.expand values encode = t.expand values encode) ∧
      compareSpecificity t t' = .eq ∧
      ∀ path, (t'.matcher.run path).value.1 = (t.matcher.run path).value.1 ∧
        (t.matcher.run path).value.2.AnswersAlike (t'.matcher.run path).value.2 := by
  rw [value_compileWith] at h ⊢
  have hprepare := o.slashApart_prepare hslash
  have htext := text_of_make? h
  -- Both texts are compiled to the same elements, so the templates differ in their text alone.
  refine ⟨t.withText _, make?_of_slashApart h hprepare, ?_, ?_, rfl, rfl, rfl, rfl, rfl, rfl,
    fun _ _ => rfl, compareSpecificity_withText t _, fun path => ⟨rfl, ?_⟩⟩
  · rw [htext]
    exact hprepare
  · intro hplain
    have hwritten : ∀ s, o.prepare s = s := by
      intro s
      rw [CompileOptions.prepare, hplain]
      rfl
    exact ⟨htext.trans (hwritten _), hwritten _⟩
  · apply Matcher.answersAlike_withText
    rw [← htext] at hprepare
    exact hprepare

/-- A path whose slash at the end belongs to the head of the second template only. -/
theorem trailing_slash_ignored_widgets :
    ∃ t t', (compileWith "widgets/{id}".toList { normalize := false }).value = .ok t ∧
      (compileWith "widgets/{id}/".toList { normalize := false }).value = .ok t' ∧
      t'.elements = t.elements ∧ (t'.matcher.run "widgets/1/".toList).value.1 = true ∧
      (t.matcher.run "widgets/1/".toList).value.2.head false = .ok "widgets/1".toList ∧
      (t'.matcher.run "widgets/1/".toList).value.2.head false = .ok "widgets/1/".toList := by
  let path := "widgets/1/".toList
  have hok : (compileWith "widgets/{id}".toList { normalize := false }).value.toOption.any (fun t =>
      (t.matcher.run path).value.1 &&
        ((t.matcher.run path).value.2.head false).toOption.any (· == "widgets/1".toList) &&
        ((t.matcher.run path).value.2.tail false).toOption.any (· == ['/'])) = true := by
    decide +kernel
  obtain ⟨t, ht, htest⟩ := exists_ok_of_any hok
  simp only [Bool.and_eq_true] at htest
  obtain ⟨⟨hmatch, hhead⟩, htail⟩ := htest
  obtain ⟨_, hhead, heq⟩ := exists_ok_of_any hhead
  cases eq_of_beq heq
  obtain ⟨_, htail, heq⟩ := exists_ok_of_any htail
  cases eq_of_beq heq
  obtain ⟨t', ht', -, htexts, -, helements, -, -, -, -, -, -, hmatches⟩ :=
    trailing_slash_ignored (by decide) ht
  obtain ⟨hsame, hanswers⟩ := hmatches path
  obtain ⟨htext, htext'⟩ := htexts rfl
  refine ⟨t, t', ht, ht', helements, hsame.trans hmatch, hhead, ?_⟩
  have hne : t'.text ≠ t.text := by
    rw [htext, htext']
    decide
  calc (t'.matcher.run path).value.2.head false
      = .ok ("widgets/1".toList ++ if t'.text ≠ t.text ∧ ['/'] = ['/'] then ['/'] else []) := by
        rw [hanswers.head, hhead, htail]
        rfl
    _ = .ok "widgets/1/".toList := by
        rw [if_pos ⟨hne, rfl⟩]
        rfl

end Template
end PathTemplate
