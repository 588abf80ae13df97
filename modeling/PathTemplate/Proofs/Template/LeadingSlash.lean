import PathTemplate.Proofs.Template.Placement
import PathTemplate.Proofs.Template.Shifting

/-!
# LeadingSlash — templates and paths with a slash in front of both

- `Parsed.Slashed`, `Template.Slashed` : parts and elements with a slash in front
- `Builder.AddsAlike`         : what is added behind different elements is the same
- `Template.slashed_of_make?` : a slash in front of the text is one in front of the elements
- `Template.placed_shift`     : the same values then start one octet further on
- `Matcher.spans_with_slash`  : and lie on the same segments, if they are settled
- `Matcher.spans_moved`       : a value that is not
-/

namespace PathTemplate

open Reader (literalPart)

/-! ## Reading -/

/-- The same parts, with a slash in front of the text that they begin with. -/
inductive Parsed.Slashed : Parsed → Parsed → Prop
  | trailing (t : Text) : Slashed ⟨[], t⟩ ⟨[], '/' :: t⟩
  | parts (t : Text) (ps : List Part) (trailing : Text) :
      Slashed ⟨literalPart t ++ ps, trailing⟩ ⟨literalPart ('/' :: t) ++ ps, trailing⟩

theorem Reader.slashed_of_template {d : Dialect} {t : Text} {p q : Parsed}
    (hp : template d t = .ok p) (hq : template d ('/' :: t) = .ok q) : p.Slashed q := by
  have hslash : isLiteralChar '/' = true := by decide
  have hdrop' : ('/' :: t).dropWhile isLiteralChar = t.dropWhile isLiteralChar :=
    List.dropWhile_cons_of_pos hslash
  rw [template] at hp
  split at hp
  case h_1 hdrop =>
    cases hp
    cases hq.symm.trans (template_of_plain (hdrop'.trans hdrop))
    exact .trailing t
  case h_2 r hdrop =>
    split at hp
    case h_1 => cases hp
    case h_2 q' r' he =>
      split at hp
      case h_1 => cases hp
      case h_2 rest hrest =>
        cases hp
        cases hq.symm.trans (template_of_expression (hdrop'.trans hdrop) he hrest)
        rw [List.takeWhile_cons_of_pos hslash]
        exact .parts _ _ _
  case h_3 => cases hp

namespace Template

/-! ## Building -/

namespace Builder

variable {d : Dialect} {b b' c c' : Builder} {es fs : List Element}

/-- Behind `es` and behind `fs` the same elements have been added, and groups are counted alike. -/
def AddsAlike (es fs : List Element) (b c : Builder) : Prop :=
  b.groups = c.groups ∧ ∃ new, b.elements = es ++ new ∧ c.elements = fs ++ new

theorem AddsAlike.addLiteral (h : AddsAlike es fs b c) {text : Text}
    (hb : b.addLiteral d text = .ok b') (hc : c.addLiteral d text = .ok c') :
    AddsAlike es fs b' c' := by
  obtain ⟨hgroups, new, hes, hfs⟩ := h
  obtain ⟨helements, hb, -⟩ := addLiteral_eq_ok hb
  obtain ⟨helements', hc, -⟩ := addLiteral_eq_ok hc
  refine ⟨by rw [hb, hc, hgroups], new ++ literalElements d text, ?_, ?_⟩
  · rw [helements, hes, List.append_assoc]
  · rw [helements', hfs, List.append_assoc]

theorem AddsAlike.addElement (h : AddsAlike es fs b c) (e : Element) :
    AddsAlike es fs (b.addElement e) (c.addElement e) := by
  obtain ⟨hgroups, new, hes, hfs⟩ := h
  refine ⟨congrArg (· + 1) hgroups, new ++ [e], ?_, ?_⟩
  · rw [Builder.addElement, hes, List.append_assoc]
  · rw [Builder.addElement, hfs, List.append_assoc]

theorem AddsAlike.addPart (h : AddsAlike es fs b c) {p : Part} (hb : b.addPart d p = .ok b')
    (hc : c.addPart d p = .ok c') : AddsAlike es fs b' c' := by
  have hgroups := h.1
  cases p with
  | literal text => exact h.addLiteral hb hc
  | «variable» name constraint default =>
      cases hb
      cases hc
      rw [hgroups]
      exact h.addElement _
  | operator name arg vars =>
      obtain ⟨o, ho, hb⟩ := bind_eq_ok.mp hb
      obtain ⟨o', ho', hc⟩ := bind_eq_ok.mp hc
      rw [hgroups] at ho
      cases ho.symm.trans ho'
      cases hb
      cases hc
      exact h.addElement _

theorem AddsAlike.addParts (h : AddsAlike es fs b c) {ps : List Part}
    (hb : ps.foldlM (Builder.addPart d) b = .ok b')
    (hc : ps.foldlM (Builder.addPart d) c = .ok c') : AddsAlike es fs b' c' := by
  induction ps generalizing b c with
  | nil =>
      cases hb
      cases hc
      exact h
  | cons p ps ih =>
      rw [List.foldlM_cons] at hb hc
      obtain ⟨b₁, hp, hb⟩ := bind_eq_ok.mp hb
      obtain ⟨c₁, hp', hc⟩ := bind_eq_ok.mp hc
      exact ih (h.addPart hp hp') hb hc

/-- A part of literal text adds its element. -/
theorem addParts_literalPart {text : Text}
    (h : (literalPart text).foldlM (addPart d) b = .ok b') :
    b'.elements = b.elements ++ literalElements d text ∧ b'.groups = b.groups := by
  rw [literalPart] at h
  split at h
  case isTrue hnil =>
    cases h
    simp [literalElements, hnil]
  case isFalse =>
    obtain ⟨b₁, hb, h⟩ := bind_eq_ok.mp h
    cases h
    obtain ⟨helements, hgroups, -⟩ := addLiteral_eq_ok hb
    exact ⟨helements, hgroups⟩

end Builder

/-- The same elements, with a slash in front of the text that they begin with. -/
inductive Slashed : List Element → List Element → Prop
  | literal (t : Text) (es : List Element) :
      Slashed (.literal t :: es) (.literal ('/' :: t) :: es)
  | front (es : List Element) : Slashed es (.literal ['/'] :: es)

open Builder (literalElements)

theorem slashed_literalElements (t : Text) (es : List Element) :
    Slashed (literalElements .simple t ++ es) (literalElements .simple ('/' :: t) ++ es) := by
  have hplain : Percent.isPathDelimiter '/' = true := by decide
  have hencode : Percent.encodeLiteral ('/' :: t) = '/' :: Percent.encodeLiteral t := by
    simp [Percent.encodeLiteral, hplain]
  rw [literalElements, literalElements, if_neg (List.cons_ne_nil _ _), hencode]
  split
  case isTrue hnil =>
    rw [hnil]
    exact .front es
  case isFalse => exact .literal _ es

theorem slashed_of_make? {text : Text} {t u : Template} (ht : make? text .simple = .ok t)
    (hu : make? ('/' :: text) .simple = .ok u) :
    (t.elements = [] ∧ u.elements = []) ∨ Slashed t.elements u.elements := by
  obtain ⟨p, b, hp, hb, ht⟩ := make?_eq_ok ht
  obtain ⟨q, c, hq, hc, hu⟩ := make?_eq_ok hu
  obtain ⟨_, _, _, rfl⟩ := ofBuilder?_eq_ok ht
  obtain ⟨_, _, _, rfl⟩ := ofBuilder?_eq_ok hu
  obtain ⟨b₁, hb₁, hb⟩ := bind_eq_ok.mp hb
  obtain ⟨c₁, hc₁, hc⟩ := bind_eq_ok.mp hc
  cases Reader.slashed_of_template (Parsed.ofText?_eq_ok_iff.mp hp)
    (Parsed.ofText?_eq_ok_iff.mp hq) with
  -- Without expressions all of the text is trailing, and a slash at its end is dropped.
  | trailing s =>
      cases hb₁
      cases hc₁
      rw [(Builder.addLiteral_eq_ok hb).1, (Builder.addLiteral_eq_ok hc).1]
      cases s with
      | nil => exact .inl ⟨rfl, rfl⟩
      | cons d s =>
          have hslash : Text.dropTrailing '/' ('/' :: d :: s) =
              '/' :: Text.dropTrailing '/' (d :: s) := by
            rw [Text.dropTrailing, Text.dropTrailing, List.getLast?_cons_cons]
            split <;> rfl
          have hslashed := slashed_literalElements (Text.dropTrailing '/' (d :: s)) []
          rw [← hslash, List.append_nil, List.append_nil] at hslashed
          exact .inr hslashed
  -- Otherwise the builders differ in what they begin with, and then add the same.
  | parts s ps trailing =>
      rw [List.foldlM_append] at hb₁ hc₁
      obtain ⟨b₀, hb₀, hb₁⟩ := bind_eq_ok.mp hb₁
      obtain ⟨c₀, hc₀, hc₁⟩ := bind_eq_ok.mp hc₁
      obtain ⟨hbes, hbgroups⟩ := Builder.addParts_literalPart hb₀
      obtain ⟨hces, hcgroups⟩ := Builder.addParts_literalPart hc₀
      have halike : Builder.AddsAlike b₀.elements c₀.elements b₀ c₀ :=
        ⟨hbgroups.trans hcgroups.symm, [], by simp, by simp⟩
      obtain ⟨-, new, hbelements, hcelements⟩ := (halike.addParts hb₁ hc₁).addLiteral hb hc
      refine .inr ?_
      rw [hbelements, hcelements, hbes, hces]
      exact slashed_literalElements s new

/-! ## Matching -/

section

variable {es fs before after : List Element} {v : Variable}

theorem Slashed.mem (h : Slashed es fs) {e : Element} (he : e ∈ fs) :
    (∃ t, e = .literal t) ∨ e ∈ es := by
  cases h with
  | literal t es =>
      rcases List.mem_cons.mp he with rfl | he
      · exact .inl ⟨_, rfl⟩
      · exact .inr (List.mem_cons_of_mem _ he)
  | front =>
      rcases List.mem_cons.mp he with rfl | he
      · exact .inl ⟨_, rfl⟩
      · exact .inr he

/-- Where literals do not count, a slash in front of them does not. -/
theorem Slashed.flatMap_eq {β : Type} (h : Slashed es fs) {f : Element → List β}
    (hf : ∀ t, f (.literal t) = []) : fs.flatMap f = es.flatMap f := by
  cases h with
  | literal t es => rw [List.flatMap_cons, List.flatMap_cons, hf, hf]
  | front => rw [List.flatMap_cons, hf, List.nil_append]

/-- The texts of the elements, with a slash in front. -/
theorem Slashed.flatten_map (h : Slashed es fs) {f g : Element → Text}
    (hf : ∀ t, f (.literal t) = t) (hg : ∀ t, g (.literal t) = t) (hsame : ∀ e ∈ es, g e = f e) :
    (fs.map g).flatten = '/' :: (es.map f).flatten := by
  cases h with
  | literal t es =>
      rw [List.map_cons, List.map_cons, hf, hg,
        List.map_congr_left fun e he => hsame e (List.mem_cons_of_mem _ he)]
      rfl
  | front =>
      rw [List.map_cons, hg, List.map_congr_left hsame]
      rfl

/-- The slash stands in front of what is before a variable. -/
theorem Slashed.exists_split (h : Slashed (before ++ .variable v :: after) fs) :
    ∃ before', fs = before' ++ .variable v :: after ∧ Slashed before before' := by
  generalize hes : before ++ .variable v :: after = es at h
  cases h with
  | literal t es =>
      cases before with
      | nil => cases hes
      | cons e before =>
          obtain ⟨rfl, rfl⟩ := List.cons.inj hes
          exact ⟨_, rfl, .literal t before⟩
  | front =>
      subst hes
      exact ⟨_, rfl, .front before⟩

end

variable {t u : Template} {trace trace' : Trace} {path path' : Text}

/-- If the values of all names are the same, then the texts under the elements are. -/
theorem pieceOf_eq (ht : t.WellFormed) (hu : u.WellFormed) (hdt : t.dialect = .simple)
    (hdu : u.dialect = .simple) (hslashed : Slashed t.elements u.elements)
    (hvalues : ∀ name, (t.bindings trace path).values.get name =
      (u.bindings trace' path').values.get name) :
    ∀ e ∈ t.elements, pieceOf trace' path' e = pieceOf trace path e := by
  intro e he
  cases e with
  | literal s => rfl
  | operator o => exact absurd he (ht.operator_notMem hdt o)
  | «variable» v =>
      -- All variables of the name have one value each, so the values are compared one by one.
      have hall := hvalues v.name
      have hkeeps := keepsValues_of_replaces_eq_false (ht.replaces_eq_false hdt v.name)
      have hkeeps' := keepsValues_of_replaces_eq_false (hu.replaces_eq_false hdu v.name)
      rw [get_bindings_of_keeps ht hkeeps, get_bindings_of_keeps hu hkeeps',
        hslashed.flatMap_eq fun _ => rfl] at hall
      have hgives := eq_of_flatMap_eq ?_ hall _ he
      · rw [Element.gives, Element.gives, if_pos rfl, if_pos rfl] at hgives
        exact congrArg (fun x => x.getD []) (List.singleton_inj.mp hgives).symm
      · intro e he
        cases e with
        | literal s => rfl
        | «variable» w =>
            rw [Element.gives, Element.gives]
            split <;> rfl
        | operator o => exact absurd he (ht.operator_notMem hdt o)

/-- If the values of all names are the same, then they start one octet further on behind a slash. -/
theorem placed_shift (ht : t.WellFormed) (hu : u.WellFormed) (hdt : t.dialect = .simple)
    (hdu : u.dialect = .simple) (hes : ∀ e ∈ t.elements, e.IsEnclosed)
    (hslashed : Slashed t.elements u.elements) (htrace : t.regex.search path = some trace)
    (htrace' : u.regex.search path' = some trace')
    (hvalues : ∀ name, (t.bindings trace path).values.get name =
      (u.bindings trace' path').values.get name) (name : Text) :
    (u.bindings trace' path').placed name =
      ((t.bindings trace path).placed name).map fun p => (p.1, p.2 + 1) := by
  have hfs : ∀ e ∈ u.elements, e.IsEnclosed := by
    intro e he
    rcases hslashed.mem he with ⟨s, rfl⟩ | he
    · trivial
    · exact hes e he
  have hsame := pieceOf_eq ht hu hdt hdu hslashed hvalues
  rw [placed_bindings_eq hu hdu, placed_bindings_eq ht hdt, hslashed.flatMap_eq fun _ => rfl,
    List.map_flatMap, List.flatMap_def, List.flatMap_def]
  refine congrArg List.flatten (List.map_congr_left fun e he => ?_)
  cases e with
  | literal s => rfl
  | operator o => rfl
  | «variable» v =>
      -- What stands before the variable has the same text, but for the slash.
      obtain ⟨before, after, hsplit⟩ := List.append_of_mem he
      obtain ⟨before', hsplit', hslashed'⟩ := (hsplit ▸ hslashed).exists_split
      have hbefore := hslashed'.flatten_map (f := pieceOf trace path) (g := pieceOf trace' path')
        (fun _ => rfl) (fun _ => rfl) fun e he =>
          hsame e (hsplit ▸ List.mem_append_left _ he)
      rw [Element.placedTo, Element.placedTo, ht.capture_of_search hes htrace hsplit,
        hu.capture_of_search hfs htrace' hsplit', hsame _ he, hbefore, Text.byteLength_cons]
      split
      · rw [show '/'.utf8Size = 1 from rfl, Nat.add_comm]
        rfl
      · rfl

end Template

/-! ## Matchers -/

namespace Matcher

theorem splitPath_slash {path : Text} (hpath : path.head? ≠ some '/') :
    splitPath ('/' :: path) = splitPath path := by
  rw [Segment.splitPath_eq hpath, splitPath, Text.dropLeading, if_pos rfl]

/-- Starts that are one octet further on give the same spans if all values are settled.  If no two
neighbouring segments are the same, this is so of no other values. -/
theorem spansOf_shift {b c : Bindings} {path : Text} (hpath : path.head? ≠ some '/')
    (hb : b.values.keys.Nodup) (hvalues : c.values = b.values)
    (hplaced : ∀ name, c.placed name = (b.placed name).map fun p => (p.1, p.2 + 1))
    (hoccurs : ∀ name, ∀ p ∈ b.placed name, path.OccursAt p.2 p.1) :
    let count := (splitPath path).length
    ((∀ name, ∀ p ∈ b.placed name, SettledIn path p) →
        spansOf c (splitPath path) 0 count = spansOf b (splitPath path) 0 count) ∧
      ((splitPath path).IsChain (· ≠ ·) →
        spansOf c (splitPath path) 0 count = spansOf b (splitPath path) 0 count →
          ∀ name, ∀ p ∈ b.placed name, SettledIn path p) := by
  have hc : c.values.keys.Nodup := hvalues ▸ hb
  have hwindow := window_self (splitPath path)
  constructor
  · intro hsettled
    rw [spansOf_eq hc, spansOf_eq hb, hvalues, hwindow, List.flatMap_def, List.flatMap_def]
    refine congrArg (Multimap.ofPairs ∘ List.flatten) (List.map_congr_left fun name _ => ?_)
    rw [hplaced, List.map_map]
    refine List.map_congr_left fun p hp => ?_
    exact congrArg (Prod.mk name) (coverFrom_succ_of_settledIn hpath (hsettled name p hp))
  -- Spans are lists under the same names, so they differ if one segment under one value does.
  · intro hdiffer hspans name p hp
    have hname := congrArg (fun m => m.get name) hspans
    rw [get_spansOf hc, get_spansOf hb, hwindow, hplaced, List.map_map] at hname
    exact settledIn_of_coverFrom_succ hpath hdiffer (hoccurs name p hp)
      (List.map_inj_left.mp hname p hp)

/-- Without constraints all values are settled, as they have no slash. -/
theorem settledIn_of_free {t : Template} (ht : t.WellFormed) (hd : t.dialect = .simple)
    (hfree : ∀ e ∈ t.elements, e.isConstrained = false) {trace : Trace} {path : Text}
    (htrace : t.regex.search path = some trace) (name : Text) :
    ∀ p ∈ (t.bindings trace path).placed name, SettledIn path p := by
  intro p hp
  rw [Template.placed_bindings_eq ht hd] at hp
  obtain ⟨e, he, hp⟩ := List.mem_flatMap.mp hp
  cases e with
  | literal s => cases hp
  | operator o => cases hp
  | «variable» v =>
      rw [Element.placedTo] at hp
      split at hp
      case isFalse => cases hp
      case isTrue =>
        have hcapture : trace.capture path v.group = some (p.1, p.2) := Option.mem_toList.mp hp
        obtain ⟨u, ⟨hne, hslash⟩, hu⟩ :=
          ht.records_capture (ht.isPlain fun _ => hfree) htrace he rfl
        rw [hcapture] at hu
        cases hu
        obtain ⟨before, after, hcut, hstart⟩ := Trace.occursAt_of_capture hcapture
        exact ⟨before, after, hcut, hstart, .of_slashFree hne hslash after⟩

/-- A slash in front of a template and in front of a path that does not begin with one moves every
value one octet on, if the values stay the same.  They lie on the same segments if each of them is
settled, and so they do without constraints.  If no two neighbouring segments are the same, a value
that is not settled moves to other segments. -/
theorem spans_with_slash {text path : Text} {parsed : Parsed} (m n : Matcher)
    (hm : (Template.compile text .simple).value = .ok m.template)
    (hn : (Template.compile ('/' :: text) .simple).value = .ok n.template)
    (hparsed : Parsed.ofText? .simple text = .ok parsed)
    (halone : ∀ written ∈ parsed.constraints, Constraint.StandsAlone written)
    (hpath : path.head? ≠ some '/') {m' n' : Matcher}
    (hrun : (m.run path).value = (true, m')) (hrun' : (n.run ('/' :: path)).value = (true, n'))
    (hvalues : m'.allValues false = n'.allValues false) :
    let count := (splitPath path).length
    splitPath ('/' :: path) = splitPath path ∧
      ∃ b c spans spans', m'.bindings = .ok b ∧ n'.bindings = .ok c ∧
        m'.spannedSegments (splitPath path) 0 count = .ok spans ∧
        n'.spannedSegments (splitPath ('/' :: path)) 0 count = .ok spans' ∧
        (∀ name, c.placed name = (b.placed name).map fun p => (p.1, p.2 + 1)) ∧
        ((∀ e ∈ m.template.elements, e.isConstrained = false) → spans' = spans) ∧
        ((∀ name, ∀ p ∈ b.placed name, SettledIn path p) → spans' = spans) ∧
        ((splitPath path).IsChain (· ≠ ·) → spans' = spans →
          ∀ name, ∀ p ∈ b.placed name, SettledIn path p) := by
  have hmake : Template.make? text .simple = .ok m.template :=
    (Template.value_compileWith text ⟨.simple, false⟩).symm.trans hm
  have hmake' : Template.make? ('/' :: text) .simple = .ok n.template :=
    (Template.value_compileWith ('/' :: text) ⟨.simple, false⟩).symm.trans hn
  obtain ⟨hwell, hd⟩ := Template.wellFormed_of_make? hmake
  obtain ⟨hwell', hd'⟩ := Template.wellFormed_of_make? hmake'
  -- A constraint that stands alone cannot reach beyond its group, be there a slash or not.
  have henclosed : ∀ e ∈ m.template.elements, e.IsEnclosed := by
    refine Template.isEnclosed_of_constraints hwell hd ?_
    intro r hr
    rw [Template.constraints_of_make? hmake hparsed] at hr
    obtain ⟨written, hwritten, rfl⟩ := List.mem_map.mp hr
    exact (halone written hwritten).encloses
  obtain ⟨trace, htrace, rfl⟩ := matched_of_run hrun
  obtain ⟨trace', htrace', rfl⟩ := matched_of_run hrun'
  have hsame : (m.template.bindings trace path).values =
      (n.template.bindings trace' ('/' :: path)).values := Except.ok.inj hvalues
  have hslash := splitPath_slash hpath
  -- Either there are no elements and so no values, or the first literal alone has grown.
  have hplaced : ∀ name, (n.template.bindings trace' ('/' :: path)).placed name =
      ((m.template.bindings trace path).placed name).map fun p => (p.1, p.2 + 1) := by
    intro name
    rcases Template.slashed_of_make? hmake hmake' with ⟨hnone, hnone'⟩ | hslashed
    · rw [Template.placed_bindings_eq hwell hd, Template.placed_bindings_eq hwell' hd', hnone,
        hnone']
      rfl
    · exact Template.placed_shift hwell hwell' hd hd' henclosed hslashed htrace htrace'
        (fun name => congrArg (fun values => values.get name) hsame) name
  obtain ⟨hkept, hmoved⟩ := spansOf_shift hpath (m.template.nodup_keys_bindings trace path)
    hsame.symm hplaced fun name => (placed_bindings hwell hd htrace name).2
  refine ⟨hslash, _, _, _, _, rfl, rfl, rfl, rfl, hplaced, ?_⟩
  rw [hslash]
  exact ⟨fun hfree => hkept (settledIn_of_free hwell hd hfree htrace), hkept, hmoved⟩

theorem spans_with_slash_pair :
    ∃ t u m' n' spans,
      (Template.compile "{x:[a-z]+/[a-z]+}".toList .simple).value = .ok t ∧
      (Template.compile "/{x:[a-z]+/[a-z]+}".toList .simple).value = .ok u ∧
      (t.matcher.run "ab/c".toList).value = (true, m') ∧
      (u.matcher.run "/ab/c".toList).value = (true, n') ∧
      m'.spannedSegments (splitPath "ab/c".toList) 0 2 = .ok spans ∧
      n'.spannedSegments (splitPath "/ab/c".toList) 0 2 = .ok spans ∧
      spans.get ['x'] = [splitPath "ab/c".toList] := by
  let path := "ab/c".toList
  let b : Bindings := ⟨⟨[(['x'], [some path])]⟩, ⟨[(['x'], [some 0])]⟩⟩
  have hok : (Template.compile "{x:[a-z]+/[a-z]+}".toList .simple).value.toOption.any (fun t =>
      (t.regex.search path).any fun trace => decide (t.bindings trace path = b)) = true := by
    decide +kernel
  have hok' : (Template.compile "/{x:[a-z]+/[a-z]+}".toList .simple).value.toOption.any (fun u =>
      (u.regex.search ('/' :: path)).any fun trace =>
        decide ((u.bindings trace ('/' :: path)).values = b.values)) = true := by
    decide +kernel
  have hread : (Parsed.ofText? .simple "{x:[a-z]+/[a-z]+}".toList).toOption.any
      (fun p => p.constraints == ["[a-z]+/[a-z]+".toList]) = true := by decide +kernel
  obtain ⟨t, ht, hsearch⟩ := exists_ok_of_any hok
  obtain ⟨u, hu, hsearch'⟩ := exists_ok_of_any hok'
  obtain ⟨parsed, hparsed, hconstraints⟩ := exists_ok_of_any hread
  obtain ⟨trace, htrace, hb⟩ := (Option.any_eq_true _ _).mp hsearch
  obtain ⟨trace', htrace', hvalues⟩ := (Option.any_eq_true _ _).mp hsearch'
  have hb := of_decide_eq_true hb
  have hvalues := of_decide_eq_true hvalues
  have halone : ∀ written ∈ parsed.constraints, Constraint.StandsAlone written := by
    rw [eq_of_beq hconstraints]
    intro written hwritten
    rw [List.mem_singleton.mp hwritten]
    exact ⟨by decide +kernel, by decide +kernel, by decide +kernel⟩
  have hrun := run_of_search htrace
  have hrun' := run_of_search htrace'
  -- The second matcher records the same value, one octet further on.
  have hsame : (⟨t, path, some trace⟩ : Matcher).allValues false =
      (⟨u, '/' :: path, some trace'⟩ : Matcher).allValues false := by
    rw [← hb] at hvalues
    exact congrArg Except.ok hvalues.symm
  obtain ⟨-, b', c, spans, spans', hb', -, hspans, hspans', -, -, hsettled, -⟩ :=
    spans_with_slash t.matcher u.matcher ht hu hparsed halone (by decide) hrun hrun' hsame
  cases hb'
  cases hspans
  rw [hb] at hsettled
  have hplaced : ∀ name, ∀ p ∈ b.placed name, p = (path, 0) := by
    intro name p hp
    rw [Bindings.placed, Multimap.get_cons, Multimap.get_cons] at hp
    split at hp
    · exact List.mem_singleton.mp hp
    · cases hp
  -- Neither the second nor the last octet of the value is a slash, so it keeps its segments.
  have hsame' := hsettled fun name p hp => by
    rw [hplaced name p hp]
    refine ⟨[], [], rfl, rfl, by decide, .inr ⟨by decide, ?_⟩⟩
    intro c rest h
    exact absurd (List.cons.inj (List.cons.inj h).2).1 (by decide)
  rw [hsame', ← hb] at hspans'
  refine ⟨t, u, _, _, _, ht, hu, hrun, hrun', rfl, hspans', ?_⟩
  rw [hb]
  decide +kernel

/-- The second octet of the value is where its first segment ends. -/
theorem spans_moved :
    ∃ t u m' n' spans spans',
      (Template.compile "{x:a/b}".toList .simple).value = .ok t ∧
      (Template.compile "/{x:a/b}".toList .simple).value = .ok u ∧
      (t.matcher.run "a/b".toList).value = (true, m') ∧
      (u.matcher.run "/a/b".toList).value = (true, n') ∧
      m'.allValues false = n'.allValues false ∧
      m'.spannedSegments (splitPath "a/b".toList) 0 2 = .ok spans ∧
      n'.spannedSegments (splitPath "/a/b".toList) 0 2 = .ok spans' ∧
      spans.get ['x'] = [[.plain ['a'], .plain ['b']]] ∧ spans'.get ['x'] = [[.plain ['a']]] := by
  let path := "a/b".toList
  let path' := "/a/b".toList
  let values : Multimap (Option Text) := ⟨[(['x'], [some path])]⟩
  have hok : (Template.compile "{x:a/b}".toList .simple).value.toOption.any (fun t =>
      (t.regex.search path).any fun trace =>
        decide (t.bindings trace path = ⟨values, ⟨[(['x'], [some 0])]⟩⟩)) = true := by
    decide +kernel
  have hok' : (Template.compile "/{x:a/b}".toList .simple).value.toOption.any (fun u =>
      (u.regex.search path').any fun trace =>
        decide (u.bindings trace path' = ⟨values, ⟨[(['x'], [some 1])]⟩⟩)) = true := by
    decide +kernel
  obtain ⟨t, ht, hsearch⟩ := exists_ok_of_any hok
  obtain ⟨u, hu, hsearch'⟩ := exists_ok_of_any hok'
  obtain ⟨trace, htrace, hb⟩ := (Option.any_eq_true _ _).mp hsearch
  obtain ⟨trace', htrace', hc⟩ := (Option.any_eq_true _ _).mp hsearch'
  have hb := of_decide_eq_true hb
  have hc := of_decide_eq_true hc
  refine ⟨t, u, _, _, _, _, ht, hu, run_of_search htrace, run_of_search htrace', ?_, rfl, rfl,
    ?_, ?_⟩
  · have hsame := (congrArg Bindings.values hb).trans (congrArg Bindings.values hc).symm
    exact congrArg Except.ok hsame
  · rw [hb]
    decide +kernel
  · rw [hc]
    decide +kernel

end Matcher
end PathTemplate
