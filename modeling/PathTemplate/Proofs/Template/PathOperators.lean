import PathTemplate.Proofs.Template.Preference
import PathTemplate.Proofs.Template.Recording
import PathTemplate.Proofs.Text.Splitting

/-!
# Path operators — an operator at the end that takes the rest of the path

An operator with a slash as its argument competes with the tail for the slashes of a path.  At the
end of a template it wins: another round of its repetition is preferred to the end of the head.

- `Continuation.TakesRest`   : what follows succeeds at the end of the text, and in no segment
- `Pattern.prefer_pathPieces` : before it, a slash and a value are repeated up to the end
- `Operator.prefer_ofPath`   : so a path operator takes the rest of the text
- `WellFormed.captured_of_search` : what a path operator captures at the end of a template
- `Matcher.run_pathOperator` : no tail is left, and the values are the segments of the rest
-/

namespace PathTemplate

open Marked (orOutcome)

/-! ## The rest of a text -/

namespace Cut

variable {c d : Cut} {u : Text}

/-- The gap at the end of the text. -/
def toEnd (c : Cut) : Cut := ⟨c.after.reverse ++ c.before, []⟩

/-- Whether a character other than a slash follows. -/
def inSegment (c : Cut) : Bool := c.after.head?.any CharClass.notSlash.has

theorem passes_toEnd (c : Cut) : c.Passes c.after c.toEnd := by
  simp [Passes, toEnd]

theorem Passes.toEnd_eq (h : c.Passes u d) : d.toEnd = c.toEnd :=
  (h.trans d.passes_toEnd).unique (h.1 ▸ c.passes_toEnd)

theorem inSegment_eq_false (h : c.inSegment = false) :
    c.after = [] ∨ ∃ rest, c.after = '/' :: rest := by
  rcases c with ⟨b, _ | ⟨x, a⟩⟩
  · exact .inl rfl
  · by_cases hx : x = '/'
    · exact .inr ⟨a, by rw [hx]⟩
    · have hhas : CharClass.notSlash.has x = true := CharClass.has_compl_single.mpr hx
      simp [inSegment, hhas] at h

end Cut

/-- What follows succeeds with `s` at the end of the text, and not in front of a character other
than a slash. -/
structure Continuation.TakesRest (k : Continuation) (c : Cut) (s : Trace) : Prop where
  atEnd : k c.toEnd = some s
  inside : ∀ u d, c.Passes u d → d.inSegment = true → k d = none

namespace Continuation.TakesRest

variable {k : Continuation} {c d : Cut} {s : Trace} {u : Text}

theorem later (h : k.TakesRest c s) (hpass : c.Passes u d) : k.TakesRest d s where
  atEnd := hpass.toEnd_eq ▸ h.atEnd
  inside v e hv he := h.inside (u ++ v) e (hpass.trans hv) he

theorem map (h : k.TakesRest c s) (i : Nat) :
    Continuation.TakesRest (fun d => (k d).map (.closes i d.index :: ·)) c
      (.closes i c.toEnd.index :: s) where
  atEnd := by rw [h.atEnd, Option.map_some]
  inside u d hpass hd := by rw [h.inside u d hpass hd, Option.map_none]

end Continuation.TakesRest

namespace Pattern

variable {k : Continuation} {c : Cut} {s : Trace}

def pathPiece : Pattern := .seqs [.chars (.single '/'), .anyValue]

theorem prefer_slash (k : Continuation) (c : Cut) :
    (Pattern.chars (.single '/')).regex.prefer k c =
      match c.after with
      | [] => none
      | x :: a => if x = '/' then k ⟨x :: c.before, a⟩ else none := by
  rcases c with ⟨b, _ | ⟨x, a⟩⟩
  · rfl
  · have hhas : (CharClass.single '/').has x = true ↔ x = '/' := by
      simp only [CharClass.has, CharClass.single, CharClass.contains, Bool.and_eq_true,
        decide_eq_true_eq, ← Nat.le_antisymm_iff, ← Char.toNat_inj]
      exact eq_comm
    simp only [regex, Regex.prefer, hhas]

/-- Where slashes and values may go on or end, they go on to the end of the text. -/
theorem orOutcome_pathPieces {more : Option Trace} (h : k.TakesRest c s)
    (hmore : more = if c.after.head? = some '/' then some s else none) :
    orOutcome more (k c) = if c.inSegment = true then none else some s := by
  cases hc : c.inSegment with
  | true =>
      have hslash : c.after.head? ≠ some '/' := by
        intro hslash
        rw [Cut.inSegment, hslash] at hc
        exact absurd hc (by decide)
      rw [hmore, if_neg hslash, h.inside [] c (Cut.Passes.refl c) hc]
      rfl
  | false =>
      rcases Cut.inSegment_eq_false hc with hnil | ⟨rest, hrest⟩
      · have hend : c.toEnd = c := by
          rcases c with ⟨b, a⟩
          obtain rfl : a = [] := hnil
          rfl
        rw [hmore, hnil, ← hend, h.atEnd]
        rfl
      · rw [hmore, hrest]
        rfl

/-- One or more slashes and values take the rest of a text that begins with a slash. -/
theorem prefer_morePathPieces (h : k.TakesRest c s) :
    (Regex.more true pathPiece.regex).prefer k c =
      if c.after.head? = some '/' then some s else none := by
  -- After the slash and its value the text ends, or the next slash follows.
  induction hlength : c.after.length using Nat.strongRecOn generalizing c with
  | ind n ih =>
      rw [Regex.prefer_more rfl, pathPiece, prefer_seqs_cons, prefer_slash]
      rcases c with ⟨b, _ | ⟨x, a⟩⟩
      · rfl
      · by_cases hx : x = '/'
        · subst hx
          simp only [if_true, List.head?_cons]
          refine Regex.prefer_fewest fun u d hpass => ?_
          have hpass' : Cut.Passes ⟨b, '/' :: a⟩ ('/' :: u) d :=
            Cut.passes_cons_iff.mpr ⟨rfl, hpass⟩
          have hshorter : d.after.length < n := by
            rw [← hlength, hpass'.1, List.length_append, List.length_cons]
            omega
          exact orOutcome_pathPieces (h.later hpass') (ih _ hshorter (h.later hpass') rfl)
        · simp [hx]

/-- Any number of slashes and values take the rest of the text, unless it begins within a
segment. -/
theorem prefer_manyPathPieces (h : k.TakesRest c s) :
    pathPiece.many.regex.prefer k c = if c.inSegment = true then none else some s :=
  orOutcome_pathPieces h (prefer_morePathPieces h)

/-- A value, and slashes and values after it, take the rest of any text. -/
theorem prefer_pathPieces (h : k.TakesRest c s) :
    (Pattern.seqs [.anyValue, pathPiece.many]).regex.prefer k c = some s := by
  rw [prefer_seqs_cons]
  exact Regex.prefer_fewest fun u d hpass => prefer_manyPathPieces (h.later hpass)

end Pattern

/-! ## Path operators -/

namespace Operator

/-- An operator that stands for segments of a path: its argument is a slash, before each value or
between values. -/
def OfPath (o : Operator) : Prop := (o.kind = .before ∨ o.kind = .list) ∧ o.arg = ['/']

instance (o : Operator) : Decidable o.OfPath := inferInstanceAs (Decidable (_ ∧ _))

variable {o : Operator} {k : Continuation} {c : Cut} {s t : Trace}

/-- A path operator takes the rest of the text.  If its argument stands before each value, the rest
is empty or begins with a slash. -/
theorem prefer_ofPath (ho : o.OfPath) (hk : k.TakesRest c s)
    (h : o.expression.regex.prefer k c = some t) :
    t = .opens o.group c.index :: .closes o.group c.toEnd.index :: s ∧
      (o.kind = .before → c.after = [] ∨ ∃ rest, c.after = '/' :: rest) := by
  have hk' := hk.map o.group
  rcases ho with ⟨hkind | hkind, harg⟩
  · rw [expression, hkind, harg] at h
    rcases Option.map_eq_some_iff.mp h with ⟨t', ht', rfl⟩
    replace ht' := (Pattern.prefer_manyPathPieces hk').symm.trans ht'
    split at ht'
    case isTrue => cases ht'
    case isFalse hc =>
      cases ht'
      exact ⟨rfl, fun _ => Cut.inSegment_eq_false (Bool.eq_false_iff.mpr hc)⟩
  · rw [expression, hkind, harg] at h
    rcases Option.map_eq_some_iff.mp h with ⟨t', ht', rfl⟩
    replace ht' := (Pattern.prefer_pathPieces hk').symm.trans ht'
    cases ht'
    refine ⟨rfl, fun hbefore => ?_⟩
    rw [hkind] at hbefore
    cases hbefore

end Operator

namespace Template

open Element (textOf boundariesAll)

variable {es : List Element} {tailGroup : Nat} {o : Operator} {path : Text} {trace : Trace}

/-- The end of the head and the tail follow where the text ends, or in front of a slash. -/
theorem takesRest_ending (hes : es ≠ []) (c : Cut) :
    (ending es tailGroup).TakesRest c (endingTrace tailGroup c.toEnd) where
  atEnd := ending_eq_some_iff.mpr ⟨(mem_tails_iff hes).mpr (.inl rfl), rfl⟩
  inside u d _ hd := by
    cases hending : ending es tailGroup d with
    | none => rfl
    | some t =>
        rcases (mem_tails_iff hes).mp (ending_eq_some_iff.mp hending).1 with
          hnil | ⟨rest, hrest, -⟩
        · rw [Cut.inSegment, hnil] at hd
          cases hd
        · rw [Cut.inSegment, hrest, List.head?_cons] at hd
          exact absurd hd (by decide)

/-- The trace where the last element is a path operator: it has captured the rest of the path. -/
theorem trace_of_search (hes : ∀ e ∈ es, e.IsPlain)
    (htame : ∀ p ∈ List.flatMap Element.expressions (es ++ [.operator o]), p.regex.Tame)
    (ho : o.OfPath)
    (h : (patternExpression (es ++ [.operator o]) tailGroup).regex.search path = some trace) :
    ∃ us captured, List.Forall₂ Element.Records es us ∧ path = textOf us ++ captured ∧
      trace = matchTrace (es ++ [.operator o]) (us ++ [some captured]) [] tailGroup ∧
      (o.kind = .before → captured = [] ∨ ∃ rest, captured = '/' :: rest) := by
  have hne : es ++ [.operator o] ≠ [] := by simp
  rw [patternExpression, ← framed, search_framed htame] at h
  rcases Option.map_eq_some_iff.mp h with ⟨t, ht, rfl⟩
  rw [List.flatMap_append, Pattern.prefer_seqs_append] at ht
  rcases exists_pieces_of_prefer hes ht with ⟨us, d, s, hus, hpass, hd, rfl⟩
  rcases Operator.prefer_ofPath ho (takesRest_ending hne d) hd with ⟨rfl, hslash⟩
  refine ⟨us, d.after, hus, hpass.1, ?_, hslash⟩
  have hindex := hpass.index_of_start
  have hend : d.toEnd.index = (textOf us).length + d.after.length := by
    rw [d.passes_toEnd.index_eq, hindex]
  have hstart : Cut.index ⟨[], path⟩ = 0 := rfl
  have hafter : d.toEnd.after = [] := rfl
  rw [matchTrace, Element.boundariesAll_append hus.length_eq]
  simp [boundariesAll, Element.boundaries, Element.group?, endingTrace, hindex, hend, hstart,
    hafter]

/-- At the end of a template a path operator captures the rest of the path, and leaves no tail. -/
theorem WellFormed.captured_of_search {t : Template} (ht : t.WellFormed)
    (helements : t.elements = es ++ [.operator o]) (ho : o.OfPath)
    (h : t.regex.search path = some trace) :
    ∃ captured start, captured <:+ path ∧
      trace.capture path o.group = some (captured, start) ∧
      trace.capture path t.tailGroup = some ([], Text.byteLength path) ∧
      (o.kind = .before → captured = [] ∨ ∃ rest, captured = '/' :: rest) := by
  have hplain := ht.isPlain_of_operator (o := o) (by simp [helements])
  have htame := ht.tame
  have hnumbered := ht.numbered
  rw [ht.regex_eq hplain] at h
  rw [helements] at h hplain htame hnumbered
  have hes : ∀ e ∈ es, e.IsPlain := fun e he => hplain e (List.mem_append_left _ he)
  rcases trace_of_search hes htame ho h with ⟨us, captured, hus, hpath, rfl, hslash⟩
  have hwhole : path = textOf (us ++ [some captured]) ++ [] := by simp [hpath]
  refine ⟨captured, (textOf us).byteLength, ⟨textOf us, hpath.symm⟩, ?_, ?_, hslash⟩
  · rw [hwhole]
    exact capture_element hnumbered hus.length_eq rfl
  · rw [hwhole, capture_tailGroup, List.append_nil]

end Template

/-! ## Matchers -/

namespace Matcher

/-- Where the last element is a path operator, no match leaves a tail.  The operator captures the
rest of the path, and its values are the segments of what it has captured, if no other element has
its name: all of them if it is a list, those after the leading slash if the slash stands before each
value.  In that case nothing is bound if nothing is captured. -/
theorem run_pathOperator {text : Text} {opts : CompileOptions} (m : Matcher)
    (ht : (Template.compileWith text opts).value = .ok m.template) {o : Operator}
    (hlast : m.template.elements.getLast? = some (.operator o)) (ho : o.OfPath) {path : Text}
    {m' : Matcher} (hrun : (m.run path).value = (true, m')) :
    m'.tail false = .ok [] ∧
      ∃ captured values, m'.groupText o.group = .ok captured ∧ captured <:+ path ∧
        m'.allValues false = .ok values ∧
        ((∀ e ∈ m.template.elements.dropLast, o.first.1 ∉ e.names) →
          (o.kind = .list → values.get o.first.1 = (Text.split '/' captured).map some) ∧
          (o.kind = .before →
            captured = [] ∧ values.get o.first.1 = [none] ∨
              ∃ rest, captured = '/' :: rest ∧
                values.get o.first.1 = (Text.split '/' rest).map some)) := by
  rcases Template.wellFormed_of_compileWith ht with ⟨hwell, -⟩
  rcases matched_of_run hrun with ⟨trace, htrace, rfl⟩
  obtain ⟨es, helements⟩ := List.getLast?_eq_some_iff.mp hlast
  rcases hwell.captured_of_search helements ho htrace with
    ⟨captured, start, hsuffix, hcapture, htail, hslash⟩
  refine ⟨?_, captured, (m.template.bindings trace path).values, ?_, hsuffix, rfl, ?_⟩
  · simp [Matcher.tail, groupText, matched, htail, bind, Except.bind, decoded]
  · simp [groupText, matched, hcapture, bind, Except.bind]
  · intro hothers
    have hchecked : o.Checked := (hwell.built (.operator o) (by simp [helements])).2
    rw [helements, List.dropLast_concat] at hothers
    -- The values are those of the operator alone, cut from what it has captured.
    have hget : (m.template.bindings trace path).values.get o.first.1 =
        o.gives captured o.first.1 := by
      rw [Template.get_bindings_of_only hwell helements hothers (by simp), Element.gives,
        Element.captureIn, Element.group?, Option.bind_some, hcapture]
      rfl
    rw [hget, Operator.gives, if_pos hchecked.first_mem_names, ho.2]
    simp only [Text.splitBy_singleton]
    constructor
    · intro hkind
      rw [hkind]
    · intro hkind
      rw [hkind]
      rcases hslash hkind with rfl | ⟨rest, rfl⟩
      · exact .inl ⟨rfl, rfl⟩
      · exact .inr ⟨rest, rfl, rfl⟩

theorem run_pathOperator_files :
    ∃ t m' values,
      (Template.compileWith "files\x7b-prefix|/|p\x7d/".toList { dialect := .extended }).value =
        .ok t ∧
      (t.matcher.run "files/a//b".toList).value = (true, m') ∧ m'.tail false = .ok [] ∧
      m'.allValues false = .ok values ∧
      values.get ['p'] = [some ['a'], some [], some ['b']] := by
  let path := "files/a//b".toList
  let o : Operator := ⟨.before, ['/'], [(['p'], none)], 2⟩
  have hok : (Template.compileWith "files\x7b-prefix|/|p\x7d/".toList
      { dialect := .extended }).value.toOption.any (fun t =>
        t.elements == [.literal "files".toList, .operator o] &&
          (t.regex.search path).any fun trace =>
            (groupText ⟨t, path, some trace⟩ 2).toOption == some "/a//b".toList) = true := by
    decide +kernel
  rcases exists_ok_of_any hok with ⟨t, ht, htest⟩
  rcases Bool.and_eq_true_iff.mp htest with ⟨helements, hsearch⟩
  replace helements := eq_of_beq helements
  rcases Option.any_eq_true _ _ |>.mp hsearch with ⟨trace, htrace, hgroup⟩
  have hlast : t.matcher.template.elements.getLast? = some (.operator o) :=
    congrArg List.getLast? helements
  have hothers : ∀ e ∈ t.matcher.template.elements.dropLast, o.first.1 ∉ e.names := by
    rw [Template.matcher, helements]
    simp [Element.names]
  have hrun := run_of_search htrace
  rcases run_pathOperator t.matcher ht hlast (by decide) hrun with
    ⟨htail, captured, values, hcaptured, -, hvalues, hget⟩
  -- The group has captured all behind the literal, and its pieces are the values.
  have hsame := eq_of_beq hgroup
  rw [hcaptured] at hsame
  obtain rfl : captured = "/a//b".toList := Option.some.inj hsame
  rcases (hget hothers).2 rfl with ⟨hnil, -⟩ | ⟨rest, hrest, hp⟩
  · cases hnil
  · obtain rfl := (List.cons.inj hrest).2
    exact ⟨t, _, values, ht, hrun, htail, hvalues, hp⟩

end Matcher
end PathTemplate
