import Mathlib.Data.List.Lex
import Mathlib.Order.Bounds.Basic
import PathTemplate.Proofs.Template.Bindings
import PathTemplate.Proofs.Template.Preference

/-!
# Shortest split — which of the ways to cut a path a match takes

A path can be made up of pieces in many ways, where variables are neighbours or a literal occurs in
a value as well.  Values are as short as possible, an earlier one rather than a later one.

- `Template.variableLengths` : the octets under each variable, in template order
- `Template.exists_shortest_pieces` : the pieces of a preferred outcome come first among all
- `Template.pieces_eq_of_lengths` : the lengths of the values determine the pieces
- `Matcher.run_shortest`     : in a match they are the lexicographically least
-/

namespace PathTemplate
namespace Template

open Element (textOf boundariesAll)

/-- The numbers of octets of the pieces of variables, in template order. -/
def variableLengths : List Element → List Text → List Nat
  | .variable _ :: es, u :: us => u.byteLength :: variableLengths es us
  | _ :: es, _ :: us => variableLengths es us
  | _, _ => []

variable {es : List Element} {us : List (Option Text)} {c d : Cut} {k : Continuation} {t : Trace}

/-- An outcome of a variable without a constraint: a value after which the rest succeeds, and after
none that is shorter. -/
theorem exists_value_of_prefer {v : Variable}
    (h : (Pattern.group v.group .someValue).regex.prefer k c = some t) :
    ∃ u d s, u ∈ someSlashFree ∧ c.Passes u d ∧ k d = some s ∧
      t = (Element.variable v).boundaries (some u) c.index ++ s ∧
      ∀ w e, w ∈ someSlashFree → w.length < u.length → c.Passes w e → k e = none := by
  rcases Option.map_eq_some_iff.mp h with ⟨t', ht', rfl⟩
  rcases Regex.exists_shortest ht' with ⟨u, d, hne, hu, hpass, hd, hshorter⟩
  rcases Option.map_eq_some_iff.mp hd with ⟨s, hs, rfl⟩
  have hslash : '/' ∉ u := fun hmem => CharClass.has_compl_single.mp (hu '/' hmem) rfl
  refine ⟨u, d, s, ⟨hne, hslash⟩, hpass, hs, ?_, ?_⟩
  · rw [hpass.index_eq]
    rfl
  · intro w e hw hlength hpassw
    have hnone := hshorter w e hw.1 hlength hpassw
    simpa using hnone

theorem tame_of_isFree (hes : ∀ e ∈ es, e.IsFree) :
    ∀ p ∈ es.flatMap Element.expressions, p.regex.Tame := by
  intro p hp
  rcases List.mem_flatMap.mp hp with ⟨e, he, hp⟩
  refine Element.tame_expressions ?_ p hp
  rintro o rfl
  exact (hes _ he).elim

/-- Of two beginnings of a text, one that is not longer comes first by its octets; and if it is the
other, then what follows decides. -/
theorem cons_byteLength_le {u w v : Text} {ls ms : List Nat} (hu : u <+: v) (hw : w <+: v)
    (hshort : ¬w.length < u.length) (hrest : u = w → ls ≤ ms) :
    u.byteLength :: ls ≤ w.byteLength :: ms := by
  rcases Nat.lt_trichotomy u.byteLength w.byteLength with hlt | heq | hgt
  · exact le_of_lt (.rel hlt)
  · obtain rfl : u = w :=
      Text.eq_of_prefix_of_le (Text.prefix_of_byteLength_le hu hw heq.le) heq.ge
    exact List.cons_le_cons _ (hrest rfl)
  · exact absurd (Text.length_lt_of_byteLength_lt hw hu hgt) hshort

/-- The pieces of an outcome of free elements come lexicographically first, by their lengths, among
all pieces after which the rest can succeed. -/
theorem exists_shortest_pieces (hes : ∀ e ∈ es, e.IsFree)
    (h : (Pattern.seqs (es.flatMap Element.expressions)).regex.prefer k c = some t) :
    ∃ us d s, List.Forall₂ Element.Records es us ∧ c.Passes (textOf us) d ∧ k d = some s ∧
      t = boundariesAll es us c.index ++ s ∧
      ∀ vs e, List.Forall₂ Element.Records es vs → c.Passes (textOf vs) e → (k e).isSome = true →
        variableLengths es (us.map fun u => u.getD []) ≤
          variableLengths es (vs.map fun v => v.getD []) := by
  -- The first element settles where the others begin; for a longer first value they do not matter.
  induction es generalizing c t with
  | nil =>
      refine ⟨[], c, t, .nil, Cut.Passes.refl c, h, rfl, ?_⟩
      intro vs e hvs _ _
      cases hvs
      exact le_refl _
  | cons x es ih =>
      have hx := hes x List.mem_cons_self
      have hrest : ∀ e ∈ es, e.IsFree := fun e he => hes e (List.mem_cons_of_mem x he)
      rw [List.flatMap_cons, Pattern.prefer_seqs_append] at h
      cases x with
      | operator o => exact hx.elim
      | literal s =>
          rcases (Pattern.Spells.ofChars s).passes_of_prefer h with ⟨u, hu, d₁, hpass, h'⟩
          obtain rfl : u = s := hu
          rcases ih hrest h' with ⟨us, d, t', hus, hpass', hd, rfl, hleast⟩
          refine ⟨some u :: us, d, t', .cons rfl hus, hpass.trans hpass', hd, ?_, ?_⟩
          · rw [boundariesAll, hpass.index_eq]
            rfl
          · intro vs e hvs hpassv he
            obtain ⟨_, vs, rfl, hvs', rfl⟩ := List.forall₂_cons_left_iff.mp hvs
            rcases hpassv.split with ⟨hfirst, hothers⟩
            rw [← hpass.unique hfirst] at hothers
            exact hleast vs e hvs' hothers he
      | «variable» v =>
          rcases exists_value_of_prefer h with ⟨u, d₁, s, hu, hpass, h', rfl, hshorter⟩
          rcases ih hrest h' with ⟨us, d, t', hus, hpass', hd, rfl, hleast⟩
          refine ⟨some u :: us, d, t', .cons ⟨u, hu, rfl⟩ hus, hpass.trans hpass', hd, ?_, ?_⟩
          · rw [boundariesAll, hpass.index_eq, List.append_assoc]
            rfl
          · intro vs e hvs hpassv he
            obtain ⟨_, vs, ⟨w, hw, rfl⟩, hvs', rfl⟩ := List.forall₂_cons_left_iff.mp hvs
            rcases hpassv.split with ⟨hfirst, hothers⟩
            refine cons_byteLength_le ⟨_, hpass.1.symm⟩ ⟨_, hfirst.1.symm⟩ ?_ ?_
            · -- After a shorter value the rest fails, and yet it has pieces there.
              intro hshort
              have hnone := hshorter w _ hw hshort hfirst
              have hsome := isSome_prefer_of_pieces (fun e he => (hrest e he).isPlain)
                (tame_of_isFree hrest) hvs' hothers he
              rw [hnone] at hsome
              cases hsome
            · rintro rfl
              rw [← hpass.unique hfirst] at hothers
              exact hleast vs e hvs' hothers he

/-- The lengths of the values determine where a path is cut. -/
theorem pieces_eq_of_lengths {us vs : List Text} {x y : Text} (hes : ∀ e ∈ es, e.IsFree)
    (hus : List.Forall₂ (fun e u => u ∈ e.pieces) es us)
    (hvs : List.Forall₂ (fun e v => v ∈ e.pieces) es vs)
    (hpath : us.flatten ++ x = vs.flatten ++ y)
    (hlengths : variableLengths es us = variableLengths es vs) : us = vs := by
  induction hus generalizing vs with
  | nil => exact (List.forall₂_nil_left_iff.mp hvs).symm
  | @cons e u es us hu hus ih =>
      obtain ⟨v, vs, hv, hvs', rfl⟩ := List.forall₂_cons_left_iff.mp hvs
      have hrest : ∀ e ∈ es, e.IsFree := fun e' he' => hes e' (List.mem_cons_of_mem e he')
      simp only [List.flatten_cons, List.append_assoc] at hpath
      -- Two values that begin at one place and are of one length are the same.
      have hsame : u = v ∧ variableLengths es us = variableLengths es vs := by
        have he := hes e List.mem_cons_self
        cases e with
        | operator o => exact he.elim
        | literal s => exact ⟨hu.trans hv.symm, hlengths⟩
        | «variable» w =>
            obtain ⟨heq, hlengths⟩ := List.cons.inj hlengths
            have hu' : u <+: u ++ (us.flatten ++ x) := List.prefix_append u _
            have hv' : v <+: u ++ (us.flatten ++ x) := hpath ▸ List.prefix_append v _
            exact ⟨Text.eq_of_prefix_of_le (Text.prefix_of_byteLength_le hu' hv' heq.le) heq.ge,
              hlengths⟩
      obtain ⟨rfl, hlengths'⟩ := hsame
      rw [ih hrest hvs' (List.append_cancel_left hpath) hlengths']

/-- The pieces that a search finds, and every other way to make up the path. -/
theorem shortest_of_search {path : Text} {tailGroup : Nat} {trace : Trace}
    (hes : ∀ e ∈ es, e.IsFree)
    (h : (patternExpression es tailGroup).regex.search path = some trace) :
    ∃ us tail, List.Forall₂ Element.Records es us ∧ tail ∈ tails es ∧ path = textOf us ++ tail ∧
      trace = matchTrace es us tail tailGroup ∧
      ∀ pieces tail', Splits es pieces tail' path →
        variableLengths es (us.map fun u => u.getD []) ≤ variableLengths es pieces := by
  rw [patternExpression, ← framed, search_framed (tame_of_isFree hes)] at h
  rcases Option.map_eq_some_iff.mp h with ⟨t, ht, rfl⟩
  rcases exists_shortest_pieces hes ht with ⟨us, d, s, hus, hpass, hd, rfl, hleast⟩
  rcases ending_eq_some_iff.mp hd with ⟨htail, rfl⟩
  have hindex := hpass.index_of_start
  refine ⟨us, d.after, hus, htail, hpass.1, ?_, ?_⟩
  · rw [endingTrace, hindex]
    rfl
  · rintro pieces tail' ⟨hpieces, htail', hpath⟩
    rcases exists_records hpieces with ⟨vs, hvs, rfl⟩
    rw [← textOf_eq_flatten] at hpath
    refine hleast vs ⟨(textOf vs).reverse, tail'⟩ hvs ⟨hpath, (List.append_nil _).symm⟩ ?_
    exact Option.isSome_iff_exists.mpr ⟨_, ending_eq_some_iff.mpr ⟨htail', rfl⟩⟩

end Template

/-! ## Matchers -/

namespace Matcher

open Template (Splits pieceOf variableLengths)

/-- Of all ways to make up a path from the literals, values for the variables and a tail, a match
takes the one for which the lengths of the values, in template order, come lexicographically
first.  There is only one such way. -/
theorem run_shortest {text : Text} {o : CompileOptions} (m : Matcher)
    (ht : (Template.compileWith text o).value = .ok m.template)
    (hfree : ∀ e ∈ m.template.elements, e.IsFree) {path : Text} {m' : Matcher}
    (hrun : (m.run path).value = (true, m')) :
    ∃ trace, m'.matched = .ok trace ∧
      IsLeast
        {lengths | ∃ pieces tail, Splits m.template.elements pieces tail path ∧
          variableLengths m.template.elements pieces = lengths}
        (variableLengths m.template.elements (m.template.elements.map (pieceOf trace path))) ∧
      ∀ pieces tail, Splits m.template.elements pieces tail path →
        variableLengths m.template.elements pieces =
          variableLengths m.template.elements (m.template.elements.map (pieceOf trace path)) →
        pieces = m.template.elements.map (pieceOf trace path) := by
  rcases Template.wellFormed_of_compileWith ht with ⟨hwell, -⟩
  rcases matched_of_run hrun with ⟨trace, htrace, rfl⟩
  rw [hwell.regex_eq fun e he => (hfree e he).isPlain] at htrace
  rcases Template.shortest_of_search hfree htrace with ⟨us, tail, hus, htail, rfl, rfl, hleast⟩
  refine ⟨_, rfl, ?_⟩
  rw [Template.map_pieceOf hwell.numbered (Template.literalFits_of_records hus)]
  -- The match is one of the splits, and those with the same lengths have the same pieces.
  have hchosen : Splits m.template.elements (us.map fun u => u.getD []) tail
      (Element.textOf us ++ tail) :=
    ⟨Template.forall₂_pieces hus, htail, by rw [Template.textOf_eq_flatten]⟩
  refine ⟨⟨⟨_, tail, hchosen, rfl⟩, ?_⟩, ?_⟩
  · rintro _ ⟨pieces, tail', hsplits, rfl⟩
    exact hleast pieces tail' hsplits
  · intro pieces tail' hsplits hlengths
    exact Template.pieces_eq_of_lengths hfree hsplits.forall₂ hchosen.forall₂
      (hsplits.path_eq.symm.trans hchosen.path_eq) hlengths

theorem run_shortest_range :
    ∃ t m', (Template.compileWith "{a}-{b}".toList {}).value = .ok t ∧
      (t.matcher.run "1-2-3/4".toList).value = (true, m') ∧
      IsLeast {lengths | ∃ pieces tail, Splits t.elements pieces tail "1-2-3/4".toList ∧
        variableLengths t.elements pieces = lengths} [1, 3] := by
  let path := "1-2-3/4".toList
  have hok : (Template.compileWith "{a}-{b}".toList {}).value.toOption.any (fun t =>
      decide (∀ e ∈ t.elements, e.IsFree) && (t.regex.search path).any fun trace =>
        variableLengths t.elements (t.elements.map (pieceOf trace path)) == [1, 3]) = true := by
    decide +kernel
  rcases exists_ok_of_any hok with ⟨t, ht, htest⟩
  rcases Bool.and_eq_true_iff.mp htest with ⟨hfree, hsearch⟩
  rcases Option.any_eq_true _ _ |>.mp hsearch with ⟨trace, htrace, hlengths⟩
  have hrun := run_of_search htrace
  rcases run_shortest t.matcher ht (of_decide_eq_true hfree) hrun with ⟨_, hmatched, hleast, -⟩
  cases hmatched
  rw [Template.matcher, eq_of_beq hlengths] at hleast
  exact ⟨t, _, ht, hrun, hleast⟩

end Matcher
end PathTemplate
