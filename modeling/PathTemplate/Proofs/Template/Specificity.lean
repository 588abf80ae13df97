import PathTemplate.Proofs.Template.Building
import PathTemplate.Proofs.Template.Sorting

/-!
# Specificity — when the order of templates ranks them

Templates are compared by literal characters, then by names, and two of the simple dialect also by
constraints.  The last key is not asked across dialects, so a template of the extended dialect may
tie with two of the simple dialect that do not tie with each other.

- `Template.compareSpecificity_swap` : comparing the other way round turns the order
- `Template.Bridges`                 : an extended template between two simple ones
- `Template.isLE_trans`              : without a bridge, the order is transitive
- `Template.Unbridged`               : no template of a list bridges two others
- `Template.not_same_ranks_of_bridges` : around a bridge, the ranks depend on the order of entry
- `Template.specificity_ranks`       : the laws of the order, and the lists it ranks
-/

namespace PathTemplate
namespace Template

variable {a b c : Template}

/-! ## The order -/

/-- `a` comes first if it is ahead in the first key in which the two differ. -/
theorem compareSpecificity_eq_lt_iff :
    compareSpecificity a b = .lt ↔
      b.literalChars < a.literalChars ∨
      (b.literalChars = a.literalChars ∧ b.variableCount < a.variableCount) ∨
      (b.literalChars = a.literalChars ∧ b.variableCount = a.variableCount ∧
        a.dialect = .simple ∧ b.dialect = .simple ∧ b.constrained < a.constrained) := by
  simp only [compareSpecificity, Ordering.then_eq_lt, Nat.compare_eq_lt, Nat.compare_eq_eq]
  split
  case isTrue h => simp only [Nat.compare_eq_lt, h.1, h.2]; tauto
  case isFalse h => simp only [reduceCtorEq]; tauto

theorem compareSpecificity_swap (a b : Template) :
    compareSpecificity b a = (compareSpecificity a b).swap := by
  simp only [compareSpecificity, Ordering.swap_then, Nat.compare_swap]
  by_cases h : a.dialect = .simple ∧ b.dialect = .simple
  · rw [if_pos h, if_pos h.symm, Nat.compare_swap]
  · rw [if_neg h, if_neg fun h' => h h'.symm, Ordering.swap_eq]

/-- `a` comes no later than `b` if `b` is not ahead. -/
theorem isLE_iff : (compareSpecificity a b).isLE = true ↔ compareSpecificity b a ≠ .lt := by
  rw [compareSpecificity_swap a b]
  cases compareSpecificity a b <;> decide

theorem compareSpecificity_eq_eq_iff :
    compareSpecificity a b = .eq ↔
      (compareSpecificity a b).isLE = true ∧ (compareSpecificity b a).isLE = true := by
  rw [compareSpecificity_swap a b]
  cases compareSpecificity a b <;> decide

/-! ## Bridges -/

/-- `b` bridges `a` and `c`: the three have as many literal characters and names, and `b` is of the
extended dialect, but `a` and `c` are of the simple one and differ in their constraints. -/
structure Bridges (b a c : Template) : Prop where
  dialect : b.dialect = .extended
  left_dialect : a.dialect = .simple
  right_dialect : c.dialect = .simple
  left_literalChars : a.literalChars = b.literalChars
  right_literalChars : c.literalChars = b.literalChars
  left_variableCount : a.variableCount = b.variableCount
  right_variableCount : c.variableCount = b.variableCount
  constrained_ne : a.constrained ≠ c.constrained

theorem Bridges.symm (h : Bridges b a c) : Bridges b c a :=
  ⟨h.dialect, h.right_dialect, h.left_dialect, h.right_literalChars, h.left_literalChars,
    h.right_variableCount, h.left_variableCount, h.constrained_ne.symm⟩

theorem Bridges.left_ne (h : Bridges b a c) : a ≠ b := by
  rintro rfl
  have hdialect := h.dialect
  rw [h.left_dialect] at hdialect
  cases hdialect

/-- A bridge ties with both of its ends, which do not tie with each other. -/
theorem Bridges.not_trans (h : Bridges b a c) :
    compareSpecificity a b = .eq ∧ compareSpecificity b c = .eq ∧ compareSpecificity a c ≠ .eq := by
  have hl := h.left_literalChars
  have hr := h.right_literalChars
  have hl' := h.left_variableCount
  have hr' := h.right_variableCount
  have hne := h.constrained_ne
  refine ⟨?_, ?_, ?_⟩
  · simp [compareSpecificity, hl, hl', h.dialect]
  · simp [compareSpecificity, hr, hr', h.dialect]
  · simp [compareSpecificity, hl, hl', hr, hr', h.left_dialect, h.right_dialect, hne.symm]

/-- `a` comes no later than `b` if it is not behind in the first key in which the two differ. -/
theorem isLE_iff_keys :
    (compareSpecificity a b).isLE = true ↔
      b.literalChars ≤ a.literalChars ∧
      (b.literalChars = a.literalChars → b.variableCount ≤ a.variableCount) ∧
      (b.literalChars = a.literalChars → b.variableCount = a.variableCount →
        a.dialect = .simple → b.dialect = .simple → b.constrained ≤ a.constrained) := by
  rw [isLE_iff, Ne, compareSpecificity_eq_lt_iff]
  grind

/-- Without a bridge, what comes no later than something comes no later than what follows it. -/
theorem isLE_trans (h : ¬ Bridges b a c) (hab : (compareSpecificity a b).isLE = true)
    (hbc : (compareSpecificity b c).isLE = true) : (compareSpecificity a c).isLE = true := by
  rw [isLE_iff_keys] at hab hbc ⊢
  rcases hab with ⟨hchars, hnames, hconstraints⟩
  rcases hbc with ⟨hchars', hnames', hconstraints'⟩
  refine ⟨by omega, by omega, ?_⟩
  intro heq heq' ha hc
  -- All three tie in the first two keys; a simple `b` passes the last one on.
  cases hb : b.dialect with
  | simple =>
      have hleft := hconstraints (by omega) (by omega) ha hb
      have hright := hconstraints' (by omega) (by omega) hb hc
      exact Nat.le_trans hright hleft
  | extended =>
      have hsame : a.constrained = c.constrained := by
        by_contra hne
        exact h ⟨hb, ha, hc, by omega, by omega, by omega, by omega, hne⟩
      exact Nat.le_of_eq hsame.symm

theorem eq_trans (h : ¬ Bridges b a c) (hab : compareSpecificity a b = .eq)
    (hbc : compareSpecificity b c = .eq) : compareSpecificity a c = .eq := by
  rw [compareSpecificity_eq_eq_iff] at hab hbc ⊢
  have hback : ¬ Bridges b c a := by
    intro hbridge
    exact h hbridge.symm
  exact ⟨isLE_trans h hab.1 hbc.1, isLE_trans hback hbc.2 hab.2⟩

/-! ## Templates in order -/

variable {α : Type} {template : α → Template} {xs : List α}

/-- No template of the list bridges two others. -/
def Unbridged (template : α → Template) (xs : List α) : Prop :=
  ∀ x ∈ xs, ∀ y ∈ xs, ∀ z ∈ xs, ¬ Bridges (template y) (template x) (template z)

theorem Unbridged.transOn (h : Unbridged template xs) :
    TransOn (fun x y => compareSpecificity (template x) (template y)) xs := by
  intro x hx y hy z hz hxy hyz
  exact isLE_trans (h x hx y hy z hz) hxy hyz

theorem Unbridged.mono {ys : List α} (h : Unbridged template ys) (hsub : xs ⊆ ys) :
    Unbridged template xs := by
  intro x hx y hy z hz
  exact h x (hsub hx) y (hsub hy) z (hsub hz)

theorem Unbridged.sortBySpecificity_pairwise (h : Unbridged template xs) :
    (sortBySpecificity template xs).Pairwise
      fun x y => (compareSpecificity (template x) (template y)).isLE = true :=
  sortBy_pairwise (fun _ _ => compareSpecificity_swap _ _) h.transOn

theorem Unbridged.forall₂_sortBySpecificity {ys : List α} (h : Unbridged template xs)
    (hperm : xs.Perm ys) :
    List.Forall₂ (fun x y => compareSpecificity (template x) (template y) = .eq)
      (sortBySpecificity template xs) (sortBySpecificity template ys) := by
  have hys : Unbridged template ys := h.mono hperm.symm.subset
  have hxsorted : (sortBySpecificity template xs).Perm xs := sortBy_perm _ xs
  have hysorted : (sortBySpecificity template ys).Perm ys := sortBy_perm _ ys
  exact forall₂_eq_of_sorted (fun _ _ => compareSpecificity_swap _ _)
    (h.transOn.mono hxsorted.subset) (hxsorted.trans (hperm.trans hysorted.symm))
    h.sortBySpecificity_pairwise hys.sortBySpecificity_pairwise

/-- What is ahead of a bridge is ahead in its first two keys. -/
theorem Bridges.keys_of_lt {t : Template} (h : Bridges b a c) (hlt : compareSpecificity t b = .lt) :
    b.literalChars < t.literalChars ∨
      (b.literalChars = t.literalChars ∧ b.variableCount < t.variableCount) := by
  rcases compareSpecificity_eq_lt_iff.mp hlt with hchars | hnames | ⟨-, -, -, hsimple, -⟩
  · exact .inl hchars
  · exact .inr hnames
  · rw [h.dialect] at hsimple
    cases hsimple

/-- Given an end of a bridge and then the bridge, the end is sorted behind what is ahead of the
bridge, and no further. -/
theorem Bridges.getElem?_sortBySpecificity {x y z : α} {rest : List α}
    (h : Bridges (template y) (template x) (template z)) (hperm : xs.Perm (z :: y :: rest)) :
    (sortBySpecificity template (z :: y :: rest))[
      rank (fun x y => compareSpecificity (template x) (template y)) xs y]? = some z := by
  obtain ⟨-, hyz, -⟩ := h.not_trans
  obtain ⟨hzy, -, -⟩ := h.symm.not_trans
  have hself : compareSpecificity (template y) (template y) = .eq := by
    simp [compareSpecificity]
  -- Neither the end nor the bridge itself is ahead of the bridge.
  have hrank : rank (fun x y => compareSpecificity (template x) (template y)) xs y =
      rest.countP fun w => compareSpecificity (template w) (template y) == .lt := by
    rw [rank, hperm.countP_eq]
    simp [hzy, hself]
  rw [hrank]
  refine getElem?_sortBy_held ?_ ?_ ?_
  · intro w hw
    have hkeys := h.keys_of_lt (eq_of_beq hw)
    rw [← h.right_literalChars, ← h.right_variableCount] at hkeys
    rw [beq_iff_eq, compareSpecificity_eq_lt_iff, ← or_assoc]
    exact .inl hkeys
  · intro v w hv hw
    have hkeys := h.keys_of_lt (eq_of_beq hv)
    have hback : ¬ compareSpecificity (template w) (template y) = .lt := beq_eq_false_iff_ne.mp hw
    rw [compareSpecificity_eq_lt_iff] at hback
    rw [beq_iff_eq, compareSpecificity_eq_lt_iff]
    omega
  · rw [hyz]
    rfl

theorem exists_perm_cons_cons {x y : α} (hx : x ∈ xs) (hy : y ∈ xs) (hne : x ≠ y) :
    ∃ rest, xs.Perm (x :: y :: rest) := by
  obtain ⟨s, t, rfl⟩ := List.append_of_mem hx
  have hy' : y ∈ s ++ t := by
    rcases List.mem_cons.mp (List.perm_middle.mem_iff.mp hy) with rfl | hy
    · exact absurd rfl hne
    · exact hy
  obtain ⟨u, v, huv⟩ := List.append_of_mem hy'
  refine ⟨u ++ v, List.perm_middle.trans ?_⟩
  rw [huv]
  exact List.perm_middle.cons x

/-- Around a bridge, the ranks depend on the order in which the templates are given. -/
theorem not_same_ranks_of_bridges {x y z : α} (hx : x ∈ xs) (hy : y ∈ xs) (hz : z ∈ xs)
    (h : Bridges (template y) (template x) (template z)) :
    ∃ ys zs : List α, xs.Perm ys ∧ xs.Perm zs ∧
      ¬ List.Forall₂ (fun v w => compareSpecificity (template v) (template w) = .eq)
        (sortBySpecificity template ys) (sortBySpecificity template zs) := by
  have hxy : x ≠ y := fun heq => h.left_ne (congrArg template heq)
  have hzy : z ≠ y := fun heq => h.symm.left_ne (congrArg template heq)
  -- One end of the bridge is given first, then the other one: each of them takes the same place.
  obtain ⟨rest, hperm⟩ := exists_perm_cons_cons hx hy hxy
  obtain ⟨rest', hperm'⟩ := exists_perm_cons_cons hz hy hzy
  refine ⟨x :: y :: rest, z :: y :: rest', hperm, hperm', ?_⟩
  intro hties
  obtain ⟨hlt, hget⟩ := List.getElem?_eq_some_iff.mp (h.symm.getElem?_sortBySpecificity hperm)
  obtain ⟨hlt', hget'⟩ := List.getElem?_eq_some_iff.mp (h.getElem?_sortBySpecificity hperm')
  have htie := hties.get hlt hlt'
  rw [List.get_eq_getElem, List.get_eq_getElem, hget, hget'] at htie
  exact h.not_trans.2.2 htie

/-- The order of templates, in which a bridge is all that can break the laws.  Comparing the other
way round turns the order.  Ties and coming no later are passed on unless the template between
bridges the other two, and a bridge breaks its tie.  Where no template bridges two others, sorting
puts the same things in order, whatever their order was before, up to ties; and the ranks are
independent of that order only there. -/
theorem specificity_ranks (template : α → Template) (xs : List α) :
    (∀ a b : Template, compareSpecificity b a = (compareSpecificity a b).swap) ∧
    (∀ a b c : Template, ¬ Bridges b a c →
      ((compareSpecificity a b).isLE = true → (compareSpecificity b c).isLE = true →
        (compareSpecificity a c).isLE = true) ∧
      (compareSpecificity a b = .eq → compareSpecificity b c = .eq →
        compareSpecificity a c = .eq)) ∧
    (∀ a b c : Template, Bridges b a c →
      compareSpecificity a b = .eq ∧ compareSpecificity b c = .eq ∧
        compareSpecificity a c ≠ .eq) ∧
    (Unbridged template xs → ∀ ys : List α, xs.Perm ys →
      (sortBySpecificity template xs).Perm xs ∧
      (sortBySpecificity template xs).Pairwise
        (fun x y => (compareSpecificity (template x) (template y)).isLE = true) ∧
      List.Forall₂ (fun x y => compareSpecificity (template x) (template y) = .eq)
        (sortBySpecificity template xs) (sortBySpecificity template ys)) ∧
    ((∀ ys zs : List α, xs.Perm ys → xs.Perm zs →
      List.Forall₂ (fun x y => compareSpecificity (template x) (template y) = .eq)
        (sortBySpecificity template ys) (sortBySpecificity template zs)) ↔
      Unbridged template xs) := by
  refine ⟨compareSpecificity_swap, ?_, fun a b c h => h.not_trans, ?_, ?_, ?_⟩
  · intro a b c h
    exact ⟨isLE_trans h, eq_trans h⟩
  · intro h ys hperm
    exact ⟨sortBy_perm _ xs, h.sortBySpecificity_pairwise, h.forall₂_sortBySpecificity hperm⟩
  · intro hranks x hx y hy z hz hbridge
    obtain ⟨ys, zs, hys, hzs, hdiffer⟩ := not_same_ranks_of_bridges hx hy hz hbridge
    exact hdiffer (hranks ys zs hys hzs)
  · intro h ys zs hys hzs
    exact (h.mono hys.symm.subset).forall₂_sortBySpecificity (hys.symm.trans hzs)

/-- Two routes that tie, one of each dialect, and one with more literal text, in two orders of
registration. -/
theorem specificity_ranks_items :
    ∃ a b c : Template,
      (compileWith "items/{id:[0-9]+}/new".toList {}).value = .ok a ∧
      (compileWith "items/{id}".toList { dialect := .extended }).value = .ok b ∧
      (compileWith "items/{id}".toList {}).value = .ok c ∧
      List.Forall₂ (fun x y => compareSpecificity x y = .eq)
        (sortBySpecificity id [c, b, a]) (sortBySpecificity id [a, b, c]) := by
  have hoka : (compileWith "items/{id:[0-9]+}/new".toList {}).value.toOption.any
      (fun t => t.literalChars == 10) = true := by
    decide +kernel
  have hokb : (compileWith "items/{id}".toList { dialect := .extended }).value.toOption.any
      (fun t => t.literalChars == 6) = true := by
    decide +kernel
  have hokc : (compileWith "items/{id}".toList {}).value.toOption.any (fun _ => true) = true := by
    decide +kernel
  rcases exists_ok_of_any hoka with ⟨a, ha, hkeya⟩
  rcases exists_ok_of_any hokb with ⟨b, hb, hkeyb⟩
  rcases exists_ok_of_any hokc with ⟨c, hc, _⟩
  have hchars : a.literalChars ≠ b.literalChars := by
    rw [eq_of_beq hkeya, eq_of_beq hkeyb]
    decide
  have hda := (wellFormed_of_compileWith ha).2
  have hdb := (wellFormed_of_compileWith hb).2
  have hdc := (wellFormed_of_compileWith hc).2
  -- Of the simple dialect, only `c` has as many literal characters as `b`.
  have hend : ∀ x ∈ [c, b, a], x.dialect = .simple → x.literalChars = b.literalChars → x = c := by
    intro x hx hsimple hsame
    simp only [List.mem_cons, List.not_mem_nil, or_false] at hx
    rcases hx with rfl | rfl | rfl
    · rfl
    · rw [hdb] at hsimple
      cases hsimple
    · exact absurd hsame hchars
  have hmiddle : ∀ y ∈ [c, b, a], y.dialect = .extended → y = b := by
    intro y hy hextended
    simp only [List.mem_cons, List.not_mem_nil, or_false] at hy
    rcases hy with rfl | rfl | rfl
    · rw [hdc] at hextended
      cases hextended
    · rfl
    · rw [hda] at hextended
      cases hextended
  have hperm : [c, b, a].Perm [a, b, c] := List.reverse_perm [a, b, c]
  obtain ⟨-, -, -, hsorted, -⟩ := specificity_ranks id [c, b, a]
  refine ⟨a, b, c, ha, hb, hc, (hsorted ?_ [a, b, c] hperm).2.2⟩
  intro x hx y hy z hz hbridge
  obtain rfl : y = b := hmiddle y hy hbridge.dialect
  have hxc : x = c := hend x hx hbridge.left_dialect hbridge.left_literalChars
  have hzc : z = c := hend z hz hbridge.right_dialect hbridge.right_literalChars
  exact hbridge.constrained_ne (by rw [id, id, hxc, hzc])

/-- Ties are not passed on between the dialects: a template of the extended dialect ties with one
that has a constraint and with one that has none.  Sorting leaves the three as they are given, so the
one without a constraint can stay in front of the more specific one, and the ranks depend on the order
in which they are given. -/
theorem specificity_tie_broken :
    ∃ a b c : Template,
      (compileWith "items/{id:[0-9]+}".toList {}).value = .ok a ∧
      (compileWith "items/{id}".toList { dialect := .extended }).value = .ok b ∧
      (compileWith "items/{id}".toList {}).value = .ok c ∧
      compareSpecificity a b = .eq ∧ compareSpecificity b c = .eq ∧
      compareSpecificity a c = .lt ∧ sortBySpecificity id [c, b, a] = [c, b, a] ∧
      [c, b, a].Perm [a, c, b] ∧
      ¬ List.Forall₂ (fun x y => compareSpecificity x y = .eq)
        (sortBySpecificity id [c, b, a]) (sortBySpecificity id [a, c, b]) := by
  have hoka : (compileWith "items/{id:[0-9]+}".toList {}).value.toOption.any
      (fun t => decide (t.literalChars = 6 ∧ t.variableCount = 1 ∧ t.constrained = 1)) = true := by
    decide +kernel
  have hokb : (compileWith "items/{id}".toList { dialect := .extended }).value.toOption.any
      (fun t => decide (t.literalChars = 6 ∧ t.variableCount = 1)) = true := by
    decide +kernel
  have hokc : (compileWith "items/{id}".toList {}).value.toOption.any
      (fun t => decide (t.literalChars = 6 ∧ t.variableCount = 1 ∧ t.constrained = 0)) = true := by
    decide +kernel
  rcases exists_ok_of_any hoka with ⟨a, ha, hkeya⟩
  rcases exists_ok_of_any hokb with ⟨b, hb, hkeyb⟩
  rcases exists_ok_of_any hokc with ⟨c, hc, hkeyc⟩
  rcases of_decide_eq_true hkeya with ⟨hchars, hnames, hconstrained⟩
  rcases of_decide_eq_true hkeyb with ⟨hcharsb, hnamesb⟩
  rcases of_decide_eq_true hkeyc with ⟨hcharsc, hnamesc, hconstrainedc⟩
  have hbridge : Bridges b a c :=
    { dialect := (wellFormed_of_compileWith hb).2
      left_dialect := (wellFormed_of_compileWith ha).2
      right_dialect := (wellFormed_of_compileWith hc).2
      left_literalChars := hchars.trans hcharsb.symm
      right_literalChars := hcharsc.trans hcharsb.symm
      left_variableCount := hnames.trans hnamesb.symm
      right_variableCount := hnamesc.trans hnamesb.symm
      constrained_ne := by rw [hconstrained, hconstrainedc]; decide }
  obtain ⟨hab, hbc, -⟩ := hbridge.not_trans
  have hac : compareSpecificity a c = .lt := by
    rw [compareSpecificity_eq_lt_iff]
    refine .inr (.inr ⟨hcharsc.trans hchars.symm, hnamesc.trans hnames.symm,
      hbridge.left_dialect, hbridge.right_dialect, ?_⟩)
    rw [hconstrained, hconstrainedc]
    decide
  have hca : compareSpecificity c a = .gt := by
    rw [compareSpecificity_swap a c, hac]
    rfl
  -- Each new one is compared with the one before it alone, and does not come before it.
  have hkept : sortBySpecificity id [c, b, a] = [c, b, a] := by
    simp [sortBySpecificity, sortBy, insertSorted, hbc, hab]
  -- Given in this order, the more specific one of the two comes first and stays there.
  have hfirst : sortBySpecificity id [a, c, b] = [a, c, b] := by
    simp [sortBySpecificity, sortBy, insertSorted, hbc, hca]
  refine ⟨a, b, c, ha, hb, hc, hab, hbc, hac, hkept, List.perm_append_singleton a [c, b], ?_⟩
  rw [hkept, hfirst]
  rintro (_ | ⟨h, _⟩)
  rw [hca] at h
  cases h

end Template
end PathTemplate
