import PathTemplate.Template.Specificity
import Mathlib.Data.List.Forall2
import Mathlib.Order.Basic

/-!
# Sorting — what sorting by insertion gives

Sorting is stable insertion, for any comparison.  Where to come no later is transitive, it puts
things in order.  Elsewhere two things that tie can hold each other in place: `z` is given first,
then `y`, which does not come before it, and whatever comes before `y` comes before `z` too.

- `Template.sortBy_perm`          : sorting keeps what is there
- `Template.getElem?_sortBy_held` : the place of something held by what is given after it
- `Template.sortBy_pairwise`      : sorting puts in order what can be ordered
- `Template.forall₂_eq_of_sorted` : two sorted lists of the same things tie place by place
-/

namespace PathTemplate
namespace Template

variable {α : Type} {cmp : α → α → Ordering} {x y : α} {xs ys : List α}

/-! ## The same things -/

theorem insertSorted_perm (before : α → α → Bool) (x : α) (ys : List α) :
    (insertSorted before x ys).Perm (x :: ys) := by
  induction ys with
  | nil => exact .refl _
  | cons y ys ih =>
      rw [insertSorted]
      split
      · exact (ih.cons y).trans (.swap x y ys)
      · exact .refl _

theorem foldl_insertSorted_perm (before : α → α → Bool) (xs sorted : List α) :
    (xs.foldl (fun sorted x => insertSorted before x sorted) sorted).Perm (xs ++ sorted) := by
  induction xs generalizing sorted with
  | nil => exact .refl _
  | cons x xs ih =>
      have hinsert := (insertSorted_perm before x sorted).append_left xs
      exact (ih _).trans (hinsert.trans List.perm_middle)

/-- Sorting keeps what is there. -/
theorem sortBy_perm (before : α → α → Bool) (xs : List α) : (sortBy before xs).Perm xs := by
  have hfold := foldl_insertSorted_perm before xs []
  rw [List.append_nil] at hfold
  exact (List.reverse_perm _).trans hfold

/-! ## Held places -/

section Held

variable {before : α → α → Bool} {z : α}
variable (hpass : ∀ x, before x y = true → before x z = true)
variable (hover : ∀ x w, before x y = true → before w y = false → before x w = true)
include hpass hover

/-- What comes before `y` passes all the later things, which do not, and `y` and `z` with them;
nothing else passes `y`. -/
theorem insertSorted_held (x : α) {later earlier : List α}
    (hlater : ∀ w ∈ later, before w y = false) :
    insertSorted before x (later ++ y :: z :: earlier) =
      if before x y then later ++ y :: z :: insertSorted before x earlier
      else insertSorted before x later ++ y :: z :: earlier := by
  induction later with
  | nil =>
      cases hx : before x y with
      | true => simp [insertSorted, hx, hpass x hx]
      | false => simp [insertSorted, hx]
  | cons w later ih =>
      have ih := ih fun v hv => hlater v (List.mem_cons_of_mem w hv)
      have hw : before w y = false := hlater w List.mem_cons_self
      rw [List.cons_append, insertSorted, ih]
      cases hx : before x y with
      | true => simp [hover x w hx hw]
      | false =>
          cases hxw : before x w with
          | true => simp [insertSorted, hxw]
          | false => simp [insertSorted, hxw]

/-- Whatever is inserted, `y` and `z` stay together, and the things earlier than the two grow by
those that come before `y`. -/
theorem foldl_insertSorted_held (later earlier : List α)
    (hlater : ∀ w ∈ later, before w y = false) :
    ∃ later' earlier' : List α,
      xs.foldl (fun sorted x => insertSorted before x sorted) (later ++ y :: z :: earlier) =
        later' ++ y :: z :: earlier' ∧
      earlier'.length = earlier.length + xs.countP (before · y) := by
  induction xs generalizing later earlier with
  | nil => exact ⟨later, earlier, rfl, rfl⟩
  | cons x xs ih =>
      rw [List.foldl_cons, insertSorted_held hpass hover x hlater, List.countP_cons]
      cases hx : before x y with
      | true =>
          obtain ⟨later', earlier', heq, hlength⟩ :=
            ih later (insertSorted before x earlier) hlater
          have hmore := (insertSorted_perm before x earlier).length_eq
          rw [List.length_cons] at hmore
          refine ⟨later', earlier', heq, ?_⟩
          rw [hlength, hmore, if_pos rfl]
          omega
      | false =>
          have hlater' : ∀ w ∈ insertSorted before x later, before w y = false := by
            intro w hw
            rcases List.mem_cons.mp ((insertSorted_perm before x later).mem_iff.mp hw) with rfl | hw
            · exact hx
            · exact hlater w hw
          obtain ⟨later', earlier', heq, hlength⟩ := ih _ earlier hlater'
          exact ⟨later', earlier', heq, hlength⟩

/-- If `z` and `y` are given first, `z` is sorted right behind what comes before `y`. -/
theorem getElem?_sortBy_held (hyz : before y z = false) :
    (sortBy before (z :: y :: xs))[xs.countP (before · y)]? = some z := by
  have hstart : insertSorted before y (insertSorted before z []) = [] ++ y :: z :: [] := by
    simp [insertSorted, hyz]
  obtain ⟨later, earlier, heq, hlength⟩ :=
    @foldl_insertSorted_held _ _ xs _ _ hpass hover [] [] (by simp)
  rw [List.length_nil, Nat.zero_add] at hlength
  rw [sortBy, List.foldl_cons, List.foldl_cons, hstart, heq, ← hlength]
  simp

end Held

/-! ## Order -/

/-- Among these things, to come no later is transitive. -/
def TransOn (cmp : α → α → Ordering) (xs : List α) : Prop :=
  ∀ x ∈ xs, ∀ y ∈ xs, ∀ z ∈ xs,
    (cmp x y).isLE = true → (cmp y z).isLE = true → (cmp x z).isLE = true

theorem TransOn.mono (h : TransOn cmp ys) (hsub : xs ⊆ ys) : TransOn cmp xs := by
  intro x hx y hy z hz
  exact h x (hsub hx) y (hsub hy) z (hsub hz)

/-- How many things come before `x`. -/
def rank (cmp : α → α → Ordering) (xs : List α) (x : α) : Nat := xs.countP fun y => cmp y x == .lt

variable (hswap : ∀ x y, cmp y x = (cmp x y).swap)
include hswap

theorem isLE_of_not_lt (h : cmp x y ≠ .lt) : (cmp y x).isLE = true := by
  rw [hswap x y]
  cases hxy : cmp x y with
  | lt => exact absurd hxy h
  | eq => rfl
  | gt => rfl

theorem not_lt_of_isLE (h : (cmp x y).isLE = true) : cmp y x ≠ .lt := by
  rw [hswap x y]
  cases hxy : cmp x y with
  | lt => decide
  | eq => decide
  | gt => rw [hxy] at h; cases h

/-- Inserting keeps the order, which is that of the last things first. -/
theorem insertSorted_pairwise (htrans : TransOn cmp (x :: ys))
    (h : ys.Pairwise fun y z => (cmp z y).isLE = true) :
    (insertSorted (fun x y => cmp x y == .lt) x ys).Pairwise
      fun y z => (cmp z y).isLE = true := by
  induction ys with
  | nil => exact List.pairwise_singleton _ _
  | cons y ys ih =>
      rcases List.pairwise_cons.mp h with ⟨hy, hys⟩
      rw [insertSorted]
      split
      case isTrue hbefore =>
        refine List.pairwise_cons.mpr ⟨?_, ih (htrans.mono ?_) hys⟩
        · intro z hz
          rcases List.mem_cons.mp ((insertSorted_perm _ x ys).mem_iff.mp hz) with rfl | hz
          · rw [eq_of_beq hbefore]
            rfl
          · exact hy z hz
        · exact List.cons_subset_cons x (List.subset_cons_self y ys)
      case isFalse hbefore =>
        have hyx : (cmp y x).isLE = true :=
          isLE_of_not_lt hswap fun hlt => hbefore (beq_iff_eq.mpr hlt)
        refine List.pairwise_cons.mpr ⟨?_, h⟩
        intro z hz
        rcases List.mem_cons.mp hz with rfl | hz'
        · exact hyx
        -- What comes no later than `y` comes no later than `x`.
        · exact htrans z (List.mem_cons_of_mem x hz) y (by simp) x (by simp) (hy z hz') hyx

theorem foldl_insertSorted_pairwise {sorted : List α} (htrans : TransOn cmp (xs ++ sorted))
    (h : sorted.Pairwise fun y z => (cmp z y).isLE = true) :
    (xs.foldl (fun sorted x => insertSorted (fun x y => cmp x y == .lt) x sorted) sorted).Pairwise
      fun y z => (cmp z y).isLE = true := by
  induction xs generalizing sorted with
  | nil => exact h
  | cons x xs ih =>
      have hinsert := insertSorted_pairwise hswap
        (htrans.mono (List.cons_subset_cons x (List.subset_append_right xs sorted))) h
      refine ih (htrans.mono ?_) hinsert
      have hperm := (insertSorted_perm (fun x y => cmp x y == .lt) x sorted).append_left xs
      exact (hperm.trans List.perm_middle).subset

/-- Sorting puts in order what can be ordered. -/
theorem sortBy_pairwise (htrans : TransOn cmp xs) :
    (sortBy (fun x y => cmp x y == .lt) xs).Pairwise fun x y => (cmp x y).isLE = true := by
  refine List.pairwise_reverse.mpr ?_
  exact foldl_insertSorted_pairwise hswap (by rwa [List.append_nil]) .nil

/-! ## Ranks -/

theorem lt_of_lt_of_isLE {z : α} (htrans : TransOn cmp xs) (hx : x ∈ xs) (hy : y ∈ xs)
    (hz : z ∈ xs) (hzx : cmp z x = .lt) (h : (cmp x y).isLE = true) : cmp z y = .lt := by
  -- If `z` were not ahead of `y`, then `x` would come no later than `z`.
  by_contra hzy
  have hyz := isLE_of_not_lt hswap hzy
  exact not_lt_of_isLE hswap (htrans x hx y hy z hz h hyz) hzx

theorem rank_le (htrans : TransOn cmp xs) (hx : x ∈ xs) (hy : y ∈ xs)
    (h : (cmp x y).isLE = true) : rank cmp xs x ≤ rank cmp xs y := by
  refine List.countP_mono_left ?_
  intro z hz hzx
  exact beq_iff_eq.mpr (lt_of_lt_of_isLE hswap htrans hx hy hz (eq_of_beq hzx) h)

theorem rank_lt (htrans : TransOn cmp xs) (hx : x ∈ xs) (hy : y ∈ xs) (h : cmp x y = .lt) :
    rank cmp xs x < rank cmp xs y := by
  have hle : (cmp x y).isLE = true := by rw [h]; rfl
  have hself : cmp x x ≠ .lt := by
    intro hlt
    have hgt := hswap x x
    rw [hlt] at hgt
    cases hgt
  have hmono : ∀ z ∈ xs, (cmp z x == .lt) = true → (cmp z y == .lt) = true := by
    intro z hz hzx
    exact beq_iff_eq.mpr (lt_of_lt_of_isLE hswap htrans hx hy hz (eq_of_beq hzx) hle)
  -- Besides what comes before `x`, there is `x` itself before `y`.
  rcases List.append_of_mem hx with ⟨s, t, rfl⟩
  have hs : s.countP (fun z => cmp z x == .lt) ≤ s.countP fun z => cmp z y == .lt :=
    List.countP_mono_left fun z hz => hmono z (List.mem_append_left _ hz)
  have ht : t.countP (fun z => cmp z x == .lt) ≤ t.countP fun z => cmp z y == .lt :=
    List.countP_mono_left fun z hz => hmono z (by simp [hz])
  simp only [rank, List.countP_append, List.countP_cons, h, beq_self_eq_true, if_true,
    beq_eq_false_iff_ne.mpr hself, Bool.false_eq_true, if_false]
  omega

theorem eq_of_rank_eq (htrans : TransOn cmp xs) (hx : x ∈ xs) (hy : y ∈ xs)
    (h : rank cmp xs x = rank cmp xs y) : cmp x y = .eq := by
  cases hxy : cmp x y with
  | lt => exact absurd h (Nat.ne_of_lt (rank_lt hswap htrans hx hy hxy))
  | eq => rfl
  | gt =>
      have hyx : cmp y x = .lt := by rw [hswap x y, hxy]; rfl
      exact absurd h (Nat.ne_of_gt (rank_lt hswap htrans hy hx hyx))

/-- Two sorted lists of the same things tie place by place. -/
theorem forall₂_eq_of_sorted (htrans : TransOn cmp xs) (hperm : xs.Perm ys)
    (hxs : xs.Pairwise fun x y => (cmp x y).isLE = true)
    (hys : ys.Pairwise fun x y => (cmp x y).isLE = true) :
    List.Forall₂ (fun x y => cmp x y = .eq) xs ys := by
  -- The ranks of sorted things go up, and there is only one way to put numbers in order.
  have hranks : ∀ zs : List α, zs ⊆ xs → zs.Pairwise (fun x y => (cmp x y).isLE = true) →
      (zs.map (rank cmp xs)).Pairwise (· ≤ ·) := by
    intro zs hsub hzs
    refine List.pairwise_map.mpr (hzs.imp_of_mem ?_)
    intro x y hx hy h
    exact rank_le hswap htrans (hsub hx) (hsub hy) h
  have hsame : xs.map (rank cmp xs) = ys.map (rank cmp xs) := by
    refine List.Perm.eq_of_pairwise ?_ (hranks xs (List.Subset.refl xs) hxs)
      (hranks ys hperm.symm.subset hys) (hperm.map _)
    intro m n _ _ hmn hnm
    exact Nat.le_antisymm hmn hnm
  refine List.forall₂_iff_zip.mpr ⟨hperm.length_eq, ?_⟩
  intro x y hzip
  rcases List.of_mem_zip hzip with ⟨hx, hy⟩
  have hrank : List.Forall₂ (· = ·) (xs.map (rank cmp xs)) (ys.map (rank cmp xs)) := by
    rw [hsame]
    exact List.forall₂_same.mpr fun n _ => rfl
  rw [List.forall₂_map_left_iff, List.forall₂_map_right_iff] at hrank
  exact eq_of_rank_eq hswap htrans hx (hperm.symm.subset hy)
    ((List.forall₂_iff_zip.mp hrank).2 hzip)

end Template
end PathTemplate
