import PathTemplate.Proofs.Text
import Mathlib.Algebra.Ring.Nat

/-!
# Splitting — where the occurrences of a separator are found

Splitting finds occurrences from left to right and without overlap.  It need not find those that
were put between pieces: a piece can hold the separator, or begin or end with parts of it.

- `Text.splitBy_join`      : what is joined is found, if the pieces lack a character of the separator
- `Text.overlapsItself`    : whether two occurrences of a text can overlap
- `Text.exists_splitBy_append` : a separator at the end is found, if it cannot overlap itself
- `Text.splitBy_singleton` : a separator of one character
- `Text.split_join`        : pieces that lack the character
- `Text.isCut_iff`         : a text is cut at a character in one way only
- `Text.length_split`, `Text.sum_byteLength_split` : how many pieces there are, and how long
- `Text.splitOnce_append`  : the first occurrence of a character
-/

namespace PathTemplate
namespace Text

variable {sep p t u v w : Text} {c : Char} {ps : List Text}

/-! ## Pieces without a character of the separator -/

theorem splitBy_nil (sep : Text) : splitBy sep [] = [[]] := rfl

/-- A character at which no separator begins belongs to the first piece. -/
theorem splitBy_cons (h : ¬ sep <+: c :: t) :
    splitBy sep (c :: t) = consFirst c (splitBy sep t) := by
  rw [splitBy, splitBySkipping, if_neg]
  · rfl
  · exact fun hp => h (List.isPrefixOf_iff_prefix.mp hp)

/-- A text in which the separator does not occur is one piece. -/
theorem splitBy_of_not_infix (h : ¬ sep <:+: t) : splitBy sep t = [t] := by
  induction t with
  | nil => rfl
  | cons c t ih =>
      have hprefix : ¬ sep <+: c :: t := fun hp => h hp.isInfix
      have hrest : ¬ sep <:+: t := fun hi => h (hi.trans (List.suffix_cons c t).isInfix)
      rw [splitBy_cons hprefix, ih hrest, consFirst]

/-- The first occurrence of a character cuts a text in one way only. -/
theorem eq_of_append_cons {a a' b b' : Text} (ha : c ∉ a) (ha' : c ∉ a')
    (h : a ++ c :: b = a' ++ c :: b') : a = a' := by
  have htake : ∀ {x : Text} (y : Text), c ∉ x → (x ++ c :: y).takeWhile (· != c) = x := by
    intro x y hx
    have hall : ∀ d ∈ x, (d != c) = true := by
      intro d hd
      exact bne_iff_ne.mpr fun heq => hx (heq ▸ hd)
    rw [List.takeWhile_append_of_pos hall]
    simp
  have hsame := congrArg (List.takeWhile (· != c)) h
  rwa [htake b ha, htake b' ha'] at hsame

/-- In front of a separator no other one begins, in a piece that lacks one of its characters. -/
theorem not_prefix_append (hc : c ∈ sep) (hp : c ∉ p) (hne : p ≠ []) (t : Text) :
    ¬ sep <+: p ++ (sep ++ t) := by
  rintro ⟨r, hr⟩
  obtain ⟨a, b, rfl, ha⟩ := List.eq_append_cons_of_mem hc
  -- The first such character of the whole would stand in two places.
  have hpa : c ∉ p ++ a := by
    intro hmem
    rcases List.mem_append.mp hmem with hmem | hmem
    · exact hp hmem
    · exact ha hmem
  have hcut : a ++ c :: (b ++ r) = (p ++ a) ++ c :: (b ++ t) := by simpa using hr
  have hlength := congrArg List.length (eq_of_append_cons ha hpa hcut)
  have hpos := List.length_pos_iff.mpr hne
  rw [List.length_append] at hlength
  omega

/-- A piece that lacks a character of the separator ends where the separator begins. -/
theorem splitBy_append_of_notMem (hc : c ∈ sep) (hp : c ∉ p) (t : Text) :
    splitBy sep (p ++ (sep ++ t)) = p :: splitBy sep t := by
  induction p with
  | nil => exact splitBy_append (List.ne_nil_of_mem hc) t
  | cons d p ih =>
      obtain ⟨-, hrest⟩ := List.ne_and_not_mem_of_not_mem_cons hp
      have hnot := not_prefix_append hc hp (List.cons_ne_nil d p) t
      rw [List.cons_append] at hnot ⊢
      rw [splitBy_cons hnot, ih hrest, consFirst]

/-- Pieces that all lack a character of the separator are found where they have been joined. -/
theorem splitBy_join (hc : c ∈ sep) (hne : ps ≠ []) (hps : ∀ p ∈ ps, c ∉ p) :
    splitBy sep (join sep ps) = ps := by
  induction ps with
  | nil => exact absurd rfl hne
  | cons p ps ih =>
      obtain ⟨hp, hps⟩ := List.forall_mem_cons.mp hps
      cases ps with
      | nil =>
          exact splitBy_of_not_infix fun hsep => hp (hsep.subset hc)
      | cons q ps =>
          rw [join, List.append_assoc, splitBy_append_of_notMem hc hp,
            ih (List.cons_ne_nil q ps) hps]

/-! ## Separators that overlap themselves -/

/-- Whether an end of the text, other than the whole, is a beginning of it and not empty. -/
def overlapsItself (t : Text) : Bool := t.tail.tails.any fun u => !u.isEmpty && u.isPrefixOf t

theorem overlapsItself_iff :
    overlapsItself t = true ↔ ∃ u v, u ≠ [] ∧ v ≠ [] ∧ t = u ++ v ∧ v <+: t := by
  rw [overlapsItself, List.any_eq_true]
  constructor
  · rintro ⟨v, hv, h⟩
    obtain ⟨hne, hprefix⟩ := Bool.and_eq_true_iff.mp h
    have hne : v ≠ [] := by simpa using hne
    cases t with
    | nil =>
        exact absurd (List.suffix_nil.mp ((List.mem_tails v []).mp hv)) hne
    | cons c t =>
        obtain ⟨u, hu⟩ := (List.mem_tails v t).mp hv
        exact ⟨c :: u, v, List.cons_ne_nil c u, hne, by rw [List.cons_append, hu],
          List.isPrefixOf_iff_prefix.mp hprefix⟩
  · rintro ⟨u, v, hu, hv, htext, hprefix⟩
    refine ⟨v, ?_, ?_⟩
    · obtain ⟨c, u, rfl⟩ := List.exists_cons_of_ne_nil hu
      rw [htext, List.cons_append, List.tail_cons]
      exact (List.mem_tails v _).mpr (List.suffix_append u v)
    · simp [hv, List.isPrefixOf_iff_prefix.mpr hprefix]

theorem consFirst_append (c : Char) {qs : List Text} (hqs : qs ≠ []) (rs : List Text) :
    consFirst c (qs ++ rs) = consFirst c qs ++ rs := by
  obtain ⟨q, qs, rfl⟩ := List.exists_cons_of_ne_nil hqs
  rfl

theorem consFirst_ne_nil (c : Char) (qs : List Text) : consFirst c qs ≠ [] := by
  cases qs with
  | nil => exact List.cons_ne_nil _ _
  | cons q qs => exact List.cons_ne_nil _ _

/-- An occurrence before the end does not reach into the one at the end. -/
theorem prefix_of_prefix_append (hoverlaps : overlapsItself sep = false) (hw : w ≠ [])
    (h : sep <+: w ++ sep) : sep <+: w := by
  rcases List.prefix_or_prefix_of_prefix h (List.prefix_append w sep) with hprefix | ⟨v, hv⟩
  · exact hprefix
  · by_cases hnil : v = []
    · rw [hnil, List.append_nil] at hv
      exact ⟨[], by rw [List.append_nil, hv]⟩
    · -- What would reach over the end of `w` is a beginning of the separator.
      obtain ⟨r, hr⟩ := h
      have hsplit : w ++ (v ++ r) = w ++ sep := by rw [← List.append_assoc, hv, hr]
      have hself : overlapsItself sep = true :=
        overlapsItself_iff.mpr ⟨w, v, hw, hnil, hv.symm, r, List.append_cancel_left hsplit⟩
      rw [hself] at hoverlaps
      cases hoverlaps

/-- Where the separator occurs, some piece stands before the last one. -/
theorem exists_splitBy_of_infix (hsep : sep ≠ []) (h : sep <:+: t) :
    ∃ qs last, qs ≠ [] ∧ splitBy sep t = qs ++ [last] := by
  induction t with
  | nil => exact absurd (List.infix_nil.mp h) hsep
  | cons c t ih =>
      by_cases hprefix : sep <+: c :: t
      · obtain ⟨r, hr⟩ := hprefix
        obtain ⟨qs, last, hrest⟩ :=
          (List.eq_nil_or_concat _).resolve_left (splitBySkipping_ne_nil sep 0 r)
        refine ⟨[] :: qs, last, List.cons_ne_nil _ _, ?_⟩
        rw [← hr, splitBy_append hsep, splitBy, hrest, List.concat_eq_append, List.cons_append]
      · obtain ⟨qs, last, hqs, hsplit⟩ := ih ((List.infix_cons_iff.mp h).resolve_left hprefix)
        refine ⟨consFirst c qs, last, consFirst_ne_nil c qs, ?_⟩
        rw [splitBy_cons hprefix, hsplit, consFirst_append c hqs]

/-- Two occurrences that overlap are found as one, and what is left of the second is a piece. -/
theorem exists_splitBy_of_overlapsItself (hoverlaps : overlapsItself sep = true) :
    ∃ u r, u ⊆ sep ∧ r ≠ [] ∧ splitBy sep (u ++ sep) = [[], r] := by
  obtain ⟨u, v, hu, hv, htext, r, hr⟩ := overlapsItself_iff.mp hoverlaps
  have hsep : sep ≠ [] := by
    rw [htext]
    exact List.append_ne_nil_of_left_ne_nil hu v
  -- The second occurrence begins inside of the first one.
  have hwhole : u ++ sep = sep ++ r := by
    rw [← hr, ← List.append_assoc, ← htext, hr]
  have hlength := congrArg List.length hwhole
  rw [List.length_append, List.length_append] at hlength
  have hpos := List.length_pos_iff.mpr hu
  have hrest : splitBy sep r = [r] := by
    refine splitBy_of_not_infix fun hinfix => ?_
    have hle := hinfix.length_le
    have hshorter := congrArg List.length htext
    have hpos' := List.length_pos_iff.mpr hv
    rw [List.length_append] at hshorter
    omega
  refine ⟨u, r, ?_, List.length_pos_iff.mp (by omega), ?_⟩
  · rw [htext]
    exact List.subset_append_left u v
  · rw [hwhole, splitBy_append hsep, hrest]

/-- A separator that cannot overlap itself is found at the end of a text: the last piece is empty. -/
theorem exists_splitBy_append (hsep : sep ≠ []) (hoverlaps : overlapsItself sep = false)
    (w : Text) : ∃ qs, qs ≠ [] ∧ splitBy sep (w ++ sep) = qs ++ [[]] := by
  -- An occurrence is passed as a whole, and with it all its characters.
  induction hlength : w.length using Nat.strongRecOn generalizing w with
  | ind n ih =>
      cases w with
      | nil =>
          have hsplit := splitBy_append hsep []
          rw [List.append_nil, splitBy_nil] at hsplit
          exact ⟨[[]], List.cons_ne_nil _ _, hsplit⟩
      | cons c w =>
          rw [List.length_cons] at hlength
          by_cases hprefix : sep <+: (c :: w) ++ sep
          · obtain ⟨w', hw'⟩ :=
              prefix_of_prefix_append hoverlaps (List.cons_ne_nil c w) hprefix
            have hpos := List.length_pos_iff.mpr hsep
            have hshorter := congrArg List.length hw'
            rw [List.length_append, List.length_cons] at hshorter
            obtain ⟨qs, -, hqs⟩ := ih w'.length (by omega) w' rfl
            refine ⟨[] :: qs, List.cons_ne_nil _ _, ?_⟩
            rw [← hw', List.append_assoc, splitBy_append hsep, hqs, List.cons_append]
          · obtain ⟨qs, hqs, hsplit⟩ := ih w.length (by omega) w rfl
            refine ⟨consFirst c qs, consFirst_ne_nil c qs, ?_⟩
            rw [List.cons_append] at hprefix ⊢
            rw [splitBy_cons hprefix, hsplit, consFirst_append c hqs]

/-! ## Single characters -/

theorem splitBy_singleton (c : Char) (t : Text) : splitBy [c] t = split c t := by
  induction t with
  | nil => rfl
  | cons d t ih =>
      by_cases hd : d = c
      · subst hd
        rw [split, if_pos rfl, ← ih]
        exact splitBy_append (List.cons_ne_nil d []) t
      · have hprefix : ¬ [c] <+: d :: t := fun h => hd (List.cons_prefix_cons.mp h).1.symm
        rw [splitBy_cons hprefix, split, if_neg hd, ih]

/-- A separator at the end ends the last piece, and an empty one comes behind it. -/
theorem split_append_singleton (c : Char) (t : Text) : split c (t ++ [c]) = split c t ++ [[]] := by
  induction t with
  | nil => exact if_pos rfl
  | cons d t ih =>
      rw [List.cons_append, split, split, ih]
      split
      case isTrue => rfl
      case isFalse => exact consFirst_append d (split_ne_nil c t) [[]]

/-- The last piece of a text that is not empty is empty only behind the character. -/
theorem last_ne_nil_of_split (hne : t ≠ []) (hends : t.endsWith c = false)
    (hsplit : split c t = ps ++ [p]) : p ≠ [] := by
  rintro rfl
  have ht : t = ps.flatMap (fun q => q ++ [c]) ++ [] := by
    rw [← join_split c t, hsplit, join_append _ _ (List.cons_ne_nil [] [])]
    rfl
  rcases List.eq_nil_or_concat ps with rfl | ⟨ps, q, rfl⟩
  · exact hne ht
  · have hlast : t = ps.flatMap (fun q => q ++ [c]) ++ q ++ [c] := by
      rw [ht]
      simp
    rw [hlast, endsWith_append_singleton] at hends
    cases hends

/-- Pieces without the character are found where they have been joined. -/
theorem split_join (hne : ps ≠ []) (hps : ∀ p ∈ ps, c ∉ p) : split c (join [c] ps) = ps := by
  rw [← splitBy_singleton]
  exact splitBy_join (List.mem_singleton_self c) hne hps

/-- Pieces without the character that give the text when they are joined. -/
def IsCut (c : Char) (t : Text) (ps : List Text) : Prop :=
  ps ≠ [] ∧ (∀ p ∈ ps, c ∉ p) ∧ join [c] ps = t

/-- A text is cut at a character in one way only. -/
theorem isCut_iff : IsCut c t ps ↔ ps = split c t := by
  constructor
  · rintro ⟨hne, hps, rfl⟩
    exact (split_join hne hps).symm
  · rintro rfl
    exact ⟨split_ne_nil c t, fun p hp => notMem_of_mem_split hp, join_split c t⟩

theorem length_consFirst (c : Char) (hps : ps ≠ []) : (consFirst c ps).length = ps.length := by
  obtain ⟨p, ps, rfl⟩ := List.exists_cons_of_ne_nil hps
  rfl

theorem sum_byteLength_consFirst (c : Char) (hps : ps ≠ []) :
    ((consFirst c ps).map byteLength).sum = c.utf8Size + (ps.map byteLength).sum := by
  obtain ⟨p, ps, rfl⟩ := List.exists_cons_of_ne_nil hps
  simp [consFirst, Nat.add_assoc]

/-- There is one more piece than there are occurrences of the character. -/
theorem length_split (c : Char) (t : Text) : (split c t).length = t.count c + 1 := by
  induction t with
  | nil => rfl
  | cons d t ih =>
      rw [split, List.count_cons]
      by_cases hd : d = c
      · rw [if_pos hd, List.length_cons, ih, if_pos (beq_iff_eq.mpr hd)]
      · rw [if_neg hd, length_consFirst d (split_ne_nil c t), ih, if_neg (by simpa using hd)]

/-- The octets of a text are those of its pieces and of the occurrences of the character. -/
theorem sum_byteLength_split (c : Char) (t : Text) :
    ((split c t).map byteLength).sum + t.count c * c.utf8Size = byteLength t := by
  induction t with
  | nil => simp [split]
  | cons d t ih =>
      rw [split, List.count_cons, byteLength_cons, ← ih]
      by_cases hd : d = c
      · rw [if_pos hd, if_pos (beq_iff_eq.mpr hd), hd, List.map_cons, List.sum_cons,
          byteLength_nil, Nat.succ_mul]
        omega
      · rw [if_neg hd, if_neg (by simpa using hd), Nat.add_zero,
          sum_byteLength_consFirst d (split_ne_nil c t), Nat.add_assoc]

theorem splitOnce_append (h : c ∉ u) (v : Text) : splitOnce c (u ++ c :: v) = some (u, v) := by
  induction u with
  | nil => simp [splitOnce]
  | cons d u ih =>
      obtain ⟨hd, hu⟩ := List.ne_and_not_mem_of_not_mem_cons h
      rw [List.cons_append, splitOnce, if_neg (Ne.symm hd), ih hu]
      rfl

end Text
end PathTemplate
