import PathTemplate.Text
import Mathlib.Data.List.Infix

/-!
# Text — pieces and their offsets

- `Text.OccursAt`         : a text stands in another one at an octet offset
- `Text.OccursAt.part_iff` : what occurs in a part, and occurs where the part does, begins the part
- `Text.join_cons`             : joined behind another, each piece has a separator in front of it
- `Text.join_append`           : joined in front of others, each piece has a separator behind it
- `Text.notMem_of_mem_split`   : the pieces between the occurrences of a character do not have it
- `Text.infix_of_mem_splitBy`  : each piece between separators lies in the text
- `Text.splitBy_append`        : a separator at the beginning ends an empty piece
- `Text.append_of_splitOnce`   : the two sides of the first occurrence of a character
- `Text.dropTrailing_append`   : what is left without a trailing character, and that character
-/

namespace PathTemplate
namespace Text

variable {s t u v : Text} {start : Nat}

/-! ## Offsets -/

/-- The text `v` stands in `t` at the octet offset `start`: there the slice of `t` that has the
length of `v` is `v`. -/
def OccursAt (t : Text) (start : Nat) (v : Text) : Prop :=
  ∃ before after, t = before ++ v ++ after ∧ byteLength before = start

theorem eq_nil_of_byteLength_eq_zero (h : byteLength t = 0) : t = [] := by
  cases t with
  | nil => rfl
  | cons c t =>
      have hpos := Char.utf8Size_pos c
      rw [byteLength_cons] at h
      omega

theorem byteLength_pos (h : t ≠ []) : 0 < byteLength t :=
  Nat.pos_of_ne_zero fun hzero => h (eq_nil_of_byteLength_eq_zero hzero)

theorem byteLength_infix_le (h : u <:+: t) : byteLength u ≤ byteLength t := by
  rcases h with ⟨x, y, rfl⟩
  simp only [byteLength_append]
  omega

/-- A beginning with as many octets as the whole is the whole. -/
theorem eq_of_prefix_of_le (h : u <+: t) (hlength : byteLength t ≤ byteLength u) : u = t := by
  rcases h with ⟨y, rfl⟩
  rw [byteLength_append] at hlength
  have hnil : y = [] := eq_nil_of_byteLength_eq_zero (by omega)
  rw [hnil, List.append_nil]

/-- Of two beginnings of a text, the one with fewer octets begins the other. -/
theorem prefix_of_byteLength_le (hu : u <+: t) (hv : v <+: t)
    (hlength : byteLength u ≤ byteLength v) : u <+: v := by
  rcases List.prefix_or_prefix_of_prefix hu hv with h | h
  · exact h
  · rw [eq_of_prefix_of_le h hlength]

/-- Of two beginnings of a text, the one with fewer octets has fewer characters. -/
theorem length_lt_of_byteLength_lt (hu : u <+: t) (hv : v <+: t)
    (hlength : byteLength u < byteLength v) : u.length < v.length := by
  have hbegins := prefix_of_byteLength_le hu hv (Nat.le_of_lt hlength)
  refine Nat.lt_of_le_of_ne hbegins.length_le fun heq => ?_
  rw [hbegins.eq_of_length heq] at hlength
  exact Nat.lt_irrefl _ hlength

/-- A beginning that ends inside of a character, or in front of it, ends in front of it. -/
theorem eq_of_prefix_of_lt {c : Char} (hu : u <+: t) (hv : v ++ [c] <+: t)
    (hle : byteLength v ≤ byteLength u) (hlt : byteLength u < byteLength (v ++ [c])) : u = v := by
  rcases List.prefix_concat_iff.mp (prefix_of_byteLength_le hu hv (Nat.le_of_lt hlt)) with
    rfl | hprefix
  · exact absurd hlt (Nat.lt_irrefl _)
  · exact eq_of_prefix_of_le hprefix hle

/-- What lies in a part of a text stands where the part does if and only if it begins the part. -/
theorem OccursAt.part_iff (h : t.OccursAt start u) (hv : v <:+: u) :
    t.OccursAt start v ↔ v <+: u := by
  rcases h with ⟨x, y, rfl, hx⟩
  constructor
  · rintro ⟨x', y', heq, hx'⟩
    -- The two places are at one offset, so what stands before them is the same.
    have hbefore : x' <+: x ++ u ++ y := ⟨v ++ y', by rw [heq, List.append_assoc]⟩
    have hbefore' : x <+: x ++ u ++ y := ⟨u ++ y, by rw [List.append_assoc]⟩
    have hsame : x' = x :=
      eq_of_prefix_of_le (prefix_of_byteLength_le hbefore hbefore' (by omega)) (by omega)
    subst hsame
    rw [List.append_assoc, List.append_assoc] at heq
    have hrest := List.append_cancel_left heq
    exact prefix_of_byteLength_le ⟨y', hrest.symm⟩ ⟨y, rfl⟩ (byteLength_infix_le hv)
  · rintro ⟨w, rfl⟩
    exact ⟨x, w ++ y, by simp, hx⟩

/-! ## Pieces -/

/-- Joined behind the first piece, each piece has a separator in front of it. -/
theorem join_cons (sep u : Text) (us : List Text) :
    join sep (u :: us) = u ++ us.flatMap fun v => sep ++ v := by
  induction us generalizing u with
  | nil => simp [join]
  | cons v us ih => simp [join, ih]

/-- Joined in front of others, each piece has a separator behind it. -/
theorem join_append (sep : Text) (ps : List Text) {qs : List Text} (h : qs ≠ []) :
    join sep (ps ++ qs) = (ps.flatMap fun p => p ++ sep) ++ join sep qs := by
  induction ps with
  | nil => rfl
  | cons p ps ih =>
      have hne := List.append_ne_nil_of_right_ne_nil ps h
      rw [List.cons_append, join_cons_of_ne_nil _ _ hne, ih, List.flatMap_cons]
      simp only [List.append_assoc]

theorem bne_of_notMem {c : Char} (h : c ∉ t) : ∀ d ∈ t, (d != c) = true := by
  intro d hd
  simp only [bne_iff_ne]
  rintro rfl
  exact h hd

/-- The pieces between the occurrences of a character do not have it. -/
theorem notMem_of_mem_split {c : Char} (h : u ∈ split c t) : c ∉ u := by
  induction t generalizing u with
  | nil =>
      rw [List.mem_singleton.mp h]
      exact List.not_mem_nil
  | cons d t ih =>
      rw [split] at h
      split at h
      case isTrue =>
        rcases List.mem_cons.mp h with rfl | h
        · exact List.not_mem_nil
        · exact ih h
      case isFalse hd =>
        obtain ⟨p, ps, hps⟩ := List.exists_cons_of_ne_nil (split_ne_nil c t)
        rw [hps] at h ih
        rcases List.mem_cons.mp h with rfl | h
        · intro hc
          rcases List.mem_cons.mp hc with rfl | hc
          · exact hd rfl
          · exact ih List.mem_cons_self hc
        · exact ih (List.mem_cons_of_mem p h)

/-- Each of joined pieces lies in the whole. -/
theorem infix_join (sep : Text) {ps : List Text} (h : u ∈ ps) : u <:+: join sep ps := by
  induction ps with
  | nil => cases h
  | cons p ps ih =>
      cases ps with
      | nil =>
          rw [List.mem_singleton.mp h]
          exact List.infix_refl p
      | cons q ps =>
          rw [join]
          rcases List.mem_cons.mp h with rfl | h
          · exact ⟨[], sep ++ join sep (q :: ps), by simp⟩
          · exact (ih h).trans (List.suffix_append _ _).isInfix

theorem infix_of_mem_splitBy (hsep : s ≠ []) (h : u ∈ splitBy s t) : u <:+: t := by
  have hjoin := infix_join s h
  rwa [join_splitBy s hsep] at hjoin

/-- A separator at the beginning ends an empty piece. -/
theorem splitBy_append (hsep : s ≠ []) (t : Text) : splitBy s (s ++ t) = [] :: splitBy s t := by
  obtain ⟨c, sep, rfl⟩ := List.exists_cons_of_ne_nil hsep
  have hprefix : (c :: sep).isPrefixOf (c :: (sep ++ t)) = true :=
    List.isPrefixOf_iff_prefix.mpr (List.prefix_append (c :: sep) t)
  have hlength : sep.length ≤ (sep ++ t).length := by simp
  rw [splitBy, List.cons_append, splitBySkipping, if_pos hprefix, List.length_cons,
    Nat.add_sub_cancel, splitBySkipping_eq_drop _ _ _ hlength, List.drop_left, splitBy]

theorem append_of_splitOnce {sep : Char} (h : splitOnce sep t = some (u, v)) :
    t = u ++ sep :: v := by
  induction t generalizing u with
  | nil => cases h
  | cons c t ih =>
      rw [splitOnce] at h
      split at h
      case isTrue hc =>
        cases h
        rw [hc, List.nil_append]
      case isFalse =>
        rcases Option.map_eq_some_iff.mp h with ⟨⟨u', v'⟩, hrest, heq⟩
        cases heq
        rw [ih hrest, List.cons_append]

/-- A text is what is left of it without a trailing character, and that character. -/
theorem dropTrailing_append (c : Char) (t : Text) :
    t.dropTrailing c ++ (if t.endsWith c then [c] else []) = t := by
  by_cases h : t.getLast? = some c
  · obtain ⟨u, rfl⟩ := List.getLast?_eq_some_iff.mp h
    simp [dropTrailing, endsWith]
  · simp [dropTrailing, endsWith, h]

theorem dropTrailing_eq_self {c : Char} (h : t.endsWith c = false) : t.dropTrailing c = t := by
  simpa [h] using dropTrailing_append c t

theorem dropTrailing_append_singleton (c : Char) (t : Text) :
    (t ++ [c]).dropTrailing c = t := by
  simp [dropTrailing]

theorem endsWith_append_singleton (c : Char) (t : Text) : (t ++ [c]).endsWith c = true := by
  simp [endsWith]

/-- Behind a piece that is not empty and lacks the character, nothing ends with it. -/
theorem endsWith_append_of_notMem {c : Char} (s : Text) (hne : t ≠ []) (hc : c ∉ t) :
    (s ++ t).endsWith c = false := by
  rw [endsWith, List.getLast?_append_of_ne_nil _ hne, beq_eq_false_iff_ne]
  exact fun hlast => hc (List.mem_of_getLast? hlast)

end Text
end PathTemplate
