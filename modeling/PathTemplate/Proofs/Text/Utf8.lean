import PathTemplate.Text.Utf8

/-!
# UTF-8 — decoding gives back what was encoded

- `Utf8.lt_of_mem_encodeChar` : the octets of a character are octets
- `Utf8.decode_encodeChar_append` : one character, one length class at a time
- `Utf8.decode_encode`        : whole texts
- `Utf8.WellFormed`           : octets of which decoding replaces none
- `Utf8.WellFormed.decode_append` : well-formed octets are decoded by themselves
-/

namespace PathTemplate
namespace Utf8

variable {a b c d : Nat} {rest : List Octet}

/-! ## Sequences of each length -/

theorem within_iff {lo hi : Nat} : (lo ≤ b && b < hi) = true ↔ lo ≤ b ∧ b < hi := by
  rw [Bool.and_eq_true, decide_eq_true_eq, decide_eq_true_eq]

theorem isTail_iff : isTail b = true ↔ 0x80 ≤ b ∧ b < 0xC0 := within_iff

theorem decode_one (ha : a < 0x80) : decode (a :: rest) = Char.ofNat a :: decode rest := by
  rw [decode.eq_def]
  exact if_pos ha

theorem decode_two (ha : 0xC2 ≤ a) (ha' : a < 0xE0) (hb : isTail b = true) :
    decode (a :: b :: rest) = Char.ofNat ((a - 0xC0) * 0x40 + (b - 0x80)) :: decode rest := by
  have hlead : (0xC2 ≤ a && a < 0xE0) = true := by simp [ha, ha']
  have hone : ¬ a < 0x80 := Nat.not_lt.mpr (Nat.le_trans (by decide) ha)
  rw [decode, if_neg hone]
  simp only [hlead, hb, if_true]

theorem decode_three (ha : 0xE0 ≤ a) (ha' : a < 0xF0) (hb : isSecond a b = true)
    (hc : isTail c = true) :
    decode (a :: b :: c :: rest) =
      Char.ofNat ((a - 0xE0) * 0x1000 + (b - 0x80) * 0x40 + (c - 0x80)) :: decode rest := by
  have hshort : (0xC2 ≤ a && a < 0xE0) = false := by
    simp only [Bool.and_eq_false_iff, decide_eq_false_iff_not]
    omega
  have hlead : (0xE0 ≤ a && a < 0xF0) = true := by simp [ha, ha']
  have hone : ¬ a < 0x80 := Nat.not_lt.mpr (Nat.le_trans (by decide) ha)
  rw [decode, if_neg hone]
  simp only [hshort, hlead, hb, hc, if_true, Bool.false_eq_true, if_false]

theorem decode_four (ha : 0xF0 ≤ a) (ha' : a < 0xF5) (hb : isSecond a b = true)
    (hc : isTail c = true) (hd : isTail d = true) :
    decode (a :: b :: c :: d :: rest) =
      Char.ofNat ((a - 0xF0) * 0x40000 + (b - 0x80) * 0x1000 + (c - 0x80) * 0x40 + (d - 0x80)) ::
        decode rest := by
  have hshort : (0xC2 ≤ a && a < 0xE0) = false := by
    simp only [Bool.and_eq_false_iff, decide_eq_false_iff_not]
    omega
  have hshort' : (0xE0 ≤ a && a < 0xF0) = false := by
    simp only [Bool.and_eq_false_iff, decide_eq_false_iff_not]
    omega
  have hlead : (0xF0 ≤ a && a < 0xF5) = true := by simp [ha, ha']
  have hone : ¬ a < 0x80 := Nat.not_lt.mpr (Nat.le_trans (by decide) ha)
  rw [decode, if_neg hone]
  simp only [hshort, hshort', hlead, hb, hc, hd, if_true, Bool.false_eq_true, if_false]

/-! ## Characters and texts -/

theorem lt_of_mem_encodeChar {x : Char} (h : b ∈ encodeChar x) : b < 256 := by
  have hvalid := x.valid
  have hmax : x.toNat < 0x110000 := by
    rcases hvalid with hv | hv
    · exact Nat.lt_trans hv (by decide)
    · exact hv.2
  unfold encodeChar at h
  dsimp only at h
  split at h
  case isTrue hone =>
    rw [List.mem_singleton.mp h]
    omega
  case isFalse =>
    split at h
    case isTrue htwo =>
      simp only [List.mem_cons, List.not_mem_nil, or_false] at h
      omega
    case isFalse =>
      split at h
      case isTrue hthree =>
        simp only [List.mem_cons, List.not_mem_nil, or_false] at h
        omega
      case isFalse =>
        simp only [List.mem_cons, List.not_mem_nil, or_false] at h
        omega

theorem encodeChar_ne_nil (x : Char) : encodeChar x ≠ [] := by
  unfold encodeChar
  dsimp only
  split
  case isTrue => exact List.cons_ne_nil _ _
  case isFalse =>
    split
    · exact List.cons_ne_nil _ _
    · split <;> exact List.cons_ne_nil _ _

/-- The octets of a character are its code, or lie above those of ASCII. -/
theorem eq_or_le_of_mem_encodeChar {x : Char} (h : b ∈ encodeChar x) : b = x.toNat ∨ 0x80 ≤ b := by
  unfold encodeChar at h
  dsimp only at h
  split at h
  case isTrue => exact .inl (List.mem_singleton.mp h)
  case isFalse =>
    split at h
    case isTrue =>
      simp only [List.mem_cons, List.not_mem_nil, or_false] at h
      omega
    case isFalse =>
      split at h
      all_goals
        simp only [List.mem_cons, List.not_mem_nil, or_false] at h
        omega

/-- The second octet of a sequence of three or four excludes overlong forms, surrogates and what
lies above the last character. -/
theorem isSecond_iff :
    isSecond a b = true ↔ 0x80 ≤ b ∧ b < 0xC0 ∧ (a = 0xE0 → 0xA0 ≤ b) ∧ (a = 0xED → b < 0xA0) ∧
      (a = 0xF0 → 0x90 ≤ b) ∧ (a = 0xF4 → b < 0x90) := by
  -- The four leading octets with a narrower range are tried in turn.
  by_cases hoverlong : a = 0xE0
  · subst hoverlong
    have hrange : isSecond 0xE0 b = true ↔ 0xA0 ≤ b ∧ b < 0xC0 := within_iff
    rw [hrange]
    omega
  · by_cases hsurrogate : a = 0xED
    · subst hsurrogate
      have hrange : isSecond 0xED b = true ↔ 0x80 ≤ b ∧ b < 0xA0 := within_iff
      rw [hrange]
      omega
    · by_cases hoverlong' : a = 0xF0
      · subst hoverlong'
        have hrange : isSecond 0xF0 b = true ↔ 0x90 ≤ b ∧ b < 0xC0 := within_iff
        rw [hrange]
        omega
      · by_cases hlast : a = 0xF4
        · subst hlast
          have hrange : isSecond 0xF4 b = true ↔ 0x80 ≤ b ∧ b < 0x90 := within_iff
          rw [hrange]
          omega
        · have htail : isSecond a b = isTail b := by
            simp only [isSecond, hoverlong, hsurrogate, hoverlong', hlast, if_false]
          rw [htail, isTail_iff]
          omega

/-- Decoding starts with the character that was encoded first. -/
theorem decode_encodeChar_append (x : Char) (rest : List Octet) :
    decode (encodeChar x ++ rest) = x :: decode rest := by
  have hvalid : x.toNat < 0xD800 ∨ 0xDFFF < x.toNat ∧ x.toNat < 0x110000 := x.valid
  have hchar : ∀ n, n = x.toNat → Char.ofNat n = x := by
    rintro _ rfl
    exact Char.ofNat_toNat x
  unfold encodeChar
  dsimp only
  -- The first octet tells how many there are, and their bits add up to the number.
  by_cases hone : x.toNat < 0x80
  · rw [if_pos hone]
    refine (decode_one hone).trans ?_
    rw [hchar _ rfl]
    rfl
  · rw [if_neg hone]
    by_cases htwo : x.toNat < 0x800
    · rw [if_pos htwo]
      have hb : isTail (0x80 + x.toNat % 0x40) = true := isTail_iff.mpr (by omega)
      refine (decode_two (by omega) (by omega) hb).trans ?_
      rw [hchar _ (by omega)]
      rfl
    · rw [if_neg htwo]
      have hlast : isTail (0x80 + x.toNat % 0x40) = true := isTail_iff.mpr (by omega)
      have hthird : isTail (0x80 + x.toNat / 0x40 % 0x40) = true := isTail_iff.mpr (by omega)
      by_cases hthree : x.toNat < 0x10000
      · rw [if_pos hthree]
        have hsecond : isSecond (0xE0 + x.toNat / 0x1000) (0x80 + x.toNat / 0x40 % 0x40) = true :=
          isSecond_iff.mpr (by omega)
        refine (decode_three (by omega) (by omega) hsecond hlast).trans ?_
        rw [hchar _ (by omega)]
        rfl
      · rw [if_neg hthree]
        have hsecond :
            isSecond (0xF0 + x.toNat / 0x40000) (0x80 + x.toNat / 0x1000 % 0x40) = true :=
          isSecond_iff.mpr (by omega)
        refine (decode_four (by omega) (by omega) hsecond hthird hlast).trans ?_
        rw [hchar _ (by omega)]
        rfl

/-- Decoding starts with the text that was encoded first. -/
theorem decode_encode_append (t : Text) (rest : List Octet) :
    decode (encode t ++ rest) = t ++ decode rest := by
  induction t with
  | nil => rfl
  | cons x t ih =>
      have hcons : encode (x :: t) = encodeChar x ++ encode t := List.flatMap_cons
      rw [hcons, List.append_assoc, decode_encodeChar_append, ih]
      rfl

/-- Decoding the octets of a text gives the text. -/
theorem decode_encode (t : Text) : decode (encode t) = t := by
  have hrest := decode_encode_append t []
  rwa [List.append_nil, decode, List.append_nil] at hrest

/-! ## Well-formed octets -/

def WellFormed (bs : List Octet) : Prop := ∃ t, encode t = bs

/-- Decoding replaces nothing in well-formed octets, and only in these. -/
theorem wellFormed_iff {bs : List Octet} : WellFormed bs ↔ encode (decode bs) = bs := by
  constructor
  · rintro ⟨t, rfl⟩
    rw [decode_encode]
  · exact fun h => ⟨decode bs, h⟩

instance (bs : List Octet) : Decidable (WellFormed bs) := decidable_of_iff _ wellFormed_iff.symm

theorem WellFormed.append {bs bs' : List Octet} (h : WellFormed bs) (h' : WellFormed bs') :
    WellFormed (bs ++ bs') := by
  obtain ⟨t, rfl⟩ := h
  obtain ⟨t', rfl⟩ := h'
  exact ⟨t ++ t', List.flatMap_append⟩

/-- What follows well-formed octets does not change what they are decoded to. -/
theorem WellFormed.decode_append {bs : List Octet} (h : WellFormed bs) (rest : List Octet) :
    decode (bs ++ rest) = decode bs ++ decode rest := by
  obtain ⟨t, rfl⟩ := h
  rw [decode_encode_append, decode_encode]

end Utf8
end PathTemplate
