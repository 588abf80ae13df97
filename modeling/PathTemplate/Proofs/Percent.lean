import PathTemplate.Percent
import PathTemplate.Proofs.Text.Utf8

/-!
# Percent — what escaping does to a text

- `Percent.decode_encode`    : resolving the escapes of an encoded text gives the text
- `Percent.decode_eq_self`   : a text without a percent sign has no escapes
- `Percent.hasEscape`        : whether a text has a well-formed escape
- `Percent.decode_eq_self_of_hasEscape` : without one nothing is resolved
- `Percent.decode_encodeLiteral` : encoded as a literal, a text has the same escapes resolved
- `Percent.mem_encode`       : the characters of an encoded text, among them no slash
- `Percent.encode_ne_nil`    : only the empty text is encoded as the empty text
-/

namespace PathTemplate
namespace Percent

open Utf8 (Octet)

/-! ## Digits -/

theorem hexValue?_hexDigit : ∀ n < 16, hexValue? (hexDigit n).toNat = some n := by decide

theorem hexDigit_ascii : ∀ n < 16, (hexDigit n).toNat < 0x80 := by decide

theorem hexDigit_unreserved : ∀ n < 16, isUnreserved (hexDigit n) = true := by decide

/-- An unreserved character is one octet, and has no meaning in a path. -/
theorem unreserved_ascii {c : Char} (h : isUnreserved c = true) :
    c.toNat < 0x80 ∧ c ≠ '%' ∧ c ≠ '/' := by
  have hne : c ≠ '%' ∧ c ≠ '/' := by
    constructor
    · rintro rfl
      exact absurd h (by decide)
    · rintro rfl
      exact absurd h (by decide)
  refine ⟨?_, hne⟩
  -- The letters and digits are ranges of numbers.
  delta isUnreserved Char.isAlphanum Char.isAlpha Char.isUpper Char.isLower Char.isDigit at h
  simp only [Bool.or_eq_true, Bool.and_eq_true, decide_eq_true_eq, beq_iff_eq, ge_iff_le,
    UInt32.le_iff_toNat_le] at h
  rcases h with (((((h | h) | h) | rfl) | rfl) | rfl) | rfl
  · exact Nat.lt_of_le_of_lt h.2 (by decide)
  · exact Nat.lt_of_le_of_lt h.2 (by decide)
  · exact Nat.lt_of_le_of_lt h.2 (by decide)
  all_goals decide

/-! ## The octets of escapes -/

theorem encodeChar_ascii {c : Char} (h : c.toNat < 0x80) : Utf8.encodeChar c = [c.toNat] := by
  rw [Utf8.encodeChar]
  exact if_pos h

theorem utf8_cons (c : Char) (t : Text) :
    Utf8.encode (c :: t) = Utf8.encodeChar c ++ Utf8.encode t :=
  List.flatMap_cons

theorem utf8_append (s t : Text) : Utf8.encode (s ++ t) = Utf8.encode s ++ Utf8.encode t :=
  List.flatMap_append

/-- An octet that is no percent sign stays. -/
theorem unescape_cons {b : Nat} (hb : b ≠ 0x25) (rest : List Octet) :
    unescape (b :: rest) = b :: unescape rest := by
  rw [unescape]
  rintro h l rest' rfl
  exact absurd rfl hb

/-- The escape of an octet is resolved to the octet. -/
theorem unescape_escapeOctet {b : Nat} (hb : b < 256) (rest : List Octet) :
    unescape (Utf8.encode (escapeOctet b) ++ rest) = b :: unescape rest := by
  have hhigh : b / 16 < 16 := by omega
  have hlow : b % 16 < 16 := by omega
  -- A percent sign and two digits, each of one octet.
  have hoctets : Utf8.encode (escapeOctet b) =
      [0x25, (hexDigit (b / 16)).toNat, (hexDigit (b % 16)).toNat] := by
    rw [escapeOctet, utf8_cons, utf8_cons, utf8_cons, encodeChar_ascii (by decide),
      encodeChar_ascii (hexDigit_ascii _ hhigh), encodeChar_ascii (hexDigit_ascii _ hlow)]
    rfl
  have hsum : 16 * (b / 16) + b % 16 = b := Nat.div_add_mod b 16
  rw [hoctets, List.cons_append, List.cons_append, List.cons_append, List.nil_append, unescape]
  simp only [hexValue?_hexDigit _ hhigh, hexValue?_hexDigit _ hlow, hsum]

theorem unescape_flatMap_escapeOctet {bs : List Octet} (hbs : ∀ b ∈ bs, b < 256)
    (rest : List Octet) :
    unescape (Utf8.encode (bs.flatMap escapeOctet) ++ rest) = bs ++ unescape rest := by
  induction bs with
  | nil => rfl
  | cons b bs ih =>
      have hb := hbs b List.mem_cons_self
      have hrest := ih fun x hx => hbs x (List.mem_cons_of_mem b hx)
      rw [List.flatMap_cons, utf8_append, List.append_assoc, unescape_escapeOctet hb, hrest]
      rfl

/-! ## Encoded texts -/

theorem encode_cons (c : Char) (t : Text) :
    encode (c :: t) = (if isUnreserved c then [c] else escapeChar c) ++ encode t :=
  List.flatMap_cons

theorem unescape_encode (t : Text) : unescape (Utf8.encode (encode t)) = Utf8.encode t := by
  induction t with
  | nil => rfl
  | cons c t ih =>
      rw [encode_cons, utf8_append, utf8_cons]
      split
      -- An unreserved character stands for itself, and the others for their octets.
      case isTrue h =>
        rcases unreserved_ascii h with ⟨hascii, hpercent, _⟩
        have hcode : c.toNat ≠ 0x25 := fun h => hpercent (Char.toNat_inj.mp h)
        have hone : Utf8.encode [c] = [c.toNat] := by
          rw [utf8_cons, encodeChar_ascii hascii]
          rfl
        rw [hone, encodeChar_ascii hascii, List.singleton_append, List.singleton_append,
          unescape_cons hcode, ih]
      case isFalse =>
        rw [escapeChar, unescape_flatMap_escapeOctet fun b hb => Utf8.lt_of_mem_encodeChar hb, ih]

/-- Resolving the escapes of an encoded text gives the text. -/
theorem decode_encode (t : Text) : decode (encode t) = t := by
  rw [decode, unescape_encode, Utf8.decode_encode]

/-! ## Well-formed escapes -/

/-- Whether a percent sign and two hexadecimal digits stand in a row somewhere. -/
def hasEscape : Text → Bool
  | [] => false
  | c :: t => (c == '%' && completesEscape t) || hasEscape t

theorem exists_of_completesEscape {t : Text} (h : completesEscape t = true) :
    ∃ c c' u, t = c :: c' :: u ∧ isHexDigit c = true ∧ isHexDigit c' = true := by
  match t, h with
  | c :: c' :: u, h =>
      rcases Bool.and_eq_true_iff.mp h with ⟨hc, hc'⟩
      exact ⟨c, c', u, rfl, hc, hc'⟩

/-- A beginning of a text without escapes has none. -/
theorem hasEscape_of_append {s u : Text} (h : hasEscape (s ++ u) = false) :
    hasEscape s = false := by
  induction s with
  | nil => rfl
  | cons c s ih =>
      rw [List.cons_append, hasEscape, Bool.or_eq_false_iff] at h
      refine Bool.or_eq_false_iff.mpr ⟨?_, ih h.2⟩
      cases hdigits : completesEscape s with
      | false => exact Bool.and_false _
      | true =>
          obtain ⟨c₁, c₂, v, rfl, hc₁, hc₂⟩ := exists_of_completesEscape hdigits
          simpa [completesEscape, hc₁, hc₂] using h.1

/-- Octets that are no percent signs stay. -/
theorem unescape_append {bs : List Octet} (h : 0x25 ∉ bs) (rest : List Octet) :
    unescape (bs ++ rest) = bs ++ unescape rest := by
  induction bs with
  | nil => rfl
  | cons b bs ih =>
      rcases List.ne_and_not_mem_of_not_mem_cons h with ⟨hne, hbs⟩
      rw [List.cons_append, unescape_cons hne.symm, ih hbs]
      rfl

theorem percent_notMem_encodeChar {c : Char} (h : c ≠ '%') : 0x25 ∉ Utf8.encodeChar c := by
  intro hmem
  rcases Utf8.eq_or_le_of_mem_encodeChar hmem with heq | hle
  · exact h (Char.toNat_inj.mp heq.symm)
  · exact absurd hle (by decide)

/-- Only octets of ASCII characters are digits. -/
theorem lt_of_hexValue? {b x : Octet} (h : hexValue? b = some x) : b < 0x80 := by
  have hle : b ≤ 0x66 := by
    simp only [hexValue?, Bool.and_eq_true, decide_eq_true_eq] at h
    split at h
    case isTrue hb => exact Nat.le_trans hb.2 (by decide)
    case isFalse =>
      split at h
      case isTrue hb => exact Nat.le_trans hb.2 (by decide)
      case isFalse =>
        split at h
        case isTrue hb => exact hb.2
        case isFalse => cases h
  exact Nat.lt_of_le_of_lt hle (by decide)

theorem isHexDigit_iff {c : Char} : isHexDigit c = true ↔ ∃ x, hexValue? c.toNat = some x :=
  Option.isSome_iff_exists

/-- A digit is an unreserved character. -/
theorem isUnreserved_of_isHexDigit {c : Char} (h : isHexDigit c = true) :
    isUnreserved c = true := by
  have hall : ∀ n < 0x80, (hexValue? n).isSome = true → isUnreserved (Char.ofNat n) = true := by
    decide
  obtain ⟨x, hx⟩ := isHexDigit_iff.mp h
  have hc := hall c.toNat (lt_of_hexValue? hx) h
  rwa [Char.ofNat_toNat] at hc

/-- A text whose first octet is a digit begins with that digit. -/
theorem exists_cons_of_hexValue? {t : Text} {b x : Octet} {rest : List Octet}
    (h : Utf8.encode t = b :: rest) (hb : hexValue? b = some x) :
    ∃ c u, t = c :: u ∧ isHexDigit c = true ∧ rest = Utf8.encode u := by
  cases t with
  | nil => cases h
  | cons c u =>
      rw [utf8_cons] at h
      by_cases hc : c.toNat < 0x80
      · rw [encodeChar_ascii hc] at h
        cases h
        exact ⟨c, u, rfl, isHexDigit_iff.mpr ⟨x, hb⟩, rfl⟩
      · -- The octets of other characters lie above those of the digits.
        obtain ⟨a, bs, hbs⟩ := List.exists_cons_of_ne_nil (Utf8.encodeChar_ne_nil c)
        have hmem : a ∈ Utf8.encodeChar c := hbs ▸ List.mem_cons_self
        rw [hbs] at h
        cases h
        have hlt := lt_of_hexValue? hb
        rcases Utf8.eq_or_le_of_mem_encodeChar hmem with rfl | hle
        · exact absurd hlt hc
        · exact absurd hlt (Nat.not_lt.mpr hle)

/-- A percent sign that begins no escape stays. -/
theorem unescape_percent {t : Text} (h : completesEscape t = false) :
    unescape (0x25 :: Utf8.encode t) = 0x25 :: unescape (Utf8.encode t) := by
  rcases hoctets : Utf8.encode t with _ | ⟨b, _ | ⟨b', rest⟩⟩
  · rfl
  · rfl
  · rw [unescape]
    split
    case h_1 x y hx hy =>
      -- Two digits stand behind it.
      rcases exists_cons_of_hexValue? hoctets hx with ⟨c, u, rfl, hc, hu⟩
      rcases exists_cons_of_hexValue? hu.symm hy with ⟨c', u', rfl, hc', -⟩
      simp [completesEscape, hc, hc'] at h
    case h_2 => rfl

/-- A character that begins no escape stays. -/
theorem unescape_encodeChar_append {c : Char} {t : Text}
    (h : (c == '%' && completesEscape t) = false) :
    unescape (Utf8.encodeChar c ++ Utf8.encode t) =
      Utf8.encodeChar c ++ unescape (Utf8.encode t) := by
  by_cases hc : c = '%'
  · subst hc
    exact unescape_percent (by simpa using h)
  · exact unescape_append (percent_notMem_encodeChar hc) _

theorem unescape_eq_self_of_hasEscape {t : Text} (h : hasEscape t = false) :
    unescape (Utf8.encode t) = Utf8.encode t := by
  induction t with
  | nil => rfl
  | cons c t ih =>
      rcases Bool.or_eq_false_iff.mp h with ⟨hc, ht⟩
      rw [utf8_cons, unescape_encodeChar_append hc, ih ht]

/-- A text without a well-formed escape stays as it is. -/
theorem decode_eq_self_of_hasEscape {t : Text} (h : hasEscape t = false) : decode t = t := by
  rw [decode, unescape_eq_self_of_hasEscape h, Utf8.decode_encode]

theorem hasEscape_eq_false {t : Text} (h : '%' ∉ t) : hasEscape t = false := by
  induction t with
  | nil => rfl
  | cons c t ih =>
      rcases List.ne_and_not_mem_of_not_mem_cons h with ⟨hc, ht⟩
      simp [hasEscape, hc.symm, ih ht]

/-- A text without a percent sign has no escapes. -/
theorem decode_eq_self {t : Text} (h : '%' ∉ t) : decode t = t :=
  decode_eq_self_of_hasEscape (hasEscape_eq_false h)

/-! ## Literals -/

/-- A text is taken apart from the left into escapes and characters that begin none. -/
@[elab_as_elim]
theorem escapeInduction {motive : Text → Prop} (nil : motive [])
    (escape : ∀ h l t, isHexDigit h = true → isHexDigit l = true → motive t →
      motive ('%' :: h :: l :: t))
    (plain : ∀ c t, (c == '%' && completesEscape t) = false → motive t → motive (c :: t))
    (t : Text) : motive t := by
  -- An escape is passed as a whole, and with it three characters.
  induction ht : t.length using Nat.strongRecOn generalizing t with
  | ind n ih =>
      cases t with
      | nil => exact nil
      | cons c t =>
          cases hescape : c == '%' && completesEscape t with
          | true =>
              rcases Bool.and_eq_true_iff.mp hescape with ⟨hpercent, hdigits⟩
              obtain rfl := eq_of_beq hpercent
              obtain ⟨h, l, u, rfl, hh, hl⟩ := exists_of_completesEscape hdigits
              exact escape h l u hh hl (ih u.length (by simp [← ht]; omega) u rfl)
          | false => exact plain c t hescape (ih t.length (by simp [← ht]) t rfl)

/-- The characters of a literal that stay as they are, wherever they stand. -/
def isVerbatim (c : Char) : Bool :=
  isUnreserved c || c == '{' || c == '}' || isPathDelimiter c

theorem isVerbatim_of_isUnreserved {c : Char} (h : isUnreserved c = true) :
    isVerbatim c = true := by
  simp [isVerbatim, h]

theorem isVerbatim_percent : isVerbatim '%' = false := by decide

theorem encodeLiteral_cons (c : Char) (t : Text) :
    encodeLiteral (c :: t) =
      if isVerbatim c || (c == '%' && completesEscape t) then c :: encodeLiteral t
      else escapeChar c ++ encodeLiteral t :=
  rfl

/-- The text of a literal is not lost. -/
theorem encodeLiteral_ne_nil {t : Text} (h : t ≠ []) : encodeLiteral t ≠ [] := by
  cases t with
  | nil => exact absurd rfl h
  | cons c t =>
      rw [encodeLiteral_cons]
      split
      case isTrue => exact List.cons_ne_nil _ _
      case isFalse =>
        -- A character has at least one octet, and each octet an escape.
        obtain ⟨b, bs, hc⟩ := List.exists_cons_of_ne_nil (Utf8.encodeChar_ne_nil c)
        rw [escapeChar, hc, List.flatMap_cons]
        exact List.cons_ne_nil _ _

theorem encodeLiteral_cons_of_isVerbatim {c : Char} (t : Text) (h : isVerbatim c = true) :
    encodeLiteral (c :: t) = c :: encodeLiteral t := by
  rw [encodeLiteral_cons, if_pos (by rw [h, Bool.true_or])]

/-- An escape of a literal stays. -/
theorem encodeLiteral_escape {h l : Char} (t : Text) (hh : isHexDigit h = true)
    (hl : isHexDigit l = true) :
    encodeLiteral ('%' :: h :: l :: t) = '%' :: h :: l :: encodeLiteral t := by
  rw [encodeLiteral_cons, if_pos (by simp [completesEscape, hh, hl]),
    encodeLiteral_cons_of_isVerbatim _ (isVerbatim_of_isUnreserved (isUnreserved_of_isHexDigit hh)),
    encodeLiteral_cons_of_isVerbatim _ (isVerbatim_of_isUnreserved (isUnreserved_of_isHexDigit hl))]

/-- Every other character of a literal is escaped. -/
theorem encodeLiteral_cons_of_not_isVerbatim {c : Char} {t : Text} (h : isVerbatim c = false)
    (hescape : (c == '%' && completesEscape t) = false) :
    encodeLiteral (c :: t) = escapeChar c ++ encodeLiteral t := by
  rw [encodeLiteral_cons, h, hescape]
  rfl

/-- A well-formed escape is resolved to its octet. -/
theorem exists_unescape_escape {c c' : Char} (hc : isHexDigit c = true)
    (hc' : isHexDigit c' = true) :
    ∃ b, ∀ bs : List Octet,
      unescape (Utf8.encode ['%', c, c'] ++ bs) = b :: unescape bs := by
  obtain ⟨x, hx⟩ := isHexDigit_iff.mp hc
  obtain ⟨y, hy⟩ := isHexDigit_iff.mp hc'
  have hoctets : Utf8.encode ['%', c, c'] = [0x25, c.toNat, c'.toNat] := by
    rw [utf8_cons, utf8_cons, utf8_cons, encodeChar_ascii (by decide),
      encodeChar_ascii (lt_of_hexValue? hx), encodeChar_ascii (lt_of_hexValue? hy)]
    rfl
  refine ⟨16 * x + y, fun bs => ?_⟩
  rw [hoctets, List.cons_append, List.cons_append, List.cons_append, List.nil_append, unescape]
  simp only [hx, hy]

/-- The escapes in a literal are the same once it is encoded, and the characters that are escaped
then are resolved to themselves. -/
theorem unescape_encodeLiteral (t : Text) :
    unescape (Utf8.encode (encodeLiteral t)) = unescape (Utf8.encode t) := by
  induction t using escapeInduction with
  | nil => rfl
  | escape h l t hh hl ih =>
      obtain ⟨b, hb⟩ := exists_unescape_escape hh hl
      have hstep : ∀ u : Text,
          unescape (Utf8.encode ('%' :: h :: l :: u)) = b :: unescape (Utf8.encode u) :=
        fun u => (congrArg unescape (utf8_append ['%', h, l] u)).trans (hb _)
      rw [encodeLiteral_escape t hh hl, hstep, hstep, ih]
  | plain c t hescape ih =>
      rw [utf8_cons c t, unescape_encodeChar_append hescape]
      cases hc : isVerbatim c with
      | true =>
          have hne : c ≠ '%' := by
            rintro rfl
            exact Bool.noConfusion (hc.symm.trans isVerbatim_percent)
          rw [encodeLiteral_cons_of_isVerbatim t hc, utf8_cons,
            unescape_append (percent_notMem_encodeChar hne), ih]
      | false =>
          rw [encodeLiteral_cons_of_not_isVerbatim hc hescape, utf8_append, escapeChar,
            unescape_flatMap_escapeOctet fun b hb => Utf8.lt_of_mem_encodeChar hb, ih]

/-- Encoded as a literal, a text has the same escapes resolved. -/
theorem decode_encodeLiteral (t : Text) : decode (encodeLiteral t) = decode t := by
  rw [decode, unescape_encodeLiteral, decode]

/-! ## The characters of encoded texts -/

/-- An escape is written with a percent sign and unreserved characters. -/
theorem mem_escapeChar {c d : Char} (h : d ∈ escapeChar c) : isUnreserved d = true ∨ d = '%' := by
  rcases List.mem_flatMap.mp h with ⟨b, hb, h⟩
  have hlt := Utf8.lt_of_mem_encodeChar hb
  have hhigh : b / 16 < 16 := Nat.div_lt_of_lt_mul hlt
  have hlow : b % 16 < 16 := Nat.mod_lt b (by decide)
  simp only [escapeOctet, List.mem_cons, List.not_mem_nil, or_false] at h
  rcases h with rfl | rfl | rfl
  · exact .inr rfl
  · exact .inl (hexDigit_unreserved _ hhigh)
  · exact .inl (hexDigit_unreserved _ hlow)

/-- An encoded text has unreserved characters and percent signs only. -/
theorem mem_encode {t : Text} {d : Char} (h : d ∈ encode t) : isUnreserved d = true ∨ d = '%' := by
  rcases List.mem_flatMap.mp h with ⟨c, _, h⟩
  split at h
  case isTrue hc =>
    rw [List.mem_singleton.mp h]
    exact .inl hc
  case isFalse => exact mem_escapeChar h

/-- An encoded text has no slash. -/
theorem slash_notMem_encode (t : Text) : '/' ∉ encode t := by
  intro h
  rcases mem_encode h with h | h
  · exact (unreserved_ascii h).2.2 rfl
  · exact absurd h (by decide)

/-- Only the empty text is encoded as the empty text. -/
theorem encode_ne_nil {t : Text} (ht : t ≠ []) : encode t ≠ [] := by
  intro h
  have hdecode := decode_encode t
  rw [h] at hdecode
  exact ht hdecode.symm

end Percent
end PathTemplate
