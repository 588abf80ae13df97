import PathTemplate.Proofs.Part.Grammar
import PathTemplate.Proofs.Percent

/-!
# Escapes — the form of encoded texts

Encoding leaves accepted characters and well-formed escapes.  A value keeps the unreserved characters.
A literal keeps the escapes that it had as well, so that encoding it again changes nothing.

- `Percent.escaped_encode`, `Percent.escaped_encodeLiteral` : what encoded texts are written with
- `Percent.encodeLiteral_eq_self_iff` : the literals that are encoded already
- `Percent.encodeLiteral_append` : an escape stands for itself, whatever is around it
- `Percent.Complete`        : a text that ends neither inside of an escape nor of a character
- `Percent.Complete.decode_append` : it is decoded without regard to what follows
- `Percent.encode_reversible`, `Percent.encodeLiteral_normal` : both encodings
-/

namespace PathTemplate

variable {accept accept' : Char → Bool} {s t : Text} {c : Char}

/-! ## Accepted characters and escapes -/

theorem Escaped.mono (haccept : ∀ c, accept c = true → accept' c = true) (h : Escaped accept t) :
    Escaped accept' t := by
  induction h with
  | nil => exact .nil
  | plain hc _ ih => exact .plain (haccept _ hc) ih
  | escape hh hl _ ih => exact .escape hh hl ih

theorem Escaped.append (hs : Escaped accept s) (ht : Escaped accept t) :
    Escaped accept (s ++ t) := by
  induction hs with
  | nil => exact ht
  | plain hc _ ih => exact .plain hc ih
  | escape hh hl _ ih => exact .escape hh hl ih

namespace Percent

open Utf8 (Octet)

/-! ## Escapes in front of a text -/

/-- What is kept by the escape of an octet in front is kept by the escapes of a character. -/
theorem escapeChar_append {P : Text → Prop}
    (hescape : ∀ b < 256, ∀ t, P t → P (escapeOctet b ++ t)) (c : Char) (ht : P t) :
    P (escapeChar c ++ t) := by
  have hoctets : ∀ bs : List Octet, (∀ b ∈ bs, b < 256) → P (bs.flatMap escapeOctet ++ t) := by
    intro bs hbs
    induction bs with
    | nil => exact ht
    | cons b bs ih =>
        obtain ⟨hb, hbs⟩ := List.forall_mem_cons.mp hbs
        rw [List.flatMap_cons, List.append_assoc]
        exact hescape b hb _ (ih hbs)
  exact hoctets _ fun b hb => Utf8.lt_of_mem_encodeChar hb

theorem isHexDigit_hexDigit {n : Nat} (hn : n < 16) : isHexDigit (hexDigit n) = true :=
  isHexDigit_iff.mpr ⟨n, hexValue?_hexDigit n hn⟩

theorem escaped_escapeOctet {b : Octet} (hb : b < 256) (h : Escaped accept t) :
    Escaped accept (escapeOctet b ++ t) :=
  .escape (isHexDigit_hexDigit (Nat.div_lt_of_lt_mul hb))
    (isHexDigit_hexDigit (Nat.mod_lt b (by decide))) h

theorem escaped_escapeChar (c : Char) (h : Escaped accept t) :
    Escaped accept (escapeChar c ++ t) :=
  escapeChar_append (P := Escaped accept) (fun _ hb _ ht => escaped_escapeOctet hb ht) c h

/-! ## What encoded texts are written with -/

/-- An encoded text has unreserved characters and well-formed escapes. -/
theorem escaped_encode (t : Text) : Escaped isUnreserved (encode t) := by
  induction t with
  | nil => exact .nil
  | cons c t ih =>
      rw [encode_cons]
      split
      case isTrue hc => exact .plain hc ih
      case isFalse => exact escaped_escapeChar c ih

/-- An encoded literal has verbatim characters and well-formed escapes. -/
theorem escaped_encodeLiteral (t : Text) : Escaped isVerbatim (encodeLiteral t) := by
  induction t using escapeInduction with
  | nil => exact .nil
  | escape h l t hh hl ih =>
      rw [encodeLiteral_escape t hh hl]
      exact .escape hh hl ih
  | plain c t hescape ih =>
      cases hc : isVerbatim c with
      | true =>
          rw [encodeLiteral_cons_of_isVerbatim t hc]
          exact .plain hc ih
      | false =>
          rw [encodeLiteral_cons_of_not_isVerbatim hc hescape]
          exact escaped_escapeChar c ih

/-- The literals that encoding leaves as they are. -/
theorem encodeLiteral_eq_self_iff : encodeLiteral t = t ↔ Escaped isVerbatim t := by
  constructor
  · intro h
    rw [← h]
    exact escaped_encodeLiteral t
  · intro h
    induction h with
    | nil => rfl
    | plain hc _ ih => rw [encodeLiteral_cons_of_isVerbatim _ hc, ih]
    | escape hh hl _ ih => rw [encodeLiteral_escape _ hh hl, ih]

/-- Where no digit follows, a literal is encoded by itself. -/
theorem encodeLiteral_append (s : Text) (ht : ∀ c ∈ t.head?, isHexDigit c = false) :
    encodeLiteral (s ++ t) = encodeLiteral s ++ encodeLiteral t := by
  have hnone : completesEscape t = false := by
    cases hdigits : completesEscape t with
    | false => rfl
    | true =>
        obtain ⟨c, c', u, rfl, hc, -⟩ := exists_of_completesEscape hdigits
        rw [ht c rfl] at hc
        cases hc
  -- An escape that begins in `s` would need its digits from there.
  have hdigits : ∀ s : Text, completesEscape (s ++ t) = completesEscape s := by
    rintro (_ | ⟨c, _ | ⟨c', s⟩⟩)
    · exact hnone
    · cases t with
      | nil => rfl
      | cons d t => simp [completesEscape, ht d rfl]
    · rfl
  induction s with
  | nil => rfl
  | cons c s ih =>
      rw [List.cons_append, encodeLiteral_cons, encodeLiteral_cons, hdigits, ih]
      split
      · rfl
      · exact (List.append_assoc _ _ _).symm

/-! ## Upper-case digits -/

def upperDigits : Text := "0123456789ABCDEF".toList

theorem hexDigit_mem_upperDigits : ∀ n < 16, hexDigit n ∈ upperDigits := by decide

def HasUpperEscapes (t : Text) : Prop :=
  ∀ u h l v, t = u ++ '%' :: h :: l :: v → h ∈ upperDigits ∧ l ∈ upperDigits

theorem HasUpperEscapes.cons (hc : c ≠ '%') (ht : HasUpperEscapes t) :
    HasUpperEscapes (c :: t) := by
  rintro (_ | ⟨d, u⟩) h l v heq
  · exact absurd (List.cons.inj heq).1 hc
  · exact ht u h l v (List.cons.inj heq).2

theorem HasUpperEscapes.escapeOctet {b : Octet} (hb : b < 256) (ht : HasUpperEscapes t) :
    HasUpperEscapes (escapeOctet b ++ t) := by
  have hhigh : b / 16 < 16 := Nat.div_lt_of_lt_mul hb
  have hlow : b % 16 < 16 := Nat.mod_lt b (by decide)
  have hdigit : ∀ n < 16, hexDigit n ≠ '%' := fun n hn =>
    (unreserved_ascii (hexDigit_unreserved n hn)).2.1
  rintro (_ | ⟨d, u⟩) h l v heq
  · obtain ⟨rfl, rfl, -⟩ : hexDigit (b / 16) = h ∧ hexDigit (b % 16) = l ∧ t = v := by
      simpa [Percent.escapeOctet] using heq
    exact ⟨hexDigit_mem_upperDigits _ hhigh, hexDigit_mem_upperDigits _ hlow⟩
  -- No other percent sign stands in the escape.
  · exact (ht.cons (hdigit _ hlow)).cons (hdigit _ hhigh) u h l v (List.cons.inj heq).2

theorem hasUpperEscapes_encode (t : Text) : HasUpperEscapes (encode t) := by
  induction t with
  | nil =>
      rintro (_ | ⟨d, u⟩) h l v heq
      · cases heq
      · cases heq
  | cons c t ih =>
      rw [encode_cons]
      split
      case isTrue hc => exact ih.cons (unreserved_ascii hc).2.1
      case isFalse =>
        exact escapeChar_append (P := HasUpperEscapes) (fun _ hb _ ht => ht.escapeOctet hb) c ih

/-! ## Decoding in pieces -/

/-- The escapes of accepted characters and well-formed escapes do not depend on what follows. -/
theorem unescape_append_of_escaped (hpercent : accept '%' = false) (h : Escaped accept s)
    (bs : List Octet) :
    unescape (Utf8.encode s ++ bs) = unescape (Utf8.encode s) ++ unescape bs := by
  induction h with
  | nil => rfl
  | @plain c s hc _ ih =>
      have hne : c ≠ '%' := by
        rintro rfl
        exact Bool.noConfusion (hc.symm.trans hpercent)
      have hkept := percent_notMem_encodeChar hne
      rw [utf8_cons, List.append_assoc, unescape_append hkept, unescape_append hkept, ih,
        List.append_assoc]
  | @escape h l s hh hl _ ih =>
      obtain ⟨b, hb⟩ := exists_unescape_escape hh hl
      have hsplit : Utf8.encode ('%' :: h :: l :: s) = Utf8.encode ['%', h, l] ++ Utf8.encode s :=
        utf8_append ['%', h, l] s
      rw [hsplit, List.append_assoc, hb, hb, ih, List.cons_append]

/-- A text that ends neither inside of an escape nor, once its escapes are resolved, inside of a
character. -/
structure Complete (t : Text) : Prop where
  escaped : Escaped isVerbatim t
  wellFormed : Utf8.WellFormed (unescape (Utf8.encode t))

theorem Complete.decode_append (h : Complete s) (t : Text) :
    decode (s ++ t) = decode s ++ decode t := by
  rw [decode, utf8_append, unescape_append_of_escaped isVerbatim_percent h.escaped,
    h.wellFormed.decode_append, decode, decode]

theorem Complete.append (hs : Complete s) (ht : Complete t) : Complete (s ++ t) where
  escaped := hs.escaped.append ht.escaped
  wellFormed := by
    rw [utf8_append, unescape_append_of_escaped isVerbatim_percent hs.escaped]
    exact hs.wellFormed.append ht.wellFormed

theorem complete_encode (t : Text) : Complete (encode t) where
  escaped := (escaped_encode t).mono fun _ hc => isVerbatim_of_isUnreserved hc
  wellFormed := ⟨t, (unescape_encode t).symm⟩

/-! ## Both encodings -/

/-- Decoding undoes encoding, and an encoded text has unreserved characters and upper-case escapes
only. -/
theorem encode_reversible (t : Text) :
    decode (encode t) = t ∧
      Escaped isUnreserved (encode t) ∧
      HasUpperEscapes (encode t) ∧
      '/' ∉ encode t ∧
      (encode t = [] ↔ t = []) := by
  refine ⟨decode_encode t, escaped_encode t, hasUpperEscapes_encode t, slash_notMem_encode t, ?_⟩
  constructor
  · intro hnil
    by_contra hne
    exact encode_ne_nil hne hnil
  · rintro rfl
    rfl

/-- Encoding a literal a second time changes nothing, nor does it change what the literal is decoded
to.  It leaves verbatim characters and well-formed escapes, and every escape that was there stands
where it was, between the same texts. -/
theorem encodeLiteral_normal (t : Text) :
    encodeLiteral (encodeLiteral t) = encodeLiteral t ∧
      decode (encodeLiteral t) = decode t ∧
      Escaped isVerbatim (encodeLiteral t) ∧
      ∀ u h l v, t = u ++ '%' :: h :: l :: v → isHexDigit h = true → isHexDigit l = true →
        encodeLiteral t = encodeLiteral u ++ '%' :: h :: l :: encodeLiteral v := by
  have hescaped := escaped_encodeLiteral t
  refine ⟨encodeLiteral_eq_self_iff.mpr hescaped, decode_encodeLiteral t, hescaped, ?_⟩
  rintro u h l v rfl hh hl
  have hpercent : ∀ c ∈ ('%' :: h :: l :: v).head?, isHexDigit c = false := by
    rintro _ ⟨⟩
    decide
  rw [encodeLiteral_append u hpercent, encodeLiteral_escape v hh hl]

/-- Escapes are kept with their digits, and a percent sign that begins none becomes one. -/
example : encodeLiteral "café/100% %2f%c3".toList = "caf%C3%A9/100%25%20%2f%c3".toList := by
  decide

end Percent
end PathTemplate
