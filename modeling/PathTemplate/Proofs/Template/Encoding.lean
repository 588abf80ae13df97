import PathTemplate.Proofs.Percent.Escapes
import PathTemplate.Proofs.Template.TextExpansion

/-!
# Encoding — what encoding changes in an expanded path

A template expands with encoding or without.  Both fail alike, and in the simple dialect the encoded
path is decoded to the other one: every literal and every value is encoded by itself, so that no
escape is made of the end of one and the beginning of the next.

- `Element.outcome_write`   : whether an element can be written does not depend on encoding
- `DecodesTo`               : two results of which one is the other decoded
- `Element.decodesTo_writeAll` : elements write such results, if their literals are complete
- `Template.expand_encode`  : a template with encoding and without
-/

namespace PathTemplate

variable {values : Multimap Text} {t : Template} {text : Text}

/-! ## Failures -/

theorem outcome_result {w w' : Written} (h : w.2 = w'.2) :
    outcome w.result = outcome w'.result := by
  rcases w with ⟨u, failure⟩
  rcases w' with ⟨u', failure'⟩
  obtain rfl : failure = failure' := h
  cases failure <;> rfl

/-- A join fails at a variable with several values. -/
theorem Operator.failure_writePairs (arg delimiter : Text) (vs : List VariableSpec) :
    (writePairs arg values true delimiter vs).2 = (writePairs arg values false delimiter vs).2 := by
  induction vs generalizing delimiter with
  | nil => rfl
  | cons v vs ih =>
      rw [writePairs, writePairs]
      match valuesOf v values with
      | [] => exact ih delimiter
      | [x] => exact ih arg
      | x :: y :: xs => rfl

theorem Operator.failure_write (o : Operator) :
    (o.write values true).2 = (o.write values false).2 := by
  unfold write
  cases o.kind with
  | negate | option | before | after | list => rfl
  | join => exact failure_writePairs o.arg [] o.vars

namespace Element

theorem outcome_write (e : Element) :
    outcome (e.write values true).result = outcome (e.write values false).result := by
  cases e with
  | literal s => rfl
  | operator o => exact outcome_result o.failure_write
  | «variable» v =>
      rw [write, write, Variable.write, Variable.write]
      cases (values.getFirst? v.name).or v.default <;> rfl

theorem outcome_writeAll (es : List Element) :
    outcome (writeAll values true es).result = outcome (writeAll values false es).result := by
  induction es with
  | nil => rfl
  | cons e es ih =>
      rw [result_writeAll_cons, result_writeAll_cons]
      exact outcome_inRow e.outcome_write ih

end Element

/-! ## Decoded results -/

/-- Two results of which one is the other decoded.  A text is complete, so that it can be decoded
without regard to what is written behind it. -/
inductive DecodesTo : Except TemplateError Text → Except TemplateError Text → Prop
  | error (e : TemplateError) : DecodesTo (.error e) (.error e)
  | ok {u : Text} : Percent.Complete u → DecodesTo (.ok u) (.ok (Percent.decode u))

theorem DecodesTo.inRow {x x' y y' : Except TemplateError Text} (hx : DecodesTo x x')
    (hy : DecodesTo y y') : DecodesTo (inRow x y) (inRow x' y') := by
  cases hx with
  | error e => exact .error e
  | @ok u hu =>
      cases hy with
      | error e => exact .error e
      | @ok v hv =>
          have hdecode := hu.decode_append v
          have hrow : DecodesTo (.ok (u ++ v)) (.ok (Percent.decode (u ++ v))) := .ok (hu.append hv)
          rwa [hdecode] at hrow

theorem DecodesTo.map_decode {x y : Except TemplateError Text} (h : DecodesTo x y) :
    x.map Percent.decode = y := by
  cases h <;> rfl

namespace Element

/-- Variables, and literals that are decoded without regard to what is around them. -/
def IsComplete : Element → Prop
  | .literal s => Percent.Complete s
  | .variable _ => True
  | .operator _ => False

/-- A value is encoded by itself. -/
theorem decodesTo_write {e : Element} (he : e.IsComplete) :
    DecodesTo (e.write values true).result (e.write values false).result := by
  cases e with
  | operator o => exact he.elim
  | literal s => exact .ok he
  | «variable» v =>
      rw [write, write, Variable.write, Variable.write]
      cases (values.getFirst? v.name).or v.default with
      | none => exact .error _
      | some x =>
          have hvalue := DecodesTo.ok (Percent.complete_encode x)
          rwa [Percent.decode_encode] at hvalue

theorem decodesTo_writeAll {es : List Element} (hes : ∀ e ∈ es, e.IsComplete) :
    DecodesTo (writeAll values true es).result (writeAll values false es).result := by
  induction es with
  | nil =>
      have hnil : DecodesTo (.ok []) (.ok (Percent.decode [])) := .ok ⟨.nil, [], rfl⟩
      exact hnil
  | cons e es ih =>
      obtain ⟨he, hes⟩ := List.forall_mem_cons.mp hes
      rw [result_writeAll_cons, result_writeAll_cons]
      exact (decodesTo_write he).inRow (ih hes)

end Element

/-! ## Templates -/

namespace Template

/-- The literals of a template of the simple dialect are encoded. -/
theorem exists_encodeLiteral {s : Text} (h : make? text .simple = .ok t)
    (hs : .literal s ∈ t.elements) : ∃ u, s = Percent.encodeLiteral u := by
  rcases make?_eq_ok h with ⟨parsed, _, hparsed, _, _⟩
  obtain ⟨q, -, hstands⟩ := exists_standsFor h hparsed hs
  cases q with
  | literal u =>
      obtain ⟨-, ⟨⟩⟩ := Builder.mem_literalElements_iff.mp hstands
      exact ⟨u, rfl⟩
  | «variable» name constraint default =>
      obtain ⟨_, ⟨⟩⟩ := hstands
  | operator name arg vars =>
      obtain ⟨_, _, _, ⟨⟩⟩ := hstands

/-- With encoding and without, a template expands or fails alike.  In the simple dialect the encoded
path is decoded to the one without encoding, if the octets of each literal, with its escapes
resolved, are those of a text. -/
theorem expand_encode {o : CompileOptions} (ht : (compileWith text o).value = .ok t)
    (values : Multimap Text) :
    ((∃ u, t.expand values true = .ok u) ↔ ∃ u, t.expand values false = .ok u) ∧
    (∀ e, t.expand values true = .error e ↔ t.expand values false = .error e) ∧
    (o.dialect = .simple →
      (∀ s, .literal s ∈ t.elements → Utf8.WellFormed (Percent.unescape (Utf8.encode s))) →
        (t.expand values true).map Percent.decode = t.expand values false) := by
  have houtcome : outcome (t.expand values true) = outcome (t.expand values false) :=
    Element.outcome_writeAll t.elements
  refine ⟨ok_iff_of_outcome_eq houtcome, error_iff_of_outcome_eq houtcome, ?_⟩
  intro hd hliterals
  rcases wellFormed_of_compileWith ht with ⟨hwell, hdialect⟩
  rw [value_compileWith, hd] at ht
  -- An encoded literal has no escape that is cut off; the rest is the hypothesis.
  have hcomplete : ∀ e ∈ t.elements, e.IsComplete := by
    intro e he
    cases e with
    | operator p => exact absurd he (hwell.operator_notMem (hdialect.trans hd) p)
    | «variable» v => trivial
    | literal s =>
        have hoctets := hliterals s he
        obtain ⟨u, rfl⟩ := exists_encodeLiteral ht he
        exact ⟨Percent.escaped_encodeLiteral u, hoctets⟩
  exact (Element.decodesTo_writeAll hcomplete).map_decode

theorem expand_encode_cafe :
    ∃ t, (compileWith "my docs/caf%C3%A9/50%/{name}".toList {}).value = .ok t ∧
      (∀ s, .literal s ∈ t.elements → Utf8.WellFormed (Percent.unescape (Utf8.encode s))) ∧
      t.expand (.ofPairs [("name".toList, "%41/ü".toList)]) true =
        .ok "my%20docs/caf%C3%A9/50%25/%2541%2F%C3%BC".toList ∧
      t.expand (.ofPairs [("name".toList, "%41/ü".toList)]) false =
        .ok "my docs/café/50%/%41/ü".toList := by
  let values : Multimap Text := .ofPairs [("name".toList, "%41/ü".toList)]
  let written : Text := "my%20docs/caf%C3%A9/50%25/".toList
  let name : Variable := ⟨"name".toList, none, none, 2⟩
  have hok : (compileWith "my docs/caf%C3%A9/50%/{name}".toList {}).value.toOption.any
      (fun t => t.elements == [.literal written, .variable name]) = true := by
    decide +kernel
  rcases exists_ok_of_any hok with ⟨t, ht, helements⟩
  have helements := eq_of_beq helements
  have hliterals : ∀ s, .literal s ∈ t.elements →
      Utf8.WellFormed (Percent.unescape (Utf8.encode s)) := by
    intro s hs
    rw [helements] at hs
    obtain rfl : s = written := by simpa using hs
    decide +kernel
  have hencoded : t.expand values true = .ok (written ++ "%2541%2F%C3%BC".toList) := by
    rw [expand, helements]
    decide +kernel
  have hdecoded := (expand_encode ht values).2.2 rfl hliterals
  have htext : Percent.decode (written ++ "%2541%2F%C3%BC".toList) =
      "my docs/café/50%/%41/ü".toList := by
    decide +kernel
  rw [hencoded, Except.map, htext] at hdecoded
  exact ⟨t, ht, hliterals, hencoded, hdecoded.symm⟩

/-- A character whose octets stand in two literals is decoded only where the literals meet. -/
example :
    (compileWith "%C3{x}%A9".toList {}).value.toOption.map (fun t =>
      ((t.expand (.ofPairs [("x".toList, [])]) true).toOption.map Percent.decode,
        (t.expand (.ofPairs [("x".toList, [])]) false).toOption)) =
      some (some "é".toList, some "\uFFFD\uFFFD".toList) := by
  decide +kernel

end Template
end PathTemplate
