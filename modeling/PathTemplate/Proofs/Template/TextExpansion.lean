import PathTemplate.Proofs.Part.Expressions
import PathTemplate.Proofs.Percent
import PathTemplate.Proofs.Template.Building
import PathTemplate.Proofs.Text
import PathTemplate.Template.Expansion

/-!
# TextExpansion — a template text and its compiled template expand alike

- `Part.decoded`            : a part with the escapes of a literal resolved
- `WritesAs`                : elements write what parts write
- `Builder.writesAs_addParts` : what is built from parts writes as they do
- `Template.writesAs_of_make?` : what a compiled template writes, from the parts of its text
- `Template.expandText_agrees` : the two expansions

Expanding a text writes its literals as they are.  A compiled template holds them encoded, at least
in the simple dialect, and decodes them again, which resolves their escapes; and it has dropped a
slash at the end of the text.
-/

namespace PathTemplate

variable {text s : Text} {values : Multimap Text} {d : Dialect}

/-! ## Writing in a row -/

/-- Two texts in a row, unless there is a failure; the first of two failures counts. -/
def inRow (x y : Except TemplateError Text) : Except TemplateError Text := do
  let t ← x
  let u ← y
  .ok (t ++ u)

theorem nil_inRow (x : Except TemplateError Text) : inRow (.ok []) x = x := by
  cases x <;> rfl

theorem inRow_nil (x : Except TemplateError Text) : inRow x (.ok []) = x := by
  cases x with
  | error e => rfl
  | ok t => exact congrArg Except.ok (List.append_nil t)

theorem inRow_assoc (x y z : Except TemplateError Text) :
    inRow (inRow x y) z = inRow x (inRow y z) := by
  cases x with
  | error e => rfl
  | ok t =>
      cases y with
      | error e => rfl
      | ok u =>
          cases z with
          | error e => rfl
          | ok v => exact congrArg Except.ok (List.append_assoc t u v)

def writePart (text : Text) (values : Multimap Text) : Part → Except TemplateError Text
  | .literal t => .ok t
  | .variable name _ default => (Variable.write ⟨name, none, default, 0⟩ values false).result
  | .operator name arg vars =>
      match Operator.make? name arg vars 0 with
      | .error e => .error (.grammar text e)
      | .ok o => (o.write values false).result

theorem writeParts_cons (p : Part) (ps : List Part) :
    writeParts text values (p :: ps) =
      inRow (writePart text values p) (writeParts text values ps) := by
  cases p with
  | literal t => rfl
  | «variable» name constraint default => rfl
  | operator name arg vars =>
      rw [writeParts, writePart]
      cases Operator.make? name arg vars 0 <;> rfl

theorem writeParts_singleton (p : Part) :
    writeParts text values [p] = writePart text values p := by
  rw [writeParts_cons]
  exact inRow_nil _

theorem writeParts_append (ps qs : List Part) :
    writeParts text values (ps ++ qs) =
      inRow (writeParts text values ps) (writeParts text values qs) := by
  induction ps with
  | nil => exact (nil_inRow _).symm
  | cons p ps ih => rw [List.cons_append, writeParts_cons, writeParts_cons, ih, inRow_assoc]

namespace Element

theorem result_writeAll_cons (encode : Bool) (e : Element) (es : List Element) :
    (writeAll values encode (e :: es)).result =
      inRow (e.write values encode).result (writeAll values encode es).result := by
  rw [writeAll]
  rcases e.write values encode with ⟨t, failure⟩
  cases failure with
  | some e => rfl
  | none =>
      rcases writeAll values encode es with ⟨u, failure⟩
      cases failure <;> rfl

theorem result_writeAll_append (es fs : List Element) :
    (writeAll values false (es ++ fs)).result =
      inRow (writeAll values false es).result (writeAll values false fs).result := by
  induction es with
  | nil => exact (nil_inRow _).symm
  | cons e es ih =>
      rw [List.cons_append, result_writeAll_cons, result_writeAll_cons, ih, inRow_assoc]

end Element

/-! ## Elements and the parts that they are built from -/

def Part.decoded : Part → Part
  | .literal t => .literal (Percent.decode t)
  | .variable name constraint default => .variable name constraint default
  | .operator name arg vars => .operator name arg vars

/-- Elements write what parts write, whatever the values are. -/
def WritesAs (es : List Element) (ps : List Part) : Prop :=
  ∀ text values, (Element.writeAll values false es).result = writeParts text values ps

theorem WritesAs.nil : WritesAs [] [] := fun _ _ => rfl

theorem WritesAs.append {es fs : List Element} {ps qs : List Part} (h : WritesAs es ps)
    (h' : WritesAs fs qs) : WritesAs (es ++ fs) (ps ++ qs) := by
  intro text values
  rw [Element.result_writeAll_append, writeParts_append, h, h']

theorem WritesAs.singleton {e : Element} {p : Part}
    (h : ∀ text values, (e.write values false).result = writePart text values p) :
    WritesAs [e] [p] := by
  intro text values
  rw [Element.result_writeAll_cons, writeParts_singleton, ← h text values]
  exact inRow_nil _

/-- What an operator writes does not depend on the number of its group. -/
theorem Operator.make?_group {name arg : Text} {vars : List VariableSpec} {k : Nat} {o : Operator}
    (h : make? name arg vars k = .ok o) (l : Nat) :
    make? name arg vars l = .ok { o with group := l } := by
  obtain ⟨kind, hkind, hlength, harg, rfl⟩ := make?_eq_ok_iff.mp h
  exact make?_eq_ok_iff.mpr ⟨kind, hkind, hlength, harg, rfl⟩

namespace Template.Builder

variable {b b' : Builder}

/-- A literal, be it encoded or as written, writes its text with the escapes resolved. -/
theorem writesAs_literalElements (d : Dialect) (s : Text) :
    WritesAs (literalElements d s) [.literal (Percent.decode s)] := by
  unfold literalElements
  split
  case isTrue hnil =>
    subst hnil
    exact fun _ _ => rfl
  case isFalse =>
    cases d with
    | simple => exact .singleton fun _ _ => congrArg Except.ok (Percent.decode_encodeLiteral s)
    | extended => exact .singleton fun _ _ => rfl

theorem writesAs_addLiteral (h : b.addLiteral d s = .ok b') :
    ∃ es, b'.elements = b.elements ++ es ∧ WritesAs es [.literal (Percent.decode s)] :=
  ⟨_, (addLiteral_eq_ok h).1, writesAs_literalElements d s⟩

/-- What is added for a part writes as the part does. -/
theorem writesAs_addPart {p : Part} (h : b.addPart d p = .ok b') :
    ∃ es, b'.elements = b.elements ++ es ∧ WritesAs es [p.decoded] := by
  cases p with
  | literal t => exact writesAs_addLiteral h
  | «variable» name constraint default =>
      cases h
      exact ⟨_, rfl, .singleton fun _ _ => rfl⟩
  | operator name arg vars =>
      rcases bind_eq_ok.mp h with ⟨o, ho, h⟩
      cases h
      refine ⟨_, rfl, .singleton fun text values => ?_⟩
      rw [Part.decoded, writePart, Operator.make?_group ho 0]
      rfl

theorem writesAs_addParts {ps : List Part} (h : ps.foldlM (addPart d) b = .ok b') :
    ∃ es, b'.elements = b.elements ++ es ∧ WritesAs es (ps.map Part.decoded) := by
  refine addParts_induction (motive := fun qs c =>
    ∃ es, c.elements = b.elements ++ es ∧ WritesAs es (qs.map Part.decoded)) h ?_ ?_
  · exact ⟨[], (List.append_nil _).symm, .nil⟩
  · rintro qs p c c' - ⟨es, hes, hwrites⟩ hp
    obtain ⟨fs, hfs, hwrites'⟩ := writesAs_addPart hp
    refine ⟨es ++ fs, by rw [hfs, hes, List.append_assoc], ?_⟩
    rw [List.map_append]
    exact hwrites.append hwrites'

end Template.Builder

/-- What a compiled template writes: the parts of its text, and the text behind them less a slash at
its end, with the escapes of literals resolved. -/
theorem Template.writesAs_of_make? {t : Template} {p : Parsed} (h : make? text d = .ok t)
    (hp : Parsed.ofText? d text = .ok p) :
    WritesAs t.elements
      (p.parts.map Part.decoded ++ [.literal (Percent.decode (p.trailing.dropTrailing '/'))]) := by
  rcases make?_eq_ok h with ⟨parsed, b, hparsed, hb, h⟩
  cases hp.symm.trans hparsed
  rcases bind_eq_ok.mp hb with ⟨b₁, hparts, hb⟩
  rcases ofBuilder?_eq_ok h with ⟨_, _, _, rfl⟩
  obtain ⟨es, hes, hwrites⟩ := Builder.writesAs_addParts hparts
  obtain ⟨fs, hfs, hwrites'⟩ := Builder.writesAs_addLiteral hb
  obtain rfl : b₁.elements = es := hes
  rw [hfs]
  exact hwrites.append hwrites'

/-! ## Both expansions -/

/-- Whether a computation succeeds, and else how it fails. -/
def outcome {ε α : Type} (x : Except ε α) : Except ε Unit := x.map fun _ => ()

section

variable {ε α β : Type} {x : Except ε α} {y : Except ε β}

theorem error_iff_of_outcome_eq (h : outcome x = outcome y) (e : ε) :
    x = .error e ↔ y = .error e := by
  cases x <;> cases y <;> simp_all [outcome, Except.map]

theorem ok_iff_of_outcome_eq (h : outcome x = outcome y) :
    (∃ a, x = .ok a) ↔ ∃ b, y = .ok b := by
  cases x <;> cases y <;> simp_all [outcome, Except.map]

end

theorem outcome_inRow {x x' y y' : Except TemplateError Text} (hx : outcome x = outcome x')
    (hy : outcome y = outcome y') : outcome (inRow x y) = outcome (inRow x' y') := by
  cases x <;> cases x' <;> cases y <;> cases y' <;>
    simp_all [outcome, Except.map, inRow, bind, Except.bind]

theorem outcome_inRow_ok (x : Except TemplateError Text) (t : Text) :
    outcome (inRow x (.ok t)) = outcome x := by
  cases x <;> rfl

/-- Literals are always written. -/
theorem outcome_writeParts_decoded (ps : List Part) :
    outcome (writeParts text values (ps.map Part.decoded)) =
      outcome (writeParts text values ps) := by
  induction ps with
  | nil => rfl
  | cons p ps ih =>
      rw [List.map_cons, writeParts_cons, writeParts_cons]
      refine outcome_inRow ?_ ih
      cases p <;> rfl

theorem expandText_eq {p : Parsed} (hp : Parsed.ofText? d text = .ok p)
    (values : Multimap Text) :
    expandText text d values = inRow (writeParts text values p.parts) (.ok p.trailing) := by
  rw [expandText, hp]
  rfl

theorem Template.expand_eq {t : Template} {p : Parsed} (h : make? text d = .ok t)
    (hp : Parsed.ofText? d text = .ok p) (values : Multimap Text) :
    t.expand values false =
      inRow (writeParts text values (p.parts.map Part.decoded))
        (.ok (Percent.decode (p.trailing.dropTrailing '/'))) := by
  rw [expand, writesAs_of_make? h hp text values, writeParts_append, writeParts_singleton]
  rfl

theorem Part.map_decoded_eq_self {ps : List Part}
    (h : ∀ s ∈ ps.filterMap Part.literal?, Percent.hasEscape s = false) :
    ps.map Part.decoded = ps := by
  calc
    ps.map Part.decoded = ps.map id := by
      refine List.map_congr_left fun p hp => ?_
      cases p with
      | literal t =>
          have ht := h t (List.mem_filterMap.mpr ⟨_, hp, rfl⟩)
          exact congrArg Part.literal (Percent.decode_eq_self_of_hasEscape ht)
      | «variable» => rfl
      | operator => rfl
    _ = ps := List.map_id ps

/-- A template text expands if and only if the template that is compiled from it does, and else they
fail alike.  If no literal run has a well-formed escape, the text expands to what the template
expands to, and a slash behind that if the text ends with one. -/
theorem Template.expandText_agrees {t : Template} (h : (compile text d).value = .ok t)
    (values : Multimap Text) :
    ((∃ u, expandText text d values = .ok u) ↔ ∃ u, t.expand values false = .ok u) ∧
    (∀ e, expandText text d values = .error e ↔ t.expand values false = .error e) ∧
    ∃ p, Parsed.ofText? d text = .ok p ∧
      ((∀ s ∈ p.literals, Percent.hasEscape s = false) →
        ∀ u, t.expand values false = .ok u →
          expandText text d values = .ok (u ++ if text.endsWith '/' then ['/'] else [])) := by
  have hmake : make? text d = .ok t := (value_compileWith text ⟨d, false⟩).symm.trans h
  rcases make?_eq_ok hmake with ⟨p, _, hp, -, -⟩
  have htext := expandText_eq hp values
  have htemplate := expand_eq hmake hp values
  have houtcome : outcome (expandText text d values) = outcome (t.expand values false) := by
    rw [htext, htemplate, outcome_inRow_ok, outcome_inRow_ok, outcome_writeParts_decoded]
  refine ⟨ok_iff_of_outcome_eq houtcome, error_iff_of_outcome_eq houtcome, p, hp, ?_⟩
  intro hescape u hu
  have hends := (Parsed.ofText?_eq_ok_iff_speltBy.mp hp).endsWith_eq
  have hjoin := Text.dropTrailing_append '/' p.trailing
  -- Without escapes nothing is decoded, neither in front of the last expression nor behind it.
  have hparts : p.parts.map Part.decoded = p.parts := by
    exact Part.map_decoded_eq_self fun s hs => hescape s (List.mem_append_left _ hs)
  have htrailing : Percent.decode (p.trailing.dropTrailing '/') = p.trailing.dropTrailing '/' := by
    have hnone : Percent.hasEscape p.trailing = false := hescape _ (by simp [Parsed.literals])
    rw [← hjoin] at hnone
    exact Percent.decode_eq_self_of_hasEscape (Percent.hasEscape_of_append hnone)
  rw [htemplate, hparts, htrailing] at hu
  rw [htext, hends]
  rcases bind_eq_ok.mp hu with ⟨w, hw, hu⟩
  cases hu
  rw [hw, List.append_assoc, hjoin]
  rfl

theorem Template.expandText_agrees_docs :
    ∃ t, (compile "my docs/{name}/".toList .simple).value = .ok t ∧
      ∃ p, Parsed.ofText? .simple "my docs/{name}/".toList = .ok p ∧
        (∀ s ∈ p.literals, Percent.hasEscape s = false) ∧
        t.expand (.ofPairs [("name".toList, "a b".toList)]) false = .ok "my docs/a b".toList ∧
        expandText "my docs/{name}/".toList .simple
          (.ofPairs [("name".toList, "a b".toList)]) = .ok "my docs/a b/".toList := by
  let text : Text := "my docs/{name}/".toList
  let values : Multimap Text := .ofPairs [("name".toList, "a b".toList)]
  have hok : (compile text .simple).value.toOption.any (fun t =>
      (t.expand values false).toOption == some "my docs/a b".toList) = true := by
    decide +kernel
  have hliterals : (Parsed.ofText? .simple text).toOption.any (fun p =>
      p.literals.all fun s => !Percent.hasEscape s) = true := by
    decide +kernel
  rcases exists_ok_of_any hok with ⟨t, ht, hexpand⟩
  rcases exists_ok_of_any hliterals with ⟨p, hp, hnone⟩
  have hexpand : t.expand values false = .ok "my docs/a b".toList := by
    cases h : t.expand values false <;> simp_all [Except.toOption]
  have hnone : ∀ s ∈ p.literals, Percent.hasEscape s = false := by simpa using hnone
  obtain ⟨-, -, p', hp', hagree⟩ := expandText_agrees ht values
  cases hp.symm.trans hp'
  exact ⟨t, ht, p, hp, hnone, hexpand, hagree hnone _ hexpand⟩

end PathTemplate
