import PathTemplate.Proofs.Template.Constraints
import PathTemplate.Proofs.Template.Spans

/-!
# Placement — where the variables of a template find their values

In the simple dialect the values of a name, each with its start, are those of its variables in the
order of the template.  If the constraints stay between their parentheses, then each value stands
behind the texts of the elements before its variable.

- `Element.placedTo`             : the value of a variable and its start
- `Template.placed_bindings_eq`  : the values of a name are those of its variables
- `WellFormed.capture_of_search` : a variable's value stands behind the texts of the elements before
-/

namespace PathTemplate

/-- If lists of the same lengths are equal in a row, then each is equal to its own. -/
theorem eq_of_flatMap_eq {α β : Type} {f g : α → List β} {xs : List α}
    (hlength : ∀ x ∈ xs, (f x).length = (g x).length) (h : xs.flatMap f = xs.flatMap g) :
    ∀ x ∈ xs, f x = g x := by
  induction xs with
  | nil =>
      intro x hx
      cases hx
  | cons x xs ih =>
      rw [List.forall_mem_cons] at hlength ⊢
      rw [List.flatMap_cons, List.flatMap_cons] at h
      obtain ⟨hfirst, hrest⟩ := List.append_inj h hlength.1
      exact ⟨hfirst, ih hlength.2 hrest⟩

/-- The value of a variable of the name, with its start. -/
def Element.placedTo (trace : Trace) (path name : Text) : Element → List (Text × Nat)
  | .variable v => if v.name = name then (trace.capture path v.group).toList else []
  | _ => []

/-- Recording a literal or a variable appends its value, with its start. -/
theorem Element.placed_bind {e : Element} (he : ∀ o, e ≠ .operator o) {trace : Trace}
    {path name : Text} {b : Bindings}
    (hlength : (b.values.get name).length = (b.starts.get name).length) :
    (e.bind (e.captureIn trace path) b).placed name =
      b.placed name ++ e.placedTo trace path name := by
  cases e with
  | literal t => exact (List.append_nil _).symm
  | operator o => exact absurd rfl (he o)
  | «variable» v =>
      have hrecorded := Bindings.recorded_add b v.name
        ((trace.capture path v.group).map (·.1)) ((trace.capture path v.group).map (·.2)) name
      rw [placedTo]
      split at hrecorded
      case isTrue hname =>
        obtain ⟨hvalues, hstarts⟩ := Prod.mk.inj hrecorded
        rw [Bindings.placed, bind, captureIn, group?, Option.bind_some, hvalues, hstarts,
          List.zip_append hlength, List.filterMap_append, if_pos hname, Bindings.placed]
        cases trace.capture path v.group <;> rfl
      case isFalse hname =>
        obtain ⟨hvalues, hstarts⟩ := Prod.mk.inj hrecorded
        rw [Bindings.placed, bind, captureIn, group?, Option.bind_some, hvalues, hstarts,
          if_neg hname, List.append_nil, Bindings.placed]

namespace Template

variable {t : Template} {trace : Trace} {path name : Text}

/-- No element of the simple dialect replaces values. -/
theorem WellFormed.replaces_eq_false (hwell : t.WellFormed) (hd : t.dialect = .simple)
    (name : Text) : ∀ e ∈ t.elements, e.replaces name = false := by
  intro e he
  cases e with
  | literal s => rfl
  | «variable» v => rfl
  | operator o => exact absurd he (hwell.operator_notMem hd o)

def placedAt (t : Template) (trace : Trace) (path name : Text) (i : Nat) : List (Text × Nat) :=
  t.elements[i]?.toList.flatMap (Element.placedTo trace path name)

theorem placed_recorded (hwell : t.WellFormed) (hd : t.dialect = .simple) (order : List Nat) :
    (order.foldl (t.bindElement trace path) .empty).Aligned (fun _ _ _ => True) ∧
      (order.foldl (t.bindElement trace path) .empty).placed name =
        order.flatMap (t.placedAt trace path name) := by
  induction order using List.reverseRecOn with
  | nil => exact ⟨Bindings.aligned_empty _, rfl⟩
  | append_singleton order i ih =>
      obtain ⟨haligned, hplaced⟩ := ih
      rw [List.foldl_append, List.foldl_cons, List.foldl_nil, List.flatMap_append,
        List.flatMap_singleton, placedAt]
      cases hi : t.elements[i]? with
      | none =>
          rw [bindElement, hi]
          exact ⟨haligned, by simpa using hplaced⟩
      | some e =>
          have he := List.mem_of_getElem? hi
          have hplain : ∀ o, e ≠ .operator o := by
            rintro o rfl
            exact hwell.operator_notMem hd o he
          rw [bindElement_eq hi, e.placed_bind hplain (haligned name).length_eq, hplaced]
          exact ⟨e.aligned_bind (hwell.built e he) haligned fun _ _ _ => trivial, by simp⟩

/-- In the simple dialect the values of a name are those of its variables, in template order. -/
theorem placed_bindings_eq (hwell : t.WellFormed) (hd : t.dialect = .simple) (name : Text) :
    (t.bindings trace path).placed name =
      t.elements.flatMap (Element.placedTo trace path name) := by
  have hnone : ∀ i, t.contributesAt name i = false → t.placedAt trace path name i = [] := by
    intro i hi
    rw [placedAt]
    cases he : t.elements[i]? with
    | none => rfl
    | some e =>
        rw [contributesAt, he] at hi
        cases e with
        | literal s => rfl
        | operator o => rfl
        | «variable» v =>
            have hne : v.name ≠ name := by simpa [Element.contributes] using hi
            simp [Element.placedTo, hne]
  have hkept : ∀ i ∈ t.recordingOrder, t.replacesAt name i = true →
      t.placedAt trace path name i = [] := by
    intro i _ hreplaces
    rw [replacesAt_eq_false (hwell.replaces_eq_false hd name)] at hreplaces
    cases hreplaces
  have hother : ∀ e : Element, name ∉ e.names → e.placedTo trace path name = [] := by
    intro e he
    cases e with
    | literal s => rfl
    | operator o => rfl
    | «variable» v => exact if_neg fun h => he (List.mem_singleton.mpr h.symm)
  rw [bindings_eq, (placed_recorded hwell hd t.recordingOrder).2,
    flatMap_recordingOrder hwell hnone hkept]
  exact flatMap_binders_get hwell hother

theorem literalFits_of_captures {es : List Element} {us : List (Option Text)}
    (h : List.Forall₂ Element.Captures es us) : List.Forall₂ LiteralFits es us := by
  refine h.imp ?_
  rintro e _ ⟨u, rfl, hu⟩ t rfl
  rw [hu t rfl]

/-- The text under a variable begins where the texts under the elements before it end. -/
theorem WellFormed.capture_of_search (ht : t.WellFormed) (hes : ∀ e ∈ t.elements, e.IsEnclosed)
    (h : t.regex.search path = some trace) {before after : List Element} {v : Variable}
    (hsplit : t.elements = before ++ .variable v :: after) :
    trace.capture path v.group =
      some (pieceOf trace path (.variable v),
        Text.byteLength (before.map (pieceOf trace path)).flatten) := by
  obtain ⟨us, tail, hus, rfl, rfl⟩ := ht.captures_of_search hes h
  have hnumbered := ht.numbered
  rw [hsplit] at hus hnumbered ⊢
  -- What is recorded is cut where the elements are.
  obtain ⟨us₁, _, us₂, rfl, hlength, u, rfl, -⟩ := exists_cut hus
  rw [capture_element hnumbered hlength rfl,
    pieceOf_element hnumbered hlength fun t ht => by cases ht]
  have hpieces := @map_pieceOf _ _ tail _ hnumbered (literalFits_of_captures hus)
  rw [List.map_append, List.map_append] at hpieces
  rw [(List.append_inj hpieces (by simp [hlength])).1, ← textOf_eq_flatten]
  rfl

end Template
end PathTemplate
