import PathTemplate.Proofs.Template.Recording

/-!
# Bindings — what a match binds to the names of variables

- `Element.IsFree`        : literals and variables without a constraint
- `Element.IsFlat`        : literals and elements that cover no slash
- `Element.boundTo`       : what an element contributes to the values of a name
- `Template.get_bindings` : the values of a name come from its variables, in template order
-/

namespace PathTemplate

/-- A literal, or a variable without a constraint. -/
def Element.IsFree : Element → Prop
  | .literal _ => True
  | .variable v => v.constraint = none
  | .operator _ => False

instance : DecidablePred Element.IsFree
  | .literal _ => .isTrue trivial
  | .variable v => inferInstanceAs (Decidable (v.constraint = none))
  | .operator _ => .isFalse id

theorem Element.IsFree.isPlain {e : Element} (he : e.IsFree) : e.IsPlain := by
  cases e with
  | literal t => trivial
  | «variable» v => exact he
  | operator o => exact he.elim

/-- A literal, or an element whose pieces have no slash. -/
def Element.IsFlat : Element → Prop
  | .literal _ => True
  | e => ∀ u ∈ e.pieces, '/' ∉ u

theorem Element.IsFree.isFlat {e : Element} (he : e.IsFree) : e.IsFlat := by
  cases e with
  | literal t => trivial
  | «variable» v => exact fun u hu => hu.2
  | operator o => exact he.elim

theorem Element.IsFree.replaces_eq_false {e : Element} (he : e.IsFree) (name : Text) :
    e.replaces name = false := by
  cases e with
  | literal t => rfl
  | «variable» v => rfl
  | operator o => exact he.elim

/-- What a variable of the name contributes to the values of the name. -/
def Element.boundTo (trace : Trace) (path name : Text) : Element → List (Option Text)
  | .variable v => if v.name = name then [(trace.capture path v.group).map (·.1)] else []
  | _ => []

theorem Element.IsFree.gives_eq {e : Element} (he : e.IsFree) (trace : Trace) (path name : Text) :
    e.gives (e.captureIn trace path) name = e.boundTo trace path name := by
  cases e with
  | literal t => rfl
  | «variable» v => rfl
  | operator o => exact he.elim

namespace Template

variable {t : Template} {trace : Trace} {path name : Text}

/-- Without operators all values are kept. -/
theorem keepsValues_of_isFree (ht : ∀ e ∈ t.elements, e.IsFree) (name : Text) :
    t.KeepsValues name :=
  keepsValues_of_replaces_eq_false fun e he => (ht e he).replaces_eq_false name

/-- The values that a match binds to a name: one for each variable of the name, in the order of the
template. -/
theorem get_bindings (hwell : t.WellFormed) (ht : ∀ e ∈ t.elements, e.IsFree) :
    (t.bindings trace path).values.get name =
      t.elements.flatMap (Element.boundTo trace path name) := by
  have hgives : ∀ e ∈ t.elements,
      e.gives (e.captureIn trace path) name = e.boundTo trace path name :=
    fun e he => (ht e he).gives_eq trace path name
  rw [get_bindings_of_keeps hwell (keepsValues_of_isFree ht name), List.flatMap_def,
    List.flatMap_def, List.map_congr_left hgives]

end Template
end PathTemplate
