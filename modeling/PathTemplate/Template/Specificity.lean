import PathTemplate.Template

/-!
# Specificity — which of two templates is tried first

- `Template.compareSpecificity` : the order of two templates, the more specific one first
- `Template.sortBySpecificity`  : templates in this order
- Two templates are equal if they have one text and one dialect.
-/

namespace PathTemplate
namespace Template

/-- Templates are told apart by text and dialect. -/
instance : BEq Template where
  beq a b := a.text == b.text && a.dialect == b.dialect

/-- More literal characters come first, then more names, then more constraints. -/
def compareSpecificity (a b : Template) : Ordering :=
  (compare b.literalChars a.literalChars).then
    ((compare b.variableCount a.variableCount).then
      -- Only the simple dialect has constraints.
      (if a.dialect = .simple ∧ b.dialect = .simple then compare b.constrained a.constrained
        else .eq))

/-- Put `x` in front of the longest end of sorted elements that must come after it.  The elements
are given last first. -/
def insertSorted {α : Type} (before : α → α → Bool) (x : α) : List α → List α
  | [] => [x]
  | y :: ys => if before x y then y :: insertSorted before x ys else x :: y :: ys

/-- Elements in order; those that neither comes before the other stay as they were. -/
def sortBy {α : Type} (before : α → α → Bool) (xs : List α) : List α :=
  (xs.foldl (fun sorted x => insertSorted before x sorted) []).reverse

def sortBySpecificity {α : Type} (template : α → Template) (xs : List α) : List α :=
  sortBy (fun x y => compareSpecificity (template x) (template y) == .lt) xs

end Template
end PathTemplate
