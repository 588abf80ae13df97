import PathTemplate.Text

/-!
# Part — the pieces of a template text

- `Part`        : a literal, a variable or an operator, as written
- `Parsed`      : the parts up to the last expression, and the literal text after it
- `Part.render` : the text of a part

Nothing about a part is checked here beyond what the grammar says: an operator may have any name
and may list a variable twice.
-/

namespace PathTemplate

/-- A variable of an operator, with its default. -/
abbrev VariableSpec := Text × Option Text

inductive Part
  | literal (text : Text)
  | variable (name : Text) (constraint default : Option Text)
  | operator (name arg : Text) (vars : List VariableSpec)
  deriving DecidableEq, Repr

/-- A template text taken apart. -/
structure Parsed where
  parts : List Part
  /-- The literal text after the last expression. -/
  trailing : Text
  deriving DecidableEq, Repr

/-! ## Rendering -/

/-- A mark and the text after it, if there is one. -/
def renderOptional (mark : Char) : Option Text → Text
  | none => []
  | some t => mark :: t

def VariableSpec.render (v : VariableSpec) : Text := v.1 ++ renderOptional '=' v.2

def Part.render : Part → Text
  | .literal text => text
  | .variable name constraint default =>
      '{' :: (name ++ renderOptional ':' constraint ++ renderOptional '=' default ++ ['}'])
  | .operator name arg vars =>
      '{' :: '-' :: (name ++ '|' :: (arg ++ '|' ::
        (Text.join [','] (vars.map VariableSpec.render) ++ ['}'])))

def Parsed.render (p : Parsed) : Text := p.parts.flatMap Part.render ++ p.trailing

end PathTemplate
