import PathTemplate.Error
import PathTemplate.Part

/-!
# Element — the pieces of a compiled template

- `Variable` : a name that stands for one value
- `Operator` : an operator whose argument and variables have been checked
- `Element`  : a literal, a variable or an operator

Every element but a literal owns one group of the pattern.
-/

namespace PathTemplate

structure Variable where
  name : Text
  /-- The constraint, with its groups unrecorded. -/
  constraint : Option Text
  default : Option Text
  group : Nat
  deriving DecidableEq, Repr

structure Operator where
  kind : OperatorKind
  arg : Text
  /-- The variables and their defaults, each name once. -/
  vars : List VariableSpec
  group : Nat
  deriving DecidableEq, Repr

/-- A piece of a compiled template. -/
inductive Element
  | literal (text : Text)
  | variable (v : Variable)
  | operator (o : Operator)
  deriving DecidableEq, Repr

/-! ## Operators -/

namespace Operator

/-- Add a variable.  If it is there already, its default is replaced. -/
def mergeVar (vars : List VariableSpec) (v : VariableSpec) : List VariableSpec :=
  match vars with
  | [] => [v]
  | w :: rest => if w.1 = v.1 then (w.1, v.2) :: rest else w :: mergeVar rest v

/-- The variables with each name once: at its first place, with its last default. -/
def mergeVars (vars : List VariableSpec) : List VariableSpec := vars.foldl mergeVar []

/-- An operator from its parts, if it has a known name and they meet its demands. -/
def make? (name arg : Text) (vars : List VariableSpec) (group : Nat) :
    Except GrammarError Operator :=
  match OperatorKind.ofName? name with
  | none => .error (.unknownOperator name)
  | some kind =>
      let vars := mergeVars vars
      -- What counts is how many different names there are.
      if kind.isUnary && vars.length != 1 then .error (.variableCount kind)
      else if kind.cutsAtArgument && arg.isEmpty then .error (.emptyArgument kind)
      else .ok { kind, arg, vars, group }

def names (o : Operator) : List Text := o.vars.map (·.1)

/-- The first variable, the only one of a unary operator. -/
def first (o : Operator) : VariableSpec := o.vars.headD ([], none)

end Operator

/-! ## Elements -/

namespace Element

def names : Element → List Text
  | literal _ => []
  | .variable v => [v.name]
  | operator o => o.names

def group? : Element → Option Nat
  | literal _ => none
  | .variable v => some v.group
  | operator o => some o.group

def literalLength : Element → Nat
  | literal t => t.length
  | _ => 0

def isConstrained : Element → Bool
  | .variable v => v.constraint.isSome
  | _ => false

end Element
end PathTemplate
