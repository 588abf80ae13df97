import PathTemplate.Text

/-!
# OperatorKind — the operators of the extended dialect

Six operators, each with its name in templates and its demands on argument and variables.
-/

namespace PathTemplate

/-- What an operator does when it is expanded. -/
inductive OperatorKind
  /-- The argument, if no variable has a value. -/
  | negate
  /-- The argument, if some variable has a value. -/
  | option
  /-- The argument before each value. -/
  | before
  /-- The argument after each value. -/
  | after
  /-- The argument between values. -/
  | list
  /-- Pairs of name and value with the argument between them. -/
  | join
  deriving DecidableEq, Repr

namespace OperatorKind

def name : OperatorKind → Text
  | negate => "neg".toList
  | option => "opt".toList
  | before => "prefix".toList
  | after => "suffix".toList
  | list => "list".toList
  | join => "join".toList

def all : List OperatorKind := [negate, option, before, after, list, join]

def ofName? (t : Text) : Option OperatorKind := all.find? fun k => k.name == t

/-- Whether there must be exactly one variable. -/
def isUnary : OperatorKind → Bool
  | before | after | list => true
  | negate | option | join => false

/-- Whether a matched text is cut at the argument, which then cannot be empty. -/
def cutsAtArgument : OperatorKind → Bool
  | negate | option => false
  | before | after | list | join => true

theorem ofName?_name (k : OperatorKind) : ofName? k.name = some k := by
  cases k <;> decide

theorem ofName?_eq_some_iff {t : Text} {k : OperatorKind} : ofName? t = some k ↔ k.name = t := by
  constructor
  · intro h
    simpa using List.find?_some h
  · rintro rfl
    exact ofName?_name k

end OperatorKind
end PathTemplate
