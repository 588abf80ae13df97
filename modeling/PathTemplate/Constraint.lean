import PathTemplate.Text

/-!
# Constraint — the regular expression of a variable

The groups of a pattern are numbered by the elements of its template, so a constraint should bring
none of its own.  `Constraint.neutralize` writes each group of a constraint as one that is not
recorded: `a(b)*c` becomes `a(?:b)*c`, and `(?P<x>a+)` becomes `(?:a+)`.  An escaped parenthesis
stays, and so does one inside brackets; brackets are taken not to nest.
-/

namespace PathTemplate
namespace Constraint

/-- Where in a constraint a character stands. -/
inductive Place
  | outside
  | inBrackets
  /-- In the name of a group, which is left out. -/
  | inName
  deriving DecidableEq, Repr

/-- `neutralize` from a place within the constraint. -/
def neutralizeFrom : Place → Text → Text
  | _, [] => []
  | .inName, c :: t => neutralizeFrom (if c = '>' then .outside else .inName) t
  | place, '\\' :: c :: t => '\\' :: c :: neutralizeFrom place t
  -- A closing bracket that comes first in a class stands for itself.
  | .outside, '[' :: '^' :: ']' :: t => '[' :: '^' :: ']' :: neutralizeFrom .inBrackets t
  | .outside, '[' :: '^' :: t => '[' :: '^' :: neutralizeFrom .inBrackets t
  | .outside, '[' :: ']' :: t => '[' :: ']' :: neutralizeFrom .inBrackets t
  | .outside, '[' :: t => '[' :: neutralizeFrom .inBrackets t
  -- A name goes up to the angle bracket that closes it, and is none without such a bracket.
  | .outside, '(' :: '?' :: 'P' :: '<' :: t =>
      if t.contains '>' then '(' :: '?' :: ':' :: neutralizeFrom .inName t
      else '(' :: '?' :: 'P' :: '<' :: neutralizeFrom .outside t
  | .outside, '(' :: '?' :: '<' :: c :: t =>
      -- Behind `(?<`, these two signs would begin a condition on the text before.
      if c ≠ '=' ∧ c ≠ '!' ∧ (c :: t).contains '>' then
        '(' :: '?' :: ':' :: neutralizeFrom .inName (c :: t)
      else '(' :: '?' :: '<' :: neutralizeFrom .outside (c :: t)
  | .outside, '(' :: '?' :: t => '(' :: '?' :: neutralizeFrom .outside t
  | .outside, '(' :: t => '(' :: '?' :: ':' :: neutralizeFrom .outside t
  | .inBrackets, ']' :: t => ']' :: neutralizeFrom .outside t
  | place, c :: t => c :: neutralizeFrom place t

/-- The constraint with every group unrecorded. -/
def neutralize (t : Text) : Text := neutralizeFrom .outside t

end Constraint
end PathTemplate
