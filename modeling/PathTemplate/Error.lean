import PathTemplate.OperatorKind

/-!
# Error — why a template is refused or a request fails

- `SyntaxFault`   : what the template reader met, at a position
- `GrammarError`  : why the text of a template is no template
- `TemplateError` : every failure of the library
- `TemplateError.message` : the wording of each
-/

namespace PathTemplate

/-- What the reader met where the grammar allows something else. -/
inductive SyntaxFault
  | closingBrace
  | nestedBraces
  | openBrace
  | openVariable
  | operatorName
  | escape
  | nameCharacter (found : Char)
  | nameMissing
  | mismatch (expected found : Char)
  | missing (expected : Char)
  deriving DecidableEq, Repr

def SyntaxFault.message : SyntaxFault → Text
  | closingBrace => "Unexpected closing brace".toList
  | nestedBraces => "Nested braces in regular expression".toList
  | openBrace => "Unterminated brace in regular expression".toList
  | openVariable => "Unterminated variable".toList
  | operatorName => "Expected operator name".toList
  | escape => "Malformed percent escape".toList
  | nameCharacter c => "Invalid character '".toList ++ c :: "' in variable name".toList
  | nameMissing => "Expected variable name but found end of input".toList
  | mismatch e f => "Expected '".toList ++ e :: "' but found '".toList ++ [f, '\'']
  | missing e => "Expected '".toList ++ e :: "' but found end of input".toList

inductive GrammarError
  /-- The reader stopped at an octet offset. -/
  | fault (what : SyntaxFault) (position : Nat)
  | unknownOperator (name : Text)
  | variableCount (kind : OperatorKind)
  | emptyArgument (kind : OperatorKind)
  | braceInLiteral (literal : Text)
  /-- A constraint adds a group to the pattern or takes one away. -/
  | groupLayout
  deriving DecidableEq, Repr

def GrammarError.message : GrammarError → Text
  | fault what position =>
      what.message ++ " at position ".toList ++ Nat.toDigits 10 position
  | unknownOperator name => "Unsupported operator '".toList ++ name ++ ['\'']
  | variableCount kind =>
      "The ".toList ++ kind.name ++ " operator must have exactly one variable".toList
  | emptyArgument kind =>
      "The ".toList ++ kind.name ++ " operator requires a non-empty argument".toList
  | braceInLiteral literal => '\'' :: literal ++ "' contains invalid template form".toList
  | groupLayout => "Variable regular expression changes the group layout".toList

inductive TemplateError
  /-- The text does not follow the grammar of its dialect. -/
  | grammar (template : Text) (cause : GrammarError)
  /-- The generated pattern is no regular expression. -/
  | invalidPattern (template : Text)
  /-- A matcher was asked about a match that did not happen. -/
  | unmatched
  /-- A variable has neither a value nor a default. -/
  | missingVariable (name : Text)
  /-- The join operator got several values for one variable. -/
  | joinArity (name : Text) (count : Nat)
  /-- Two catalog entries have one name. -/
  | duplicateName (name : Text)
  /-- The text of a catalog is no catalog. -/
  | invalidCatalog
  deriving DecidableEq, Repr

namespace TemplateError

/-- The wording of an error. -/
def message : TemplateError → Text
  | grammar template cause =>
      "Syntax error in template '".toList ++ template ++ "': ".toList ++ cause.message
  -- Here and for an invalid catalog, the wording ends where the cause would follow.
  | invalidPattern template =>
      "Invalid regular expression in template '".toList ++ template ++ "': ".toList
  | unmatched => "Last match was unsuccessful".toList
  | missingVariable name => "Variable '".toList ++ name ++ "' was not supplied a value".toList
  | joinArity name count =>
      "Variable '".toList ++ name ++ "' has ".toList ++ Nat.toDigits 10 count
        ++ " values, the join operator accepts at most one".toList
  | duplicateName name => "Duplicate template name: ".toList ++ name
  | invalidCatalog => "Invalid template catalog: ".toList

def isCompileError : TemplateError → Bool
  | grammar _ _ | invalidPattern _ => true
  | _ => false

end TemplateError
end PathTemplate
