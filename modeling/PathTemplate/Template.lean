import PathTemplate.Constraint
import PathTemplate.DotSegments
import PathTemplate.Event
import PathTemplate.Multimap
import PathTemplate.Part.Reader
import PathTemplate.Regex.Search
import PathTemplate.Template.Pattern

/-!
# Template — compiled templates

A template text is read into parts, the parts become elements, and the elements contribute to one
pattern, which is then read as a whole.

- `Template`              : a compiled template
- `Template.Builder`      : the elements so far, and what is counted along with them
- `Template.make?`        : compile a template as written
- `Template.compile`      : the same with a report
- `Template.compileWith`  : compile with options
-/

namespace PathTemplate

def CompileOptions.prepare (o : CompileOptions) (text : Text) : Text :=
  if o.normalize then PathTemplate.normalize text else text

structure Template where
  /-- The text it was compiled from. -/
  text : Text
  dialect : Dialect
  elements : List Element
  /-- For each name the indices of the elements that bind it. -/
  binders : Multimap Nat
  /-- The number of the last group. -/
  tailGroup : Nat
  /-- The number of literal characters, after encoding. -/
  literalChars : Nat
  /-- The number of variables with a constraint. -/
  constrained : Nat
  /-- The text of the pattern. -/
  pattern : Text
  /-- The expression that the pattern denotes. -/
  regex : Regex

namespace Template

/-- The names of the variables, in the order of their first occurrence. -/
def names (t : Template) : List Text := t.binders.keys

def variableCount (t : Template) : Nat := t.binders.size

/-! ## Building elements -/

/-- The elements so far, and what is counted along with them. -/
structure Builder where
  elements : List Element := []
  binders : Multimap Nat := .empty
  /-- The number of the last group. -/
  groups : Nat := headGroup
  literalChars : Nat := 0
  constrained : Nat := 0

namespace Builder

def addElement (b : Builder) (e : Element) : Builder :=
  { b with
    elements := b.elements ++ [e]
    binders := b.binders.extend (e.names.map fun n => (n, b.elements.length))
    groups := b.groups + 1
    constrained := b.constrained + if e.isConstrained then 1 else 0 }

/-- Add literal text, unless it is empty. -/
def addLiteral (b : Builder) (d : Dialect) (text : Text) : Except GrammarError Builder :=
  if text = [] then .ok b
  else
    -- Literal text of the extended dialect is taken to be encoded already.
    let text := match d with
      | .simple => Percent.encodeLiteral text
      | .extended => text
    if text.all Reader.isLiteralChar then
      .ok { b with
        elements := b.elements ++ [.literal text]
        literalChars := b.literalChars + text.length }
    else .error (.braceInLiteral text)

def addPart (d : Dialect) (b : Builder) : Part → Except GrammarError Builder
  | .literal text => b.addLiteral d text
  | .variable name constraint default =>
      -- Only elements own groups of the pattern, so those of a constraint are not recorded.
      let constraint := constraint.map Constraint.neutralize
      .ok (b.addElement (.variable ⟨name, constraint, default, b.groups + 1⟩))
  | .operator name arg vars => do
      let o ← Operator.make? name arg vars (b.groups + 1)
      .ok (b.addElement (.operator o))

/-- Add the parts of a template, and its trailing text less one slash at its end. -/
def ofParsed? (d : Dialect) (p : Parsed) : Except GrammarError Builder := do
  let b ← p.parts.foldlM (addPart d) {}
  b.addLiteral d (p.trailing.dropTrailing '/')

end Builder

/-! ## Compiling -/

/-- The template of built elements, if their pattern is a regular expression. -/
def ofBuilder? (text : Text) (d : Dialect) (b : Builder) : Except TemplateError Template :=
  let tailGroup := b.groups + 1
  match Pattern.ofText? (patternText b.elements) with
  | none => .error (.invalidPattern text)
  | some p =>
      -- A constraint may bring groups of its own all the same, or close one around it.
      if p.groupBound ≠ tailGroup + 1 then .error (.grammar text .groupLayout)
      else
        .ok {
          text
          dialect := d
          elements := b.elements
          binders := b.binders
          tailGroup
          literalChars := b.literalChars
          constrained := b.constrained
          pattern := patternText b.elements
          regex := p.regex }

def make? (text : Text) (d : Dialect) : Except TemplateError Template :=
  match Parsed.ofText? d text with
  | .error e => .error e
  | .ok parsed =>
      match Builder.ofParsed? d parsed with
      | .error e => .error (.grammar text e)
      | .ok b => ofBuilder? text d b

/-- Compile a template as written, and report it. -/
def compile (text : Text) (d : Dialect) : Logged (Except TemplateError Template) :=
  match make? text d with
  | .error e => pure (.error e)
  | .ok t => ⟨.ok t, [.compiled t.text t.pattern t.tailGroup]⟩

def compileWith (text : Text) (o : CompileOptions) : Logged (Except TemplateError Template) :=
  compile (o.prepare text) o.dialect

end Template
end PathTemplate
