import PathTemplate.Element
import PathTemplate.Multimap
import PathTemplate.Percent

/-!
# The text that values give an element

`Element.write` writes an element with values filled in.  When a value is missing it stops, and what
it wrote before that stays.
-/

namespace PathTemplate

/-- Text, and the failure at which writing it stopped. -/
abbrev Written := Text × Option TemplateError

def Written.after (t : Text) (w : Written) : Written := (t ++ w.1, w.2)

/-- The text, if it was written to its end. -/
def Written.result (w : Written) : Except TemplateError Text :=
  match w.2 with
  | none => .ok w.1
  | some e => .error e

def writeValue (encode : Bool) (value : Text) : Text :=
  if encode then Percent.encode value else value

namespace Operator

def anyBound (o : Operator) (values : Multimap Text) : Bool :=
  o.names.any fun n => !(values.get n).isEmpty

/-- The values of a variable; its default counts where it is not mentioned at all. -/
def valuesOf (v : VariableSpec) (values : Multimap Text) : List Text :=
  match values.get? v.1 with
  | some vs => vs
  | none => v.2.toList

/-- Write pairs of name and value, with `delimiter` before the first. -/
def writePairs (arg : Text) (values : Multimap Text) (encode : Bool) :
    (delimiter : Text) → List VariableSpec → Written
  | _, [] => ([], none)
  | delimiter, v :: vs =>
      match valuesOf v values with
      -- A variable without a value is left out, together with its delimiter.
      | [] => writePairs arg values encode delimiter vs
      | [x] =>
          Written.after (delimiter ++ v.1 ++ '=' :: writeValue encode x)
            (writePairs arg values encode arg vs)
      | xs => ([], some (.joinArity v.1 xs.length))

def write (o : Operator) (values : Multimap Text) (encode : Bool) : Written :=
  let written := (valuesOf o.first values).map (writeValue encode)
  match o.kind with
  | .negate => (if o.anyBound values then [] else o.arg, none)
  | .option => (if o.anyBound values then o.arg else [], none)
  | .before => (written.flatMap fun x => o.arg ++ x, none)
  | .after => (written.flatMap fun x => x ++ o.arg, none)
  | .list => (Text.join o.arg written, none)
  | .join => writePairs o.arg values encode [] o.vars

end Operator

/-- Write a variable: its first value, or else its default. -/
def Variable.write (v : Variable) (values : Multimap Text) (encode : Bool) : Written :=
  match (values.getFirst? v.name).or v.default with
  | some x => (writeValue encode x, none)
  | none => ([], some (.missingVariable v.name))

/-- Write an element. -/
def Element.write (values : Multimap Text) (encode : Bool) : Element → Written
  -- Literals are held encoded.
  | .literal t => (if encode then t else Percent.decode t, none)
  | .variable v => v.write values encode
  | .operator o => o.write values encode

/-- Write elements up to the first failure. -/
def Element.writeAll (values : Multimap Text) (encode : Bool) : List Element → Written
  | [] => ([], none)
  | e :: es =>
      match e.write values encode with
      | (t, none) => Written.after t (writeAll values encode es)
      | failed => failed

end PathTemplate
