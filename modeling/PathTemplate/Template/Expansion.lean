import PathTemplate.Element.Expansion
import PathTemplate.Template

/-!
# Expansion — paths from values

- `Template.expand` : fill values into a compiled template
- `expandText`      : fill values into a template text, without a pattern
-/

namespace PathTemplate

def Template.expand (t : Template) (values : Multimap Text) (encode : Bool) :
    Except TemplateError Text :=
  (Element.writeAll values encode t.elements).result

/-- Write the parts of a template text. -/
def writeParts (text : Text) (values : Multimap Text) :
    List Part → Except TemplateError Text
  | [] => .ok []
  | p :: ps => do
      let t ← match p with
        -- The text was not encoded, so it is not decoded.
        | .literal t => .ok t
        | .variable name _ default =>
            (Variable.write ⟨name, none, default, 0⟩ values false).result
        | .operator name arg vars =>
            match Operator.make? name arg vars 0 with
            | .error e => .error (.grammar text e)
            | .ok o => (o.write values false).result
      let rest ← writeParts text values ps
      .ok (t ++ rest)

/-- The path of a template text with values filled in.  Nothing is encoded or decoded, and the text
after the last expression stays as it is. -/
def expandText (text : Text) (d : Dialect) (values : Multimap Text) :
    Except TemplateError Text := do
  let p ← Parsed.ofText? d text
  let t ← writeParts text values p.parts
  .ok (t ++ p.trailing)

end PathTemplate
