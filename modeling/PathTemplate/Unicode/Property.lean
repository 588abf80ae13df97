import PathTemplate.Text
import PathTemplate.Unicode.Age
import PathTemplate.Unicode.BinaryProperty
import PathTemplate.Unicode.GeneralCategory
import PathTemplate.Unicode.Script
import PathTemplate.Unicode.ScriptExtension
import PathTemplate.Unicode.SegmentBreak

/-!
# Unicode properties by name

- `looseName`      : names are compared without case, blanks, hyphens, underscores and `is`
- `property?`      : a binary property, a general category or a script
- `propertyValue?` : a value of a property that has several: category, script, age, text segmentation

A property is given as tables whose union it is.
-/

namespace PathTemplate
namespace Unicode

/-- A name as it is compared. -/
def looseName (name : Text) : Text :=
  let fold (t : Text) : Text :=
    (t.filter fun c => c.toNat < 0x80 && c != ' ' && c != '_' && c != '-').map Char.toLower
  match name with
  | a :: b :: rest =>
      if a.toLower = 'i' && b.toLower = 's' then
        let short := fold rest
        -- The one name that begins with these letters by chance.
        if short = ['c'] then "isc".toList else short
      else fold name
  | _ => fold name

def isNamed (names : List String) (name : Text) : Bool :=
  names.any fun n => looseName n.toList == name

/-- The tables of the entries with a loose name; none if no entry has it. -/
def findNamed (entries : List NamedRanges) (name : Text) : Option (List RangeTable) :=
  (entries.find? fun e => isNamed e.1 name).map fun e => [.decode e.2]

def anyTable : RangeTable := ⟨#[(0, 0x10FFFF)]⟩

def asciiTable : RangeTable := ⟨#[(0, 0x7F)]⟩

def category? (name : Text) : Option (List RangeTable) :=
  if name = "any".toList then some [anyTable]
  else if name = "ascii".toList then some [asciiTable]
  else if name = "assigned".toList then
    some ((generalCategories.filter fun e => !isNamed e.1 ['c', 'n']).map fun e => .decode e.2)
  else
    match categoryGroups.find? fun g => isNamed g.1 name with
    | some g => some (g.2.flatMap fun m => (findNamed generalCategories (looseName m.toList)).getD [])
    | none => findNamed generalCategories name

def script? (name : Text) : Option (List RangeTable) := findNamed scripts name

def scriptExtension? (name : Text) : Option (List RangeTable) :=
  (findNamed scriptExtensions name).orElse fun _ => script? name

/-- The characters that a version of Unicode has, those of the versions before it included. -/
def age? (name : Text) : Option (List RangeTable) :=
  (ages.findIdx? fun e => isNamed e.1 name).map fun i =>
    (ages.take (i + 1)).map fun e => .decode e.2

def property? (name : Text) : Option (List RangeTable) :=
  let name := looseName name
  (findNamed binaryProperties name).orElse fun _ =>
    (category? name).orElse fun _ => script? name

def propertyValue? (name value : Text) : Option (List RangeTable) :=
  let name := looseName name
  let value := looseName value
  if isNamed ["gc", "General_Category"] name then category? value
  else if isNamed ["sc", "Script"] name then script? value
  else if isNamed ["scx", "Script_Extensions"] name then scriptExtension? value
  else if isNamed ["Age"] name then age? value
  else if isNamed ["GCB", "Grapheme_Cluster_Break"] name then findNamed graphemeBreaks value
  else if isNamed ["WB", "Word_Break"] name then findNamed wordBreaks value
  else if isNamed ["SB", "Sentence_Break"] name then findNamed sentenceBreaks value
  else none

end Unicode
end PathTemplate
