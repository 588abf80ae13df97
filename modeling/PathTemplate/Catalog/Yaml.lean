import PathTemplate.Catalog
import PathTemplate.Yaml.Document

/-!
# Catalogs in YAML

`Catalog.ofYaml` reads a catalog from a YAML text: a sequence of mappings with the fields of an
entry.  An empty document is an empty catalog.

A text field takes the text of any scalar, however it is written.  An optional field takes null for
no value.  No field of an entry may be given twice, and what has another name is ignored.
-/

namespace PathTemplate

open Yaml (Node Document Style)

namespace CatalogEntry

/-! ## Values -/

/-- The tag that names a type of YAML itself. -/
def coreTag (name : String) : Text := "tag:yaml.org,2002:".toList ++ name.toList

def spellsNull (t : Text) : Bool :=
  t == "~".toList || t == "null".toList || t == "Null".toList || t == "NULL".toList

def spelledBool? (t : Text) : Option Bool :=
  if t = "true".toList ∨ t = "True".toList ∨ t = "TRUE".toList then some true
  else if t = "false".toList ∨ t = "False".toList ∨ t = "FALSE".toList then some false
  else none

def textOfNode? : Node → Option Text
  | .scalar _ _ t => some t
  | _ => none

/-- The truth value of a plain scalar, or of literal lines with the tag of truth values. -/
def boolOfNode? : Node → Option Bool
  | .scalar p style t =>
      if style = .plain ∨ (style = .literal ∧ p.tag = some (coreTag "bool")) then spelledBool? t
      else none
  | _ => none

/-- The dialect that a scalar names by its text, or by a tag of its own before an empty or null
text. -/
def dialectOfNode? : Node → Option Dialect
  | .scalar p style t =>
      match p.tag with
      | some ('!' :: name) =>
          if style = .plain ∧ (t = [] ∨ spellsNull t) then Dialect.ofName? name else none
      | _ => Dialect.ofName? t
  | _ => none

/-- Whether a node is a value, and not null or left out. -/
def isValue? : Node → Option Bool
  | .scalar p .plain t =>
      match p.tag with
      | none => some (t ≠ [] && !spellsNull t)
      | some tag =>
          -- A node with the tag of null must spell null.
          if tag ≠ coreTag "null" then some true
          else if spellsNull t then some false
          else none
  | _ => some true

def optionalOfNode? {α : Type} (read : Node → Option α) : Option Node → Option (Option α)
  | none => some none
  | some n => do if ← isValue? n then (read n).map some else some none

/-! ## Entries -/

def fieldNames : List Text :=
  ["name".toList, "template".toList, "dialect".toList, "normalize".toList]

/-- The fields of a mapping, each with the text of its key. -/
def fieldsOfNode? (d : Document) : Node → Option (List (Text × Node))
  | .mapping _ pairs => pairs.mapM fun (k, v) => do
      let k ← d.follow? k
      let name ← textOfNode? k
      some (name, v)
  | _ => none

def ofFields? (d : Document) (fields : List (Text × Node)) : Option CatalogEntry := do
  -- What is no field may be there twice.
  if fieldNames.any fun name => 1 < fields.countP (·.1 == name) then none
  else
    let field (name : String) : Option Node := (fields.lookup name.toList).bind d.follow?
    let name ← (field "name").bind textOfNode?
    let template ← (field "template").bind textOfNode?
    let dialect ← optionalOfNode? dialectOfNode? (field "dialect")
    let normalize ← optionalOfNode? boolOfNode? (field "normalize")
    some { name, template, dialect, normalize }

def ofNode? (d : Document) (n : Node) : Option CatalogEntry := do
  let n ← d.follow? n
  let fields ← fieldsOfNode? d n
  ofFields? d fields

/-! ## Aliases -/

def aliasCount : Node → Nat
  | .aliasOf _ => 1
  | _ => 0

/-- How many aliases are followed to read a pair of an entry: its key, and its value if the key is
known. -/
def followedInPair (d : Document) (pair : Node × Node) : Nat :=
  match (d.follow? pair.1).bind textOfNode? with
  | some name => aliasCount pair.1 + if fieldNames.contains name then aliasCount pair.2 else 0
  | none => aliasCount pair.1

/-- How many aliases are followed to read the entry of a node. -/
def followed (d : Document) (n : Node) : Nat :=
  match d.follow? n with
  | some (.mapping _ pairs) =>
      pairs.foldl (fun count pair => count + followedInPair d pair) (aliasCount n)
  | _ => aliasCount n

end CatalogEntry

namespace Catalog

/-- The most aliases that may be followed for each unit of a document's weight. -/
def aliasLimit : Nat := 100

def followed (d : Document) (items : List Node) : Nat :=
  items.foldl (fun count n => count + CatalogEntry.followed d n) 0

def ofDocument? (d : Document) : Option Catalog :=
  match d.root with
  | none => some []
  | some root =>
      match root with
      | .sequence _ items =>
          if aliasLimit * root.weight < followed d items then none
          else items.mapM (CatalogEntry.ofNode? d)
      | _ => if root.isBlank then some [] else none

def ofYaml (t : Text) : Except TemplateError Catalog :=
  match (Document.ofText? t).bind ofDocument? with
  | some c => .ok c
  | none => .error .invalidCatalog

end Catalog
end PathTemplate
