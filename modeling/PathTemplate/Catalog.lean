import PathTemplate.Template

/-!
# Catalog — named templates

- `CatalogEntry`         : a name, a template text and options of its own
- `Catalog.compileAll`   : compile every entry, up to the first faulty one
- `Catalog.ofDatum?`     : entries read from data
-/

namespace PathTemplate

/-- A named template with the options that differ from the defaults. -/
structure CatalogEntry where
  name : Text
  template : Text
  dialect : Option Dialect := none
  normalize : Option Bool := none
  deriving DecidableEq, Repr

namespace CatalogEntry

/-- The options of an entry: its own where it has them. -/
def options (e : CatalogEntry) (defaults : CompileOptions) : CompileOptions :=
  { dialect := e.dialect.getD defaults.dialect
    normalize := e.normalize.getD defaults.normalize }

/-- Read an optional field; absent and null are no value. -/
def optionalField? {α : Type} (read : Datum → Option α) (d : Option Datum) : Option (Option α) :=
  match Datum.present? d with
  | none => some none
  | some d => (read d).map some

/-- The entry that a datum describes, by field name or by position. -/
def ofDatum? : Datum → Option CatalogEntry
  | .map fields =>
      let field := Datum.field? fields
      parts (field "name") (field "template") (field "dialect") (field "normalize")
  | .list items =>
      if items.length ≤ 4 then parts items[0]? items[1]? items[2]? items[3]? else none
  | _ => none
where
  parts (name template dialect normalize : Option Datum) : Option CatalogEntry := do
    let name ← name.bind Datum.asText?
    let template ← template.bind Datum.asText?
    let dialect ← optionalField? Datum.asDialect? dialect
    let normalize ← optionalField? Datum.asBool? normalize
    pure { name, template, dialect, normalize }

end CatalogEntry

abbrev Catalog := List CatalogEntry

namespace Catalog

def ofDatum? : Datum → Option Catalog
  | .list items => items.mapM CatalogEntry.ofDatum?
  | _ => none

/-- Compile the entries after those with the names `seen`. -/
def compileAfter (defaults : CompileOptions) (seen : List Text) :
    Catalog → Logged (Except TemplateError (List (Text × Template)))
  | [] => pure (.ok [])
  | e :: rest => do
      -- The name is looked at first, so nothing is compiled for it.
      if seen.contains e.name then pure (.error (.duplicateName e.name))
      else
        match ← Template.compileWith e.template (e.options defaults) with
        | .error err => do
            Logged.report (.rejected e.name e.template err)
            pure (.error err)
        | .ok t =>
            match ← compileAfter defaults (e.name :: seen) rest with
            | .error err => pure (.error err)
            | .ok ts => pure (.ok ((e.name, t) :: ts))

/-- Compile every entry, up to the first faulty one. -/
def compileAll (c : Catalog) (defaults : CompileOptions) :
    Logged (Except TemplateError (List (Text × Template))) :=
  compileAfter defaults [] c

end Catalog
end PathTemplate
