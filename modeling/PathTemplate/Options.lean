import PathTemplate.Text

/-!
# Options — how a template is compiled

- `Dialect`        : which of the two grammars a template is written in
- `CompileOptions` : the dialect, and whether the template is normalized first
- `Datum`          : structured data, as settings are stored
- `CompileOptions.ofDatum?` : options read from data; what is missing has its default
-/

namespace PathTemplate

inductive Dialect
  /-- Variables with an optional regular expression after a colon. -/
  | simple
  /-- Variables with an optional default after an equals sign, and operators. -/
  | extended
  deriving DecidableEq, Repr

namespace Dialect

def name : Dialect → Text
  | simple => "simple".toList
  | extended => "extended".toList

def ofName? (t : Text) : Option Dialect :=
  if t = simple.name then some simple
  else if t = extended.name then some extended
  else none

theorem ofName?_name (d : Dialect) : ofName? d.name = some d := by
  cases d <;> rfl

end Dialect

structure CompileOptions where
  dialect : Dialect := .simple
  /-- Whether dot segments and one leading slash are removed first. -/
  normalize : Bool := true
  deriving DecidableEq, Repr

/-! ## Settings as data -/

inductive Datum
  | null
  | bool (b : Bool)
  | number
  | text (t : Text)
  | list (items : List Datum)
  | map (fields : List (Text × Datum))

instance : Inhabited Datum := ⟨.null⟩

namespace Datum

def field? (fields : List (Text × Datum)) (name : String) : Option Datum :=
  (fields.find? fun f => f.1 == name.toList).map (·.2)

def asText? : Datum → Option Text
  | text t => some t
  | _ => none

def asBool? : Datum → Option Bool
  | bool b => some b
  | _ => none

/-- The dialect that a datum names, as a text or as the one key of a map to null. -/
def asDialect? : Datum → Option Dialect
  | text t => Dialect.ofName? t
  | map [(k, null)] => Dialect.ofName? k
  | _ => none

/-- A present datum that is not null. -/
def present? : Option Datum → Option Datum
  | some null => none
  | d => d

end Datum

/-- Read an optional part: absent means the default, present must be readable. -/
def Datum.readOr {α : Type} (default : α) (read : Datum → Option α) : Option Datum → Option α
  | none => some default
  | some d => read d

/-- The options that a datum describes, by field name or by position. -/
def CompileOptions.ofDatum? : Datum → Option CompileOptions
  | .map fields => parts (Datum.field? fields "dialect") (Datum.field? fields "normalize")
  | .list items => if items.length ≤ 2 then parts items[0]? items[1]? else none
  | _ => none
where
  parts (dialect normalize : Option Datum) : Option CompileOptions := do
    -- A field that is null is there, and cannot be read.
    let dialect ← Datum.readOr .simple Datum.asDialect? dialect
    let normalize ← Datum.readOr true Datum.asBool? normalize
    pure { dialect, normalize }

end PathTemplate
