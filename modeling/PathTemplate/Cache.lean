import PathTemplate.Template.Matcher

/-!
# Cache — compiled templates by text and options

Several handles may stand for one store of compiled templates.  Handle 0 is the shared one that
`Caches.matchPath` uses.

- `Caches.create`, `Caches.share` : a handle with a store of its own, a handle to a known store
- `Caches.get`                    : the compiled template of a text, compiled when first asked for
- `Caches.clear`, `Caches.size`   : forget a store's templates, count them
- `Caches.matchPath`              : match a path against the text of a template
- `Caches.call`                   : the reply to a call, and the caches after it
-/

namespace PathTemplate

/-- What a compiled template is stored under. -/
abbrev CacheKey := Text × CompileOptions

/-- A compiled template in a store.  The serial number tells it from every other compiled one. -/
structure CacheEntry where
  key : CacheKey
  serial : Nat
  template : Template

/-- Stores of compiled templates, and the handles to them. -/
structure Caches where
  stores : List (List CacheEntry)
  /-- For each handle the index of its store. -/
  handles : List Nat
  /-- The serial number of the next compiled template. -/
  nextSerial : Nat

namespace Caches

/-- The shared store, empty, with its handle. -/
def initial : Caches := ⟨[[]], [0], 0⟩

def shared : Nat := 0

def storeOf (c : Caches) (handle : Nat) : Nat := c.handles.getD handle 0

def entries (c : Caches) (handle : Nat) : List CacheEntry := c.stores.getD (c.storeOf handle) []

def size (c : Caches) (handle : Nat) : Nat := (c.entries handle).length

/-- A new handle with an empty store; its number is that of the handles so far. -/
def create (c : Caches) : Caches :=
  { c with stores := c.stores ++ [[]], handles := c.handles ++ [c.stores.length] }

/-- A new handle to the store of a handle. -/
def share (c : Caches) (handle : Nat) : Caches :=
  { c with handles := c.handles ++ [c.storeOf handle] }

def clear (c : Caches) (handle : Nat) : Caches :=
  { c with stores := c.stores.set (c.storeOf handle) [] }

def find? (c : Caches) (handle : Nat) (key : CacheKey) : Option CacheEntry :=
  (c.entries handle).find? fun e => e.key == key

def insert (c : Caches) (handle : Nat) (key : CacheKey) (t : Template) : CacheEntry × Caches :=
  let entry := ⟨key, c.nextSerial, t⟩
  (entry,
    { c with
      stores := c.stores.set (c.storeOf handle) (c.entries handle ++ [entry])
      nextSerial := c.nextSerial + 1 })

/-- The compiled template of a text. -/
def get (c : Caches) (handle : Nat) (text : Text) (o : CompileOptions) :
    Logged (Except TemplateError CacheEntry × Caches) :=
  match c.find? handle (text, o) with
  | some entry => pure (.ok entry, c)
  | none => do
      match ← Template.compileWith text o with
      -- What does not compile is not stored, so it is compiled each time it is asked for.
      | .error e => pure (.error e, c)
      | .ok t =>
          let (entry, c) := c.insert handle (text, o) t
          Logged.report (.cached text (c.size handle))
          pure (.ok entry, c)

/-- Whether a path matches the text of a template under the default options. -/
def matchPath (c : Caches) (text path : Text) :
    Logged (Except TemplateError Bool × Caches) := do
  match ← c.get shared text {} with
  | (.error e, c) => pure (.error e, c)
  | (.ok entry, c) =>
      -- Normalizing the template has taken one leading slash off.
      let (matched, _) ← entry.template.matcher.run (path.dropLeading '/')
      pure (.ok matched, c)

/-! ## Calls -/

inductive Call
  /-- A handle with a store of its own. -/
  | create
  /-- Another handle to the store of a handle. -/
  | share (handle : Nat)
  | get (handle : Nat) (text : Text) (o : CompileOptions)
  | clear (handle : Nat)
  | matchPath (text path : Text)

inductive Reply
  /-- The number of a new handle. -/
  | handle (n : Nat)
  | entry (r : Except TemplateError CacheEntry)
  | cleared
  | matched (r : Except TemplateError Bool)

def call (c : Caches) : Call → Logged (Reply × Caches)
  | .create => pure (.handle c.handles.length, c.create)
  | .share handle => pure (.handle c.handles.length, c.share handle)
  | .get handle text o => do
      let (r, c) ← c.get handle text o
      pure (.entry r, c)
  | .clear handle => pure (.cleared, c.clear handle)
  | .matchPath text path => do
      let (r, c) ← c.matchPath text path
      pure (.matched r, c)

def after (c : Caches) (calls : List Call) : Caches :=
  calls.foldl (fun c call => (c.call call).value.2) c

end Caches
end PathTemplate
