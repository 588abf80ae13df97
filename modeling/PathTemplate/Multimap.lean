import PathTemplate.Text

/-!
# Multimap — names with lists of values

A `Multimap α` keeps its keys in the order in which they were first inserted and gives each of
them a list of values, which may be empty.

- `add`, `put`, `putSingle`, `remove` : changes at one key
- `get?`, `getFirst?`, `contains`, `keys`, `size` : what it holds
- `ofPairs`, `extend` : a pair after the other, each by `add`
-/

namespace PathTemplate

/-- Names with lists of values, in insertion order. -/
structure Multimap (α : Type) where
  entries : List (Text × List α)
  deriving DecidableEq, Repr

namespace Multimap

variable {α β : Type}

def empty : Multimap α := ⟨[]⟩

instance : Inhabited (Multimap α) := ⟨empty⟩

/-! ## Looking up -/

def get? (m : Multimap α) (key : Text) : Option (List α) :=
  (m.entries.find? fun e => e.1 == key).map (·.2)

def get (m : Multimap α) (key : Text) : List α := (m.get? key).getD []

def getFirst? (m : Multimap α) (key : Text) : Option α := (m.get key).head?

/-- Whether `key` is there, be it with an empty list. -/
def contains (m : Multimap α) (key : Text) : Bool := (m.get? key).isSome

def keys (m : Multimap α) : List Text := m.entries.map (·.1)

def size (m : Multimap α) : Nat := m.entries.length

def isEmpty (m : Multimap α) : Bool := m.entries.isEmpty

/-! ## Changing -/

/-- Replace the list of `key` by what `f` makes of it; a key that is not there yet comes last and
`f` gets the empty list. -/
def updateEntries (key : Text) (f : List α → List α) :
    List (Text × List α) → List (Text × List α)
  | [] => [(key, f [])]
  | (k, vs) :: rest => if k = key then (k, f vs) :: rest else (k, vs) :: updateEntries key f rest

def add (m : Multimap α) (key : Text) (v : α) : Multimap α :=
  ⟨updateEntries key (· ++ [v]) m.entries⟩

def put (m : Multimap α) (key : Text) (vs : List α) : Multimap α :=
  ⟨updateEntries key (fun _ => vs) m.entries⟩

def putSingle (m : Multimap α) (key : Text) (v : α) : Multimap α := m.put key [v]

def remove (m : Multimap α) (key : Text) : Multimap α :=
  ⟨m.entries.eraseP fun e => e.1 == key⟩

def extend (m : Multimap α) (pairs : List (Text × α)) : Multimap α :=
  pairs.foldl (fun m p => m.add p.1 p.2) m

def ofPairs (pairs : List (Text × α)) : Multimap α := empty.extend pairs

def mapValues (f : α → β) (m : Multimap α) : Multimap β :=
  ⟨m.entries.map fun (k, vs) => (k, vs.map f)⟩

end Multimap
end PathTemplate
