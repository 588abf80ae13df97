import PathTemplate.Yaml.Scalar

/-!
# Nodes — what a YAML document holds

- `Node`        : scalars, sequences, mappings, and aliases of other nodes
- `Node.marked?` : the node that an alias stands for
- `Node.weight` : how large a node is, an alias counting as one

Anchors are numbers.  A name used for two anchors has a number for each, and two names may come to
share one; an alias stands for the last node that has its number.
-/

namespace PathTemplate
namespace Yaml

structure Properties where
  tag : Option Text := none
  anchor : Option Nat := none
  deriving DecidableEq, Repr

inductive Node
  | scalar (p : Properties) (style : Style) (text : Text)
  | sequence (p : Properties) (items : List Node)
  | mapping (p : Properties) (pairs : List (Node × Node))
  /-- The node with an anchor. -/
  | aliasOf (anchor : Nat)

namespace Node

instance : Inhabited Node := ⟨.scalar {} .plain []⟩

/-- The node of a place where nothing stands. -/
def empty : Node := .scalar {} .plain []

/-- Whether a node is a plain scalar without text. -/
def isBlank : Node → Bool
  | scalar _ .plain [] => true
  | _ => false

def properties : Node → Properties
  | scalar p _ _ => p
  | sequence p _ => p
  | mapping p _ => p
  | aliasOf _ => {}

/-! ## Anchors -/

mutual

/-- The last node with an anchor in the order in which nodes begin. -/
def marked? (anchor : Nat) (n : Node) : Option Node :=
  (match n with
    | .sequence _ items => markedItem? anchor items
    | .mapping _ pairs => markedPair? anchor pairs
    | _ => none)
  <|> (if n.properties.anchor = some anchor then some n else none)

def markedItem? (anchor : Nat) : List Node → Option Node
  | [] => none
  | n :: ns => markedItem? anchor ns <|> marked? anchor n

def markedPair? (anchor : Nat) : List (Node × Node) → Option Node
  | [] => none
  | (k, v) :: more => markedPair? anchor more <|> marked? anchor v <|> marked? anchor k

end

/-! ## Size -/

mutual

/-- The number of scalars and aliases, and of beginnings and ends of collections. -/
def weight : Node → Nat
  | .sequence _ items => 2 + weightItems items
  | .mapping _ pairs => 2 + weightPairs pairs
  | _ => 1

def weightItems : List Node → Nat
  | [] => 0
  | n :: ns => n.weight + weightItems ns

def weightPairs : List (Node × Node) → Nat
  | [] => 0
  | (k, v) :: more => k.weight + v.weight + weightPairs more

end

end Node
end Yaml
end PathTemplate
