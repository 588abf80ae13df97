import PathTemplate.Yaml.Node
import PathTemplate.Yaml.Token

/-!
# Reading nodes from tokens

`Source.node` reads one node.  Where a node is left out, the token that comes in its place shows
it, and an empty plain scalar stands for it.

Each reader has a bound on its depth.  Three times the number of tokens is enough: after at most
three readers in a row a token is gone.
-/

namespace PathTemplate
namespace Yaml

structure Source where
  tokens : List Token
  /-- The number of each name, one entry for a name. -/
  anchors : List (Text × Nat) := []

namespace Source

def next (s : Source) : Source := { s with tokens := s.tokens.tail }

def isAt (s : Source) (ts : List Token) : Bool :=
  match s.tokens with
  | [] => false
  | t :: _ => ts.contains t

/-! ## Properties -/

abbrev Handles := List (Text × Text)

def defaultHandles : Handles :=
  [(['!'], ['!']), ("!!".toList, "tag:yaml.org,2002:".toList)]

/-- The tag that is meant.  A tag without a handle is written out. -/
def resolve (handles : Handles) (t : TagText) : Option Text :=
  if t.handle = [] then some t.suffix
  else (handles.lookup t.handle).map (· ++ t.suffix)

/-- A node with an anchor begins: its name gets as number how many names there were. -/
def mark (s : Source) (name : Text) : Nat × Source :=
  let number := s.anchors.length
  (number, { s with anchors := (name, number) :: s.anchors.filter fun a => a.1 != name })

/-- The properties before a node, in either order. -/
def properties (handles : Handles) (s : Source) : Option (Properties × Source) :=
  match s.tokens with
  | .anchor a :: .tag t :: _ | .tag t :: .anchor a :: _ => do
      let tag ← resolve handles t
      let (number, s) := s.mark a
      some ({ tag, anchor := number }, s.next.next)
  | .anchor a :: _ =>
      let (number, s) := s.mark a
      some ({ anchor := some number }, s.next)
  | .tag t :: _ => do
      let tag ← resolve handles t
      some ({ tag }, s.next)
  | _ => some ({}, s)

/-! ## Nodes -/

mutual

/-- A node.  Collections in block style may stand only where `inBlock` says so, and a sequence
without indentation of its own only where `indentless` does. -/
def node (handles : Handles) (inBlock indentless : Bool) : Nat → Source → Option (Node × Source)
  | 0, _ => none
  | fuel + 1, s =>
      match s.tokens with
      | .aliasOf name :: _ => do
          let number ← s.anchors.lookup name
          some (.aliasOf number, s.next)
      | _ => do
          let (p, s) ← properties handles s
          match s.tokens with
          | .scalar style text :: _ =>
              -- The tag `!` says nothing about a scalar.
              let p := if p.tag = some ['!'] then { p with tag := none } else p
              some (.scalar p style text, s.next)
          | .flowSequenceStart :: _ => do
              let (items, s) ← flowItems handles true fuel s.next
              some (.sequence p items, s)
          | .flowMappingStart :: _ => do
              let (pairs, s) ← flowPairs handles true fuel s.next
              some (.mapping p pairs, s)
          | t :: _ =>
              if indentless && t == .blockEntry then do
                let (items, s) ← indentlessItems handles fuel s
                some (.sequence p items, s)
              else if inBlock && t == .blockSequenceStart then do
                let (items, s) ← blockItems handles fuel s.next
                some (.sequence p items, s)
              else if inBlock && t == .blockMappingStart then do
                let (pairs, s) ← blockPairs handles fuel s.next
                some (.mapping p pairs, s)
              else bare p s
          | [] => bare p s
where
  /-- Properties without a node. -/
  bare (p : Properties) (s : Source) : Option (Node × Source) :=
    if p = {} then none else some (.scalar p .plain [], s)

/-- A node in a block, left out if one of `ends` comes. -/
def blockNode (handles : Handles) (indentless : Bool) (ends : List Token) :
    Nat → Source → Option (Node × Source)
  | 0, _ => none
  | fuel + 1, s =>
      if s.isAt ends then some (.empty, s) else node handles true indentless fuel s

def flowNode (handles : Handles) (ends : List Token) : Nat → Source → Option (Node × Source)
  | 0, _ => none
  | fuel + 1, s => if s.isAt ends then some (.empty, s) else node handles false false fuel s

def blockItems (handles : Handles) : Nat → Source → Option (List Node × Source)
  | 0, _ => none
  | fuel + 1, s =>
      match s.tokens with
      | .blockEntry :: _ => do
          let (n, s) ← blockNode handles false [.blockEntry, .blockEnd] fuel s.next
          let (ns, s) ← blockItems handles fuel s
          some (n :: ns, s)
      | .blockEnd :: _ => some ([], s.next)
      | _ => none

/-- The items of a sequence at the indentation of the mapping around it, which end where no dash
comes. -/
def indentlessItems (handles : Handles) : Nat → Source → Option (List Node × Source)
  | 0, _ => none
  | fuel + 1, s =>
      match s.tokens with
      | .blockEntry :: _ => do
          let (n, s) ← blockNode handles false [.blockEntry, .key, .value, .blockEnd] fuel s.next
          let (ns, s) ← indentlessItems handles fuel s
          some (n :: ns, s)
      | _ => some ([], s)

def blockPairs (handles : Handles) : Nat → Source → Option (List (Node × Node) × Source)
  | 0, _ => none
  | fuel + 1, s =>
      match s.tokens with
      | .key :: _ => do
          let (k, s) ← blockNode handles true [.key, .value, .blockEnd] fuel s.next
          let (v, s) ←
            if s.isAt [.value] then
              blockNode handles true [.key, .value, .blockEnd] fuel s.next
            else some (.empty, s)
          let (more, s) ← blockPairs handles fuel s
          some ((k, v) :: more, s)
      | .blockEnd :: _ => some ([], s.next)
      | _ => none

def flowItems (handles : Handles) (first : Bool) : Nat → Source → Option (List Node × Source)
  | 0, _ => none
  | fuel + 1, s => do
      if s.isAt [.flowSequenceEnd] then some ([], s.next)
      else if !first && !s.isAt [.flowEntry] then none
      else
        let s := if first then s else s.next
        if s.isAt [.flowSequenceEnd] then some ([], s.next)
        else
          let (n, s) ←
            if s.isAt [.key] then singlePair handles fuel s.next
            else node handles false false fuel s
          let (ns, s) ← flowItems handles false fuel s
          some (n :: ns, s)

/-- A mapping of one pair as the item of a flow sequence. -/
def singlePair (handles : Handles) : Nat → Source → Option (Node × Source)
  | 0, _ => none
  | fuel + 1, s => do
      let (k, s) ←
        -- The token that shows that the key is left out counts for nothing more.
        if s.isAt [.value, .flowEntry, .flowSequenceEnd] then some (.empty, s.next)
        else node handles false false fuel s
      let (v, s) ←
        if s.isAt [.value] then flowNode handles [.flowEntry, .flowSequenceEnd] fuel s.next
        else some (.empty, s)
      some (.mapping {} [(k, v)], s)

def flowPairs (handles : Handles) (first : Bool) :
    Nat → Source → Option (List (Node × Node) × Source)
  | 0, _ => none
  | fuel + 1, s => do
      if s.isAt [.flowMappingEnd] then some ([], s.next)
      else if !first && !s.isAt [.flowEntry] then none
      else
        let s := if first then s else s.next
        if s.isAt [.flowMappingEnd] then some ([], s.next)
        else if s.isAt [.key] then
          let (k, s) ← flowNode handles [.value, .flowEntry, .flowMappingEnd] fuel s.next
          let (v, s) ←
            if s.isAt [.value] then flowNode handles [.flowEntry, .flowMappingEnd] fuel s.next
            else some (.empty, s)
          let (more, s) ← flowPairs handles false fuel s
          some ((k, v) :: more, s)
        else
          -- A node without a colon behind it is a key without a value.
          let (k, s) ← node handles false false fuel s
          let (more, s) ← flowPairs handles false fuel s
          some ((k, .empty) :: more, s)

end

end Source
end Yaml
end PathTemplate
