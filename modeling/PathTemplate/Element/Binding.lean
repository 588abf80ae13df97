import PathTemplate.Element
import PathTemplate.Multimap

/-!
# What a captured text binds

- `Bindings`     : for each name its values in a match, and where each of them starts
- `Element.bind` : record what the text of an element's group says about its names

A name without a text has the value `none`, which is not the empty text.
-/

namespace PathTemplate

/-- Values, and the octet offsets at which they start.  Both maps have the same names. -/
structure Bindings where
  values : Multimap (Option Text)
  starts : Multimap (Option Nat)
  deriving DecidableEq, Repr

namespace Bindings

def empty : Bindings := ⟨.empty, .empty⟩

def add (b : Bindings) (name : Text) (value : Option Text) (start : Option Nat) : Bindings :=
  ⟨b.values.add name value, b.starts.add name start⟩

def putSingle (b : Bindings) (name : Text) (value : Option Text) (start : Option Nat) :
    Bindings :=
  ⟨b.values.putSingle name value, b.starts.putSingle name start⟩

/-- Replace the values of a name by pieces of one text, all with the start of that text. -/
def putPieces (b : Bindings) (name : Text) (pieces : List Text) (start : Option Nat) : Bindings :=
  ⟨b.values.put name (pieces.map some), b.starts.put name (pieces.map fun _ => start)⟩

end Bindings

/-- The text of a group and its octet offset; nothing if the group took no part. -/
abbrev Capture := Option (Text × Nat)

namespace Operator

/-- The name and value of each piece of a join. -/
def pairsOf (o : Operator) (text : Text) : List (Text × Text) :=
  if text = [] then []
  else (Text.splitBy o.arg text).map fun piece => (Text.splitOnce '=' piece).getD (piece, [])

/-- The value of a name among pairs; the last pair counts. -/
def valueAmong (pairs : List (Text × Text)) (name : Text) : Option Text :=
  (pairs.reverse.find? fun p => p.1 == name).map (·.2)

def bind (o : Operator) (capture : Capture) (b : Bindings) : Bindings :=
  let text := (capture.map (·.1)).getD []
  let start := capture.map (·.2)
  let name := o.first.1
  match o.kind with
  -- Whether the argument stands there says nothing about the values.
  | .negate | .option => b
  | .before =>
      if text = [] then b.putSingle name none start
      -- Nothing stands in front of the first argument.
      else b.putPieces name (Text.splitBy o.arg text).tail start
  | .after =>
      if text = [] then b.putSingle name none start
      -- What stands behind the last argument is dropped, whatever it is.
      else b.putPieces name (Text.splitBy o.arg text).dropLast start
  | .list =>
      -- No text at all is one empty value, since values need no argument around them.
      if text = [] then b.putSingle name (some []) start
      else b.putPieces name (Text.splitBy o.arg text) start
  | .join =>
      let pairs := o.pairsOf text
      o.names.foldl (fun b name => b.putSingle name (valueAmong pairs name) start) b

end Operator

/-- Record what the text of an element's group says. -/
def Element.bind (capture : Capture) (b : Bindings) : Element → Bindings
  | .literal _ => b
  | .variable v => b.add v.name (capture.map (·.1)) (capture.map (·.2))
  | .operator o => o.bind capture b

end PathTemplate
