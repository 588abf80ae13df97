import PathTemplate.Yaml.Layout
import PathTemplate.Yaml.Node.Reader

/-!
# Documents — YAML texts that hold one document

- `Document`         : the node that a text holds, if it holds one
- `Document.ofText?` : read a text
- `Document.follow?` : the node that an alias stands for
-/

namespace PathTemplate
namespace Yaml

/-- What a YAML text holds; a text without a document holds no node. -/
structure Document where
  root : Option Node

namespace Document

/-- The directives before a document, and the tokens behind them. -/
def directives (versioned : Bool) (handles : Source.Handles) :
    List Token → Option (Source.Handles × List Token)
  | .directive (.version major minor) :: ts =>
      -- The version may be given once.
      if versioned || major ≠ 1 || (minor ≠ 1 && minor ≠ 2) then none
      else directives true handles ts
  | .directive (.tag handle base) :: ts =>
      if (handles.lookup handle).isSome then none
      else directives versioned ((handle, base) :: handles) ts
  | ts => some (handles ++ Source.defaultHandles, ts)

def isOutside : Token → Bool
  | .directive _ | .documentStart | .documentEnd => true
  | _ => false

def content (handles : Source.Handles) (ts : List Token) : Option (Node × List Token) := do
  let (n, s) ← Source.node handles true false (3 * ts.length + 3) { tokens := ts }
  some (n, s.tokens)

/-- The root of the only document, and the tokens behind it. -/
def start : List Token → Option (Node × List Token)
  | [] => none
  | t :: ts =>
      match t with
      | .directive _ | .documentStart =>
          match directives false [] (t :: ts) with
          | some (handles, .documentStart :: ts) =>
              match ts with
              | [] => some (.empty, [])
              | t :: _ => if isOutside t then some (.empty, ts) else content handles ts
          | _ => none
      | _ => content Source.defaultHandles (t :: ts)

/-- The document of a token list.  Behind it there may be marks of its end and nothing else. -/
def ofTokens? (ts : List Token) : Option Document :=
  if ts = [] then some { root := none }
  else
    match start ts with
    | some (n, rest) =>
        if rest.all (· == .documentEnd) then some { root := some n } else none
    | none => none

def ofText? (t : Text) : Option Document := (Token.ofText? t).bind ofTokens?

/-- The node that an alias stands for; any other node stands for itself. -/
def follow? (d : Document) : Node → Option Node
  | .aliasOf anchor => d.root.bind (Node.marked? anchor)
  | n => some n

end Document
end Yaml
end PathTemplate
