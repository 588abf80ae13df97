import PathTemplate.Multimap

/-!
# Segment — one piece of a path

The segment `cars;color=red;used` has the path text `cars` and the matrix parameters `color` with
value `red` and `used` with the empty value.

- `Segment.parse` : a segment with its matrix parameters split off
- `Segment.plain` : a segment that is all path text
- `splitPath`     : the segments of a path
-/

namespace PathTemplate

/-- A piece of a path between slashes. -/
structure Segment where
  /-- The text before the first semicolon. -/
  path : Text
  /-- The parameters after it. -/
  matrix : Multimap Text
  /-- The octets of the segment as written, matrix parameters included. -/
  rawLength : Nat
  deriving DecidableEq, Repr

namespace Segment

/-- A segment without matrix parameters; semicolons belong to its path text. -/
def plain (t : Text) : Segment := ⟨t, .empty, t.byteLength⟩

/-- The name and value of a matrix parameter.  Without `=` the value is empty. -/
def parameter (t : Text) : Text × Text := (t.splitOnce '=').getD (t, [])

def parse (raw : Text) : Segment :=
  let pieces := raw.split ';'
  { path := pieces.headD []
    -- Semicolons in a row have no parameter between them.
    matrix := .ofPairs ((pieces.tail.filter (· ≠ [])).map parameter)
    rawLength := raw.byteLength }

end Segment

/-- The segments of a path, less one leading slash. -/
def splitPath (path : Text) : List Segment :=
  ((path.dropLeading '/').split '/').map Segment.parse

end PathTemplate
