import PathTemplate.Text

/-!
# DotSegments — the segments `.` and `..`

`normalize` resolves dot segments and strips one leading slash.  A template is normalized before
it is compiled, unless its options say otherwise.

- `DotSegments.push`    : one segment on the stack of the segments that stay
- `DotSegments.resolve` : all segments of a path, with a final dot segment as a directory
- `DotSegments.remove`  : the path without its dot segments
-/

namespace PathTemplate
namespace DotSegments

def dot : Text := ['.']

def dotDot : Text := ['.', '.']

def isDots (s : Text) : Bool := s == dot || s == dotDot

/-- Put one segment on the stack, whose top is the last segment so far. -/
def push (absolute : Bool) (stack : List Text) (s : Text) : List Text :=
  if s = dot then stack
  else if s = dotDot then
    match stack with
    -- There is nothing above the root, but there may be above a relative path.
    | [] => if absolute then [] else [dotDot]
    | top :: below =>
        -- A `..` that stays is no parent to be taken away.
        if top ≠ dotDot then below
        else if absolute then stack else dotDot :: stack
  else s :: stack

/-- The segments without dot segments. -/
def resolve (absolute : Bool) (segments : List Text) : List Text :=
  let stack := segments.foldl (push absolute) []
  -- A final dot segment denotes a directory, so that an empty segment comes last.
  (if segments.getLast?.any isDots then [] :: stack else stack).reverse

/-- The path without its dot segments.  A path that has none stays as it is. -/
def remove (uri : Text) : Text :=
  if (uri.split '/').any isDots then
    match uri with
    | '/' :: rest => '/' :: Text.join ['/'] (resolve true (Text.split '/' rest))
    | _ => Text.join ['/'] (resolve false (uri.split '/'))
  else uri

end DotSegments

/-- The form of a template or path that is compiled: no dot segments, and one leading slash
stripped. -/
def normalize (uri : Text) : Text := Text.dropLeading '/' (DotSegments.remove uri)

end PathTemplate
