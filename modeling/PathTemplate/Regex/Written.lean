import PathTemplate.Regex.Reader

/-!
# Written — texts of regular expressions

- `Pattern.escape` : the text that denotes a literal text
- `inGroup`        : a recorded group
- `inParens`       : a group that is not recorded
-/

namespace PathTemplate

def Pattern.escape (t : Text) : Text :=
  t.flatMap fun c => if RegexReader.metaChars.contains c then ['\\', c] else [c]

/-- A recorded group. -/
def inGroup (t : Text) : Text := '(' :: (t ++ [')'])

/-- A group that is not recorded. -/
def inParens (t : Text) : Text := "(?:".toList ++ t ++ [')']

end PathTemplate
