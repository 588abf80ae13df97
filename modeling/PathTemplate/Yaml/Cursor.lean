import PathTemplate.Text

/-!
# Cursor — a place in a YAML text

- `Cursor`            : the text that is left, with its line, column and index
- `Cursor.skip`       : move over characters of the same line
- `Cursor.crossBreak` : move over one line break, which reads as one character

Lines end at a line feed, a carriage return, both in this order, U+0085, U+2028 and U+2029.
-/

namespace PathTemplate
namespace Yaml

/-! ## Characters -/

def isBreak (c : Char) : Bool :=
  c == '\n' || c == '\r' || c == '\u0085' || c == '\u2028' || c == '\u2029'

def isBlank (c : Char) : Bool := c == ' ' || c == '\t'

/-- The characters of anchors, tag handles and directive names. -/
def isNameChar (c : Char) : Bool := c.isAlphanum || c == '_' || c == '-'

def isPrintable (c : Char) : Bool :=
  c == '\t' || c == '\n' || c == '\r' || (' ' ≤ c && c ≤ '~') || c == '\u0085'
    || ('\u00a0' ≤ c && c ≤ '\ufffd') || 0x10000 ≤ c.toNat

/-- Whether a text is over or goes on with a blank or a line break. -/
def endsWord : Text → Bool
  | [] => true
  | c :: _ => isBlank c || isBreak c

def startsWithOneOf (cs : String) : Text → Bool
  | [] => false
  | c :: _ => cs.toList.contains c

/-! ## Cursors -/

/-- A place in a text: what is left of it, and where that begins. -/
structure Cursor where
  rest : Text
  line : Nat := 0
  column : Nat := 0
  index : Nat := 0
  deriving DecidableEq, Repr

namespace Cursor

def skip (c : Cursor) (n : Nat) : Cursor :=
  { c with rest := c.rest.drop n, column := c.column + n, index := c.index + n }

/-- The characters up to the first that is not accepted, none of them a line break, and the place
behind them. -/
def span (accept : Char → Bool) (c : Cursor) : Text × Cursor :=
  let read := c.rest.takeWhile accept
  (read, c.skip read.length)

def skipBlanks (c : Cursor) : Cursor := (c.span isBlank).2

def skipLine (c : Cursor) : Cursor := (c.span fun d => !isBreak d).2

/-- Move over a comment, if one begins here. -/
def skipComment (c : Cursor) : Cursor :=
  if c.rest.head? = some '#' then c.skipLine else c

def atLineEnd (c : Cursor) : Bool :=
  match c.rest with
  | [] => true
  | d :: _ => isBreak d

/-- The start of the next line, `n` characters further. -/
def newLine (c : Cursor) (n : Nat) : Cursor :=
  { rest := c.rest.drop n, line := c.line + 1, column := 0, index := c.index + n }

/-- The character that a line break reads as, and the start of the next line.  The two separators
of U+2028 and U+2029 stay, every other break is a line feed. -/
def crossBreak (c : Cursor) : Option (Char × Cursor) :=
  match c.rest with
  | [] => none
  | '\r' :: '\n' :: _ => some ('\n', c.newLine 2)
  | d :: _ =>
      if !isBreak d then none
      else some (if d = '\u2028' ∨ d = '\u2029' then d else '\n', c.newLine 1)

/-- Whether a line begins here that starts a document (`---`) or ends one (`...`). -/
def atMarker (c : Cursor) : Bool :=
  c.column == 0
    && ("---".toList.isPrefixOf c.rest || "...".toList.isPrefixOf c.rest)
    && endsWord (c.rest.drop 3)

/-! ### What is left gets shorter -/

theorem length_skip (c : Cursor) (n : Nat) : (c.skip n).rest.length = c.rest.length - n := by
  simp [skip]

theorem length_skip_le (c : Cursor) (n : Nat) : (c.skip n).rest.length ≤ c.rest.length := by
  rw [length_skip]
  exact Nat.sub_le _ _

theorem length_span_le (accept : Char → Bool) (c : Cursor) :
    (c.span accept).2.rest.length ≤ c.rest.length :=
  length_skip_le c _

theorem length_skipComment_le (c : Cursor) : c.skipComment.rest.length ≤ c.rest.length := by
  simp only [skipComment]
  split
  · exact length_span_le _ c
  · exact Nat.le_refl _

theorem length_crossBreak {c c' : Cursor} {d : Char} (h : c.crossBreak = some (d, c')) :
    c'.rest.length < c.rest.length := by
  simp only [crossBreak] at h
  split at h
  · cases h
  · case _ hr =>
      cases h
      simp only [newLine, hr, List.length_drop, List.length_cons]
      omega
  · case _ hr =>
      split at h
      · cases h
      · cases h
        simp only [newLine, hr, List.length_drop, List.length_cons]
        omega

end Cursor

end Yaml
end PathTemplate
