import PathTemplate.Percent
import PathTemplate.Yaml.Spacing

/-!
# Scalars — the text of a YAML scalar in each of its five styles

- `Scalar.plain`  : words without quotes
- `Scalar.quoted` : text in single or double quotes
- `Scalar.block`  : the indented lines after `|` or `>`

Each reader starts behind what shows the style, and gives the text and the place behind the scalar.
The margin is the least column at which the lines of a scalar in a block may begin.
-/

namespace PathTemplate
namespace Yaml

inductive Style
  | plain
  | singleQuoted
  | doubleQuoted
  /-- Lines after `|`, kept as they are. -/
  | literal
  /-- Lines after `>`, joined by spaces. -/
  | folded
  deriving DecidableEq, Repr

namespace Scalar

/-! ## Plain scalars -/

/-- The characters of a plain scalar up to a blank, the end of the line or a character that ends
the scalar. -/
def plainWord (flow : Bool) : Text → Option Text
  | [] => some []
  | c :: t =>
      if isBlank c || isBreak c then some []
      -- In a flow collection such a colon is refused, though it might be part of a word.
      else if flow && c == ':' && startsWithOneOf ",?[]\x7b\x7d" t then none
      else if (c == ':' && endsWord t) || (flow && ",[]\x7b\x7d".toList.contains c) then some []
      else (plainWord flow t).map (c :: ·)

/-- The rest of a plain scalar.  `spacing` is what stands before the next word, which counts only if
there is such a word, and `broken` tells whether it goes over the end of a line. -/
def plainFrom (flow : Bool) (margin : Nat) (spacing : Text) (broken : Bool) (c : Cursor) :
    Option (Text × Bool × Cursor) :=
  if c.atMarker || c.rest.head? = some '#' then some ([], broken, c)
  else
    match _hw : plainWord flow c.rest with
    | none => none
    | some [] => some ([], broken, c)
    | some (d :: word) =>
        let c' := c.skip (d :: word).length
        match _hg : Spacing.ofCursor? margin c' with
        | none => none
        | some next =>
            if next.isEmpty then some (spacing ++ d :: word, false, c')
            else if !flow && next.cursor.column < margin then
              some (spacing ++ d :: word, next.isBroken, next.cursor)
            else
              (plainFrom flow margin next.text next.isBroken next.cursor).map
                fun (text, broken, c) => (spacing ++ d :: word ++ text, broken, c)
termination_by c.rest.length
decreasing_by
  refine Nat.lt_of_le_of_lt (Spacing.length_ofCursor?_le _hg) ?_
  cases hr : c.rest with
  | nil => simp [hr, plainWord] at _hw
  | cons e t =>
      simp only [c', Cursor.length_skip, hr, List.length_cons]
      omega

/-- A plain scalar: its text, and whether the place behind it is on a new line. -/
def plain (flow : Bool) (margin : Nat) (c : Cursor) : Option (Text × Bool × Cursor) :=
  plainFrom flow margin [] false c

/-! ## Quoted scalars -/

/-- The character with a hexadecimal number of `n` digits, and how many characters spell it after
the backslash. -/
def escapedNumber (n : Nat) (t : Text) : Option (Char × Nat) :=
  let digits := t.take n
  if digits.length ≠ n then none
  else do
    let value ← digits.foldlM (fun v d => (Percent.hexValue? d.toNat).map (16 * v + ·)) 0
    if value.isValidChar then some (Char.ofNat value, n + 1) else none

/-- The character that an escape in double quotes means, and how many characters spell it after
the backslash. -/
def escaped : Text → Option (Char × Nat)
  | [] => none
  | c :: t =>
      match c with
      | '0' => some ('\x00', 1)
      | 'a' => some ('\x07', 1)
      | 'b' => some ('\x08', 1)
      | 't' | '\t' => some ('\t', 1)
      | 'n' => some ('\n', 1)
      | 'v' => some ('\x0b', 1)
      | 'f' => some ('\x0c', 1)
      | 'r' => some ('\r', 1)
      | 'e' => some ('\x1b', 1)
      | 'N' => some ('\u0085', 1)
      | '_' => some ('\u00a0', 1)
      | 'L' => some ('\u2028', 1)
      | 'P' => some ('\u2029', 1)
      | 'x' => escapedNumber 2 t
      | 'u' => escapedNumber 4 t
      | 'U' => escapedNumber 8 t
      | ' ' | '"' | '/' | '\\' => some (c, 1)
      | _ => none

/-- One piece of a quoted scalar: the text it reads as, and the place behind it; or the place behind
the closing quote. -/
inductive Piece
  | text (t : Text) (c : Cursor)
  | close (c : Cursor)

def Piece.ofSpacing (g : Spacing) : Piece := .text g.text g.cursor

/-- The piece that begins with a backslash in double quotes: an escaped line break with the spacing
behind it, or an escaped character. -/
def escapedPiece (c : Cursor) : Option Piece :=
  match (c.skip 1).crossBreak with
  | some (_, next) => (Spacing.extend 0 { breaks := [[]], cursor := next }).map .ofSpacing
  | none => (escaped (c.skip 1).rest).map fun (e, n) => .text [e] (c.skip (n + 1))

/-- The piece at a place: the closing quote, spacing, an escape or a single character. -/
def quotedPiece (style : Style) (c : Cursor) : Option Piece :=
  -- A line that starts or ends a document cannot be part of the scalar.
  if c.atMarker then none
  else
    match c.rest with
    | [] => none
    | d :: t =>
        if isBlank d || isBreak d then (Spacing.ofCursor? 0 c).map .ofSpacing
        else if style = .singleQuoted then
          if d ≠ '\'' then some (.text [d] (c.skip 1))
          -- Two quotes in a row stand for one.
          else if t.head? = some '\'' then some (.text [d] (c.skip 2))
          else some (.close (c.skip 1))
        else if d = '"' then some (.close (c.skip 1))
        else if d = '\\' then escapedPiece c
        else some (.text [d] (c.skip 1))

theorem length_escapedPiece {c c' : Cursor} {t : Text} (h : escapedPiece c = some (.text t c'))
    (hc : c.rest ≠ []) : c'.rest.length < c.rest.length := by
  have hpos : 0 < c.rest.length := List.length_pos_iff.mpr hc
  simp only [escapedPiece] at h
  split at h
  · case _ hb =>
      obtain ⟨g, hg, he⟩ := Option.map_eq_some_iff.mp h
      cases he
      exact Nat.lt_of_le_of_lt (Spacing.length_extend_le hg)
        (Nat.lt_of_lt_of_le (Cursor.length_crossBreak hb) (Cursor.length_skip_le _ _))
  · obtain ⟨e, _, he⟩ := Option.map_eq_some_iff.mp h
    cases he
    rw [Cursor.length_skip]
    omega

theorem length_quotedPiece {style : Style} {c c' : Cursor} {t : Text}
    (h : quotedPiece style c = some (.text t c')) : c'.rest.length < c.rest.length := by
  simp only [quotedPiece] at h
  split at h
  · cases h
  · split at h
    · cases h
    · case _ d r hr =>
        have hpos : 0 < c.rest.length := by simp [hr]
        have hskip (n : Nat) (hn : 0 < n) : (c.skip n).rest.length < c.rest.length := by
          rw [Cursor.length_skip]
          omega
        split at h
        · case _ hd =>
            obtain ⟨g, hg, he⟩ := Option.map_eq_some_iff.mp h
            cases he
            exact Spacing.length_ofCursor?_lt hr hd hg
        · repeat' split at h
          all_goals first
            | exact length_escapedPiece h (by simp [hr])
            | (cases h; exact hskip _ (by decide))
            | cases h

def quoted (style : Style) (c : Cursor) : Option (Text × Cursor) :=
  match _h : quotedPiece style c with
  | none => none
  | some (.close c) => some ([], c)
  | some (.text t c) => (quoted style c).map fun (more, c) => (t ++ more, c)
termination_by c.rest.length
decreasing_by exact length_quotedPiece _h

/-! ## Block scalars -/

inductive Chomp
  /-- None stays. -/
  | strip
  /-- One stays. -/
  | clip
  /-- All stay. -/
  | keep
  deriving DecidableEq, Repr

def chompIndicator (c : Cursor) : Option Chomp × Cursor :=
  match c.rest with
  | '+' :: _ => (some .keep, c.skip 1)
  | '-' :: _ => (some .strip, c.skip 1)
  | _ => (none, c)

/-- The indentation indicator at a place, a digit that is not zero; 0 if there is none. -/
def indentIndicator (c : Cursor) : Option (Nat × Cursor) :=
  match c.rest with
  | d :: _ =>
      if d = '0' then none
      else if d.isDigit then some (d.toNat - '0'.toNat, c.skip 1)
      else some (0, c)
  | [] => some (0, c)

/-- The line of the indicators: both may stand in either order, with a comment behind them. -/
def blockHeader (c : Cursor) : Option (Chomp × Nat × Cursor) := do
  let (first, c) := chompIndicator c
  let (indent, c) ← indentIndicator c
  let (second, c) := if first.isNone && indent ≠ 0 then chompIndicator c else (none, c)
  let c := c.skipBlanks.skipComment
  if !c.atLineEnd then none
  else
    let c := (c.crossBreak.map (·.2)).getD c
    some ((first <|> second).getD .clip, indent, c)

/-- Go over spaces, up to the column `indent` unless that is 0. -/
def skipIndent (indent : Nat) (c : Cursor) : Cursor :=
  let spaces := (c.rest.takeWhile (· == ' ')).length
  c.skip (if indent = 0 then spaces else min spaces (indent - c.column))

/-- Empty lines, and the indentation of the line behind them.  Gives the breaks of the empty lines,
the widest indentation seen, and the place. -/
def emptyLines (indent widest : Nat) (c : Cursor) : Option (Text × Nat × Cursor) :=
  let c' := skipIndent indent c
  let widest := max widest c'.column
  -- A tab does not count for indentation.
  if (indent = 0 ∨ c'.column < indent) ∧ c'.rest.head? = some '\t' then none
  else
    match _h : c'.crossBreak with
    | none => some ([], widest, c')
    | some (d, next) =>
        (emptyLines indent widest next).map fun (more, widest, c) => (d :: more, widest, c)
termination_by c.rest.length
decreasing_by
  exact Nat.lt_of_lt_of_le (Cursor.length_crossBreak _h) (Cursor.length_skip_le _ _)

theorem length_emptyLines_le {indent widest w : Nat} {c c' : Cursor} {t : Text}
    (h : emptyLines indent widest c = some (t, w, c')) : c'.rest.length ≤ c.rest.length := by
  obtain ⟨n, hn⟩ : ∃ n, c.rest.length = n := ⟨_, rfl⟩
  induction n using Nat.strongRecOn generalizing widest c t w with
  | ind n ih =>
      rw [emptyLines] at h
      split at h
      · cases h
      · split at h
        · cases h
          exact Cursor.length_skip_le _ _
        · case _ hb =>
            obtain ⟨⟨more, w, e⟩, he, hh⟩ := Option.map_eq_some_iff.mp h
            cases hh
            have hlt := Nat.lt_of_lt_of_le (Cursor.length_crossBreak hb) (Cursor.length_skip_le _ _)
            exact Nat.le_trans (ih _ (hn ▸ hlt) he rfl) (Nat.le_of_lt hlt)

/-- What the break between two lines reads as, with the breaks of the empty lines behind it.  In a
folded scalar a line feed between two lines that do not begin with a blank is a space, or nothing
before empty lines. -/
def joint (style : Style) (lineBreak empties : Text) (blankAround : Bool) : Text :=
  if style = .folded ∧ lineBreak = ['\n'] ∧ !blankAround then
    if empties = [] then [' '] else empties
  else lineBreak ++ empties

def chomped (chomp : Chomp) (lineBreak empties : Text) : Text :=
  match chomp with
  | .strip => []
  | .clip => lineBreak
  | .keep => lineBreak ++ empties

/-- The rest of a block scalar.  `lineBreak` is the break of the line before, `empties` are those of
the empty lines behind it, and `blank` tells whether that line began with a blank. -/
def blockFrom (style : Style) (chomp : Chomp) (indent : Nat) (lineBreak empties : Text)
    (blank : Bool) (c : Cursor) : Option (Text × Cursor) :=
  match c.rest.head? with
  | none => some (chomped chomp lineBreak empties, c)
  | some d =>
      if c.column ≠ indent then some (chomped chomp lineBreak empties, c)
      else
        let before := joint style lineBreak empties (blank || isBlank d)
        let line := c.span fun e => !isBreak e
        match _hb : line.2.crossBreak with
        | none => some (before ++ line.1, line.2)
        | some (e, next) =>
            match _he : emptyLines indent 0 next with
            | none => none
            | some (empties, _, c') =>
                (blockFrom style chomp indent [e] empties (isBlank d) c').map
                  fun (text, c) => (before ++ line.1 ++ text, c)
termination_by c.rest.length
decreasing_by
  exact Nat.lt_of_le_of_lt (length_emptyLines_le _he)
    (Nat.lt_of_lt_of_le (Cursor.length_crossBreak _hb) (Cursor.length_span_le _ _))

def block (style : Style) (margin : Nat) (c : Cursor) : Option (Text × Cursor) := do
  let (chomp, given, c) ← blockHeader c
  let fixed := if given = 0 then 0 else margin - 1 + given
  let (empties, widest, c) ← emptyLines fixed 0 c
  -- Without an indicator, the widest leading empty line or the first line gives the indentation.
  let indent := if fixed = 0 then max widest (max margin 1) else fixed
  blockFrom style chomp indent [] empties false c

end Scalar
end Yaml
end PathTemplate
