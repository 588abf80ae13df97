import PathTemplate.Yaml.Token

/-!
# Layout — the tokens of a YAML text

- `Layout`        : what is known at a place: the tokens so far, the open blocks, a possible key
- `Layout.token`  : read the next token
- `Token.ofText?` : all tokens of a text

Indentation opens and closes blocks.  A block with its entries at column `n` has the margin
`n + 1`, and 0 is the margin outside of all blocks.  Whether a token is a key shows only at the
colon behind it, so the last place where a key may have begun is kept, one for each open flow
collection and one for the block around them.
-/

namespace PathTemplate
namespace Yaml

/-- A place where a key may have begun. -/
structure KeyStart where
  /-- The number of tokens before it. -/
  count : Nat
  line : Nat
  column : Nat
  index : Nat
  /-- Whether nothing but a key can stand there. -/
  required : Bool
  deriving DecidableEq, Repr

structure Layout where
  cursor : Cursor
  /-- The tokens so far, the latest first. -/
  tokens : List Token := []
  count : Nat := 0
  /-- The margin of the innermost open block. -/
  margin : Nat := 0
  /-- The margins of the blocks around it, innermost first. -/
  margins : List Nat := []
  keyStart : Option KeyStart := none
  /-- The possible keys around the innermost open flow collection, one for each. -/
  outerKeys : List (Option KeyStart) := []
  /-- Whether a key may begin at this place. -/
  keyAllowed : Bool := true
  deriving Repr

namespace Layout

def inFlow (s : Layout) : Bool := !s.outerKeys.isEmpty

def emit (s : Layout) (t : Token) : Layout :=
  { s with tokens := t :: s.tokens, count := s.count + 1 }

def insert (s : Layout) (n : Nat) (t : Token) : Layout :=
  let later := s.count - n
  { s with tokens := s.tokens.take later ++ t :: s.tokens.drop later, count := s.count + 1 }

def skip (s : Layout) (n : Nat) : Layout := { s with cursor := s.cursor.skip n }

def allowKey (s : Layout) (allowed : Bool) : Layout := { s with keyAllowed := allowed }

/-! ## Possible keys -/

/-- Forget the possible key, unless it is required. -/
def dropKey (s : Layout) : Option Layout :=
  match s.keyStart with
  | some k => if k.required then none else some { s with keyStart := none }
  | none => some s

/-- Remember that a key may begin here, if one may. -/
def saveKey (s : Layout) : Option Layout :=
  if !s.keyAllowed then some s
  else do
    let s ← s.dropKey
    let c := s.cursor
    -- At the column of the entries of a block, nothing else than a key can go on with it.
    let required := !s.inFlow && s.margin == c.column + 1
    some { s with keyStart := some ⟨s.count, c.line, c.column, c.index, required⟩ }

/-- The possible key that a colon here would end.  It is on the same line and not more than 1024
characters long; to be required and something else is an error. -/
def liveKey (s : Layout) : Option (Option KeyStart) :=
  match s.keyStart with
  | none => some none
  | some k =>
      if k.line < s.cursor.line ∨ k.index + 1024 < s.cursor.index then
        if k.required then none else some none
      else some (some k)

/-! ## Blocks -/

/-- Open a block with its entries at `column`, if that is further in than the innermost open one.
Its token comes behind the first `n`. -/
def openBlock (s : Layout) (n column : Nat) (t : Token) : Layout :=
  if s.inFlow || column + 1 ≤ s.margin then s
  else { s.insert n t with margins := s.margin :: s.margins, margin := column + 1 }

def closeBlocksAbove (limit : Nat) (s : Layout) : Layout :=
  if s.inFlow then s else go s s.margins
where
  go (s : Layout) : List Nat → Layout
    | [] => s
    | outer :: more =>
        if s.margin ≤ limit then s
        else go { s.emit .blockEnd with margin := outer, margins := more } more

/-! ## Tokens -/

/-- Go over the blanks of a line and a comment behind them, and over a byte order mark at its
start. -/
def afterBlanks (s : Layout) : Cursor :=
  -- A tab does not count for indentation, so it is no blank where a key may begin.
  let tabs := s.inFlow || !s.keyAllowed
  let c := s.cursor
  let c := c.skip (if c.column = 0 ∧ c.rest.head? = some '\ufeff' then 1 else 0)
  (c.span fun d => d == ' ' || (tabs && d == '\t')).2.skipComment

theorem length_afterBlanks_le (s : Layout) :
    s.afterBlanks.rest.length ≤ s.cursor.rest.length :=
  Nat.le_trans (Cursor.length_skipComment_le _)
    (Nat.le_trans (Cursor.length_span_le _ _) (Cursor.length_skip_le _ _))

/-- Go over blanks, comments and line breaks. -/
def skipSpace (s : Layout) : Layout :=
  match _h : s.afterBlanks.crossBreak with
  -- Behind a line break in a block a key may begin.
  | some (_, c) => skipSpace { s with cursor := c, keyAllowed := s.keyAllowed || !s.inFlow }
  | none => { s with cursor := s.afterBlanks }
termination_by s.cursor.rest.length
decreasing_by
  exact Nat.lt_of_lt_of_le (Cursor.length_crossBreak _h) s.length_afterBlanks_le

/-- A line that is about documents: all blocks end, and no key begins. -/
def endBlocks (s : Layout) : Option Layout := do
  let s ← (s.closeBlocksAbove 0).dropKey
  some (s.allowKey false)

/-- A token that may begin a key, with the place behind it. -/
def content (s : Layout) (read : Cursor → Option (Token × Cursor)) : Option Layout := do
  let s ← s.saveKey
  let (t, c) ← read s.cursor
  some { (s.allowKey false).emit t with cursor := c }

def openFlow (s : Layout) (t : Token) : Option Layout := do
  let s ← s.saveKey
  some { (s.allowKey true).emit t with
    cursor := s.cursor.skip 1, outerKeys := s.keyStart :: s.outerKeys, keyStart := none }

def closeFlow (s : Layout) (t : Token) : Option Layout := do
  let s ← s.dropKey
  let s := ((s.allowKey false).emit t).skip 1
  match s.outerKeys with
  | [] => some s
  | k :: more => some { s with keyStart := k, outerKeys := more }

def flowEntry (s : Layout) : Option Layout := do
  let s ← s.dropKey
  some (((s.allowKey true).emit .flowEntry).skip 1)

/-- An indicator that stands before an entry of a block, which it may open. -/
def entry (s : Layout) (start t : Token) (keyAfter : Bool) : Option Layout := do
  if !s.inFlow && !s.keyAllowed then none
  else
    let s ← (s.openBlock s.count s.cursor.column start).dropKey
    some (((s.allowKey keyAfter).emit t).skip 1)

/-- The colon behind a key. -/
def value (s : Layout) : Option Layout := do
  match ← s.liveKey with
  | some k =>
      -- Only now is it known that a key has begun before, and maybe a mapping with it.
      let s := (s.insert k.count .key).openBlock k.count k.column .blockMappingStart
      some ((({ s with keyStart := none }.allowKey false).emit .value).skip 1)
  | none =>
      if !s.inFlow && !s.keyAllowed then none
      else
        let s := s.openBlock s.count s.cursor.column .blockMappingStart
        some (((({ s with keyStart := none }).allowKey !s.inFlow).emit .value).skip 1)

def blockScalar (s : Layout) (style : Style) : Option Layout := do
  let s ← s.dropKey
  let (text, c) ← Scalar.block style s.margin (s.cursor.skip 1)
  some { (s.allowKey true).emit (.scalar style text) with cursor := c }

def quotedScalar (s : Layout) (style : Style) : Option Layout :=
  s.content fun c => do
    let (text, c) ← Scalar.quoted style (c.skip 1)
    some (.scalar style text, c)

def plainScalar (s : Layout) : Option Layout := do
  let s ← s.saveKey
  let (text, newLine, c) ← Scalar.plain s.inFlow s.margin s.cursor
  -- The scalar may have been read up to the start of a line, where a key may begin.
  some { (s.allowKey newLine).emit (.scalar .plain text) with cursor := c }

/-- Whether a plain scalar may begin with `c`, when `t` comes behind it. -/
def startsPlain (flow : Bool) (c : Char) (t : Text) : Bool :=
  !("-?:,[]\x7b\x7d#&*!|>'\"%@\x60 \t".toList.contains c || isBreak c)
    || (c == '-' && !startsWithOneOf " \t" t)
    || (!flow && (c == '?' || c == ':') && !endsWord t)

def token (s : Layout) (c : Char) (t : Text) : Option Layout :=
  -- Lines about documents come first: at the start of a line their signs mean nothing else.
  if s.cursor.column = 0 ∧ c = '%' then do
    let s ← s.endBlocks
    let (d, c) ← Directive.ofCursor? s.cursor
    some { s.emit (.directive d) with cursor := c }
  else if s.cursor.atMarker then do
    let s ← s.endBlocks
    some ((s.emit (if c = '-' then .documentStart else .documentEnd)).skip 3)
  else if c = '[' then s.openFlow .flowSequenceStart
  else if c = '\x7b' then s.openFlow .flowMappingStart
  else if c = ']' then s.closeFlow .flowSequenceEnd
  else if c = '\x7d' then s.closeFlow .flowMappingEnd
  else if c = ',' then s.flowEntry
  else if c = '-' ∧ endsWord t then s.entry .blockSequenceStart .blockEntry true
  else if c = '?' ∧ (s.inFlow ∨ endsWord t) then s.entry .blockMappingStart .key (!s.inFlow)
  else if c = ':' ∧ (s.inFlow ∨ endsWord t) then s.value
  else if c = '*' then
    s.content fun c => (anchorName (c.skip 1)).map fun (name, c) => (.aliasOf name, c)
  else if c = '&' then
    s.content fun c => (anchorName (c.skip 1)).map fun (name, c) => (.anchor name, c)
  else if c = '!' then
    s.content fun c => (TagText.ofCursor? s.inFlow c).map fun (tag, c) => (.tag tag, c)
  else if c = '|' ∧ !s.inFlow then s.blockScalar .literal
  else if c = '>' ∧ !s.inFlow then s.blockScalar .folded
  else if c = '\'' then s.quotedScalar .singleQuoted
  else if c = '"' then s.quotedScalar .doubleQuoted
  else if startsPlain s.inFlow c t then s.plainScalar
  else none

/-- Read on until the end of the text, where all blocks end. -/
def run : Nat → Layout → Option Layout
  | 0, _ => none
  | fuel + 1, s => do
      let s := s.skipSpace
      let s := s.closeBlocksAbove (s.cursor.column + 1)
      match s.cursor.rest with
      | [] => s.endBlocks
      | c :: t =>
          let s ← s.token c t
          run fuel s

end Layout

/-- The tokens of a text, if all its characters are printable. -/
def Token.ofText? (t : Text) : Option (List Token) := do
  if !t.all isPrintable then none
  else
    let s ← Layout.run (t.length + 1) { cursor := { rest := t } }
    some s.tokens.reverse

end Yaml
end PathTemplate
