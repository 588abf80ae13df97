import PathTemplate.Yaml.Scalar

/-!
# Tokens — the words of a YAML text

- `Token`     : punctuation, properties and scalars, with the bounds of blocks made explicit
- `TagText`   : a tag as written
- `Directive` : a line that begins with `%`

The tokens that have a text of their own are read here, each by its `ofCursor?`.
-/

namespace PathTemplate
namespace Yaml

/-- A tag as written: a handle, which stands for the beginning of a tag, and the rest. -/
structure TagText where
  handle : Text
  suffix : Text
  deriving DecidableEq, Repr

/-- A line that begins with `%`. -/
inductive Directive
  /-- The version of YAML. -/
  | version (major minor : Nat)
  /-- What a tag handle stands for. -/
  | tag (handle base : Text)
  deriving DecidableEq, Repr

inductive Token
  | directive (d : Directive)
  | documentStart
  | documentEnd
  | blockSequenceStart
  | blockMappingStart
  | blockEnd
  | flowSequenceStart
  | flowSequenceEnd
  | flowMappingStart
  | flowMappingEnd
  /-- The dash of a block sequence. -/
  | blockEntry
  /-- The comma of a flow collection. -/
  | flowEntry
  /-- What comes next is a key. -/
  | key
  /-- What comes next is the value of a key. -/
  | value
  | aliasOf (name : Text)
  | anchor (name : Text)
  | tag (t : TagText)
  | scalar (style : Style) (text : Text)
  deriving DecidableEq, Repr

/-! ## Names -/

def anchorName (c : Cursor) : Option (Text × Cursor) :=
  let (name, c) := c.span isNameChar
  if name ≠ [] ∧ (endsWord c.rest ∨ startsWithOneOf "?:,]\x7d%@\x60" c.rest) then some (name, c)
  else none

/-! ## Tags -/

namespace TagText

/-- The characters of a tag.  A comma and square brackets count only where `wide` says so. -/
def isTagChar (wide : Bool) (c : Char) : Bool :=
  isNameChar c || ";/?:@&=+$.!~*'()%".toList.contains c || (wide && ",[]".toList.contains c)

/-- Whether octets make up one character, as far as the leading bits of each tell. -/
def isSequence : List Utf8.Octet → Bool
  | [] => false
  | b :: more =>
      let width :=
        if b < 0x80 then 1
        else if 0xC0 ≤ b && b < 0xE0 then 2
        else if 0xE0 ≤ b && b < 0xF0 then 3
        else if 0xF0 ≤ b && b < 0xF8 then 4
        else 0
      more.length + 1 == width && more.all Utf8.isTail

/-- What the characters of a tag mean.  Escapes in a row must make up whole characters; `pending`
holds the octets of those that do not yet. -/
def unescape (pending : List Utf8.Octet) : Text → Option Text
  | '%' :: h :: l :: t => do
      let high ← Percent.hexValue? h.toNat
      let low ← Percent.hexValue? l.toNat
      let octets := pending ++ [16 * high + low]
      -- Several escapes may make up one character.
      if isSequence octets then (unescape [] t).map (Utf8.decode octets ++ ·)
      else if octets.length < 4 then unescape octets t
      else none
  | [] => if pending = [] then some [] else none
  | c :: t => if c = '%' ∨ pending ≠ [] then none else (unescape [] t).map (c :: ·)

/-- A run of tag characters: how many there are, what they mean up to an escaped NUL, and the place
behind them. -/
def readChars (wide : Bool) (c : Cursor) : Option (Nat × Text × Cursor) := do
  let (written, c) := c.span (isTagChar wide)
  let meaning ← unescape [] written
  some (written.length, meaning.takeWhile (· != '\x00'), c)

/-- A handle: an exclamation mark, or a name between two.  A tag may also begin with a mark and a
name. -/
def readHandle (inDirective : Bool) (c : Cursor) : Option (Text × Cursor) :=
  if c.rest.head? ≠ some '!' then none
  else
    let (name, c) := (c.skip 1).span isNameChar
    if c.rest.head? = some '!' then some ('!' :: name ++ ['!'], c.skip 1)
    else if inDirective && !name.isEmpty then none
    else some ('!' :: name, c)

/-- The handle and the rest of a tag at its exclamation mark: the whole tag in angle brackets, a
handle with a rest, or a mark alone, which is a tag without a handle. -/
def parts (c : Cursor) : Option (TagText × Cursor) :=
  if c.rest.take 2 = "!<".toList then do
    let (count, suffix, c) ← readChars true (c.skip 2)
    if count ≠ 0 ∧ c.rest.head? = some '>' then some (⟨[], suffix⟩, c.skip 1) else none
  else do
    -- Without a second mark, what was read as the name of a handle begins the tag.
    let (start, c) ← readHandle false c
    let (count, more, c) ← readChars false c
    if start.length > 1 && start.getLast? == some '!' then
      if count ≠ 0 then some (⟨start, more⟩, c) else none
    else
      match start.drop 1 ++ more with
      | [] => some (⟨[], ['!']⟩, c)
      | suffix => some (⟨['!'], suffix⟩, c)

/-- A tag at its exclamation mark.  A blank or the end of the line comes behind it, or in a flow
collection a comma. -/
def ofCursor? (flow : Bool) (c : Cursor) : Option (TagText × Cursor) := do
  let (tag, c) ← parts c
  if endsWord c.rest || (flow && c.rest.head? == some ',') then some (tag, c) else none

end TagText

/-! ## Directives -/

namespace Directive

def number (c : Cursor) : Option (Nat × Cursor) :=
  let (digits, c) := c.span Char.isDigit
  if digits = [] ∨ digits.length > 9 then none
  else some (digits.foldl (fun n d => 10 * n + (d.toNat - '0'.toNat)) 0, c)

def readVersion (c : Cursor) : Option (Directive × Cursor) := do
  let (major, c) ← number c.skipBlanks
  if c.rest.head? ≠ some '.' then none
  else
    let (minor, c) ← number (c.skip 1)
    some (.version major minor, c)

def readTag (c : Cursor) : Option (Directive × Cursor) := do
  let (handle, c) ← TagText.readHandle true c.skipBlanks
  if !startsWithOneOf " \t" c.rest then none
  else
    let (count, base, c) ← TagText.readChars true c.skipBlanks
    if count ≠ 0 && endsWord c.rest then some (.tag handle base, c) else none

/-- A directive at its percent sign, and the start of the next line. -/
def ofCursor? (c : Cursor) : Option (Directive × Cursor) := do
  let (name, c) := (c.skip 1).span isNameChar
  if !endsWord c.rest then none
  else
    let (directive, c) ←
      if name = "YAML".toList then readVersion c
      else if name = "TAG".toList then readTag c
      else none
    let c := c.skipBlanks.skipComment
    if c.atLineEnd then some (directive, (c.crossBreak.map (·.2)).getD c) else none

end Directive
end Yaml
end PathTemplate
