import PathTemplate.Percent
import PathTemplate.Regex.Pattern
import PathTemplate.Unicode.Property

/-!
# Atoms — flags and escapes in regular expressions

- `Flags`  : how the text that follows is read
- `Atom`   : what an escape or a single character denotes
- `escape` : read what stands after a backslash

`fuel` bounds the rounds of a loop by the length of the text.
-/

namespace PathTemplate
namespace RegexReader

/-! ## Flags and blanks -/

structure Flags where
  ignoreCase : Bool := false
  multiLine : Bool := false
  dotAll : Bool := false
  swapGreed : Bool := false
  crlf : Bool := false
  verbose : Bool := false
  unicode : Bool := true

def Flags.set? (f : Flags) (letter : Char) (on : Bool) : Option Flags :=
  match letter with
  | 'i' => some { f with ignoreCase := on }
  | 'm' => some { f with multiLine := on }
  | 's' => some { f with dotAll := on }
  | 'U' => some { f with swapGreed := on }
  | 'R' => some { f with crlf := on }
  | 'x' => some { f with verbose := on }
  | 'u' => some { f with unicode := on }
  | _ => none

def isSpace (c : Char) : Bool := CharClass.space.has c

/-- The text after white space and after comments, which go from `#` to the end of the line. -/
def skipComments : (comment : Bool) → Text → Text
  | _, [] => []
  | true, c :: t => skipComments (c != '\n') t
  | false, c :: t =>
      if isSpace c then skipComments false t
      else if c = '#' then skipComments true t
      else c :: t

/-- The text after what has no meaning in verbose reading. -/
def Flags.skip (f : Flags) (t : Text) : Text := if f.verbose then skipComments false t else t

/-! ## Escapes -/

/-- What an escape or a single character denotes. -/
inductive Atom
  /-- A character; `octet` tells that it was written as two digits of an octet. -/
  | char (c : Char) (octet : Bool)
  /-- An abbreviated class: of all scripts, of ASCII, and whether its complement is meant. -/
  | perl (wide ascii : CharClass) (negated : Bool)
  /-- A Unicode property, and whether its complement is meant. -/
  | property (tables : List Unicode.RangeTable) (negated : Bool)
  | look (l : Look)

def hexDigit? (c : Char) : Option Nat := Percent.hexValue? c.toNat

def char? (n : Nat) : Option Char := if h : n.isValidChar then some (Char.ofNatAux n h) else none

def fixedHex (f : Flags) : (count value : Nat) → Text → Option (Nat × Text)
  | 0, n, t => some (n, t)
  | count + 1, n, c :: t => do
      let v ← hexDigit? c
      fixedHex f count (16 * n + v) (f.skip t)
  | _ + 1, _, [] => none

def bracedHex (f : Flags) :
    (fuel : Nat) → (seen : Bool) → (value : Nat) → Text → Option (Nat × Text)
  | 0, _, _, _ => none
  | fuel + 1, seen, n, t =>
      match f.skip t with
      | [] => none
      | c :: t =>
          if c = '}' then if seen then some (n, f.skip t) else none
          else do
            let v ← hexDigit? c
            bracedHex f fuel true (16 * n + v) t

/-- A code point in hexadecimal, after the letter that announces it. -/
def hexAtom (f : Flags) (digits : Nat) (t : Text) : Option (Atom × Text) :=
  match f.skip t with
  | '{' :: t => do
      let (n, t) ← bracedHex f (t.length + 1) false 0 t
      let c ← char? n
      some (.char c false, t)
  | t => do
      let (n, t) ← fixedHex f digits 0 t
      let c ← char? n
      some (.char c (digits = 2), t)

def bracedName (f : Flags) : (fuel : Nat) → Text → Option (Text × Text)
  | 0, _ => none
  | fuel + 1, t =>
      match f.skip t with
      | [] => none
      | c :: t =>
          if c = '}' then some ([], t)
          else (bracedName f fuel t).map fun (name, t) => (c :: name, t)

/-- The text before and after the first `!=`. -/
def splitAtUnequal : Text → Option (Text × Text)
  | [] => none
  | '!' :: '=' :: t => some ([], t)
  | c :: t => (splitAtUnequal t).map fun (a, b) => (c :: a, b)

/-- The tables of a property with or without a value.  Each of the three signs before a value means
that the property has it: a complement is announced by the letter before the name alone. -/
def propertyTables? (name : Text) : Option (List Unicode.RangeTable) :=
  match splitAtUnequal name with
  | some (p, v) => Unicode.propertyValue? p v
  | none =>
      match Text.splitOnce ':' name with
      | some (p, v) => Unicode.propertyValue? p v
      | none =>
          match Text.splitOnce '=' name with
          | some (p, v) => Unicode.propertyValue? p v
          | none => Unicode.property? name

def propertyAtom (f : Flags) (negated : Bool) (t : Text) : Option (Atom × Text) :=
  match f.skip t with
  | [] => none
  | '\\' :: _ => none
  | '{' :: t => do
      let (name, t) ← bracedName f (t.length + 1) t
      let tables ← propertyTables? name
      some (.property tables negated, t)
  | c :: t => do
      let tables ← Unicode.property? [c]
      some (.property tables negated, f.skip t)

/-- What may stand in the braces of a word boundary. -/
def isEdgeNameChar (c : Char) : Bool := c.isAlpha || c == '-'

def edgeName (f : Flags) : (fuel : Nat) → Text → Text × Text
  | 0, t => ([], t)
  | fuel + 1, t =>
      match t with
      | c :: t =>
          if isEdgeNameChar c then
            let (name, t) := edgeName f fuel (f.skip t)
            (c :: name, t)
          else ([], c :: t)
      | [] => ([], [])

def wordEdge? (name : Text) : Option WordEdge :=
  if name = "start".toList then some .start
  else if name = "end".toList then some .finish
  else if name = "start-half".toList then some .startHalf
  else if name = "end-half".toList then some .finishHalf
  else none

/-- A word boundary, after its letter.  Braces that hold no letter are a repetition. -/
def boundaryAtom (f : Flags) (t : Text) : Option (Atom × Text) :=
  match t with
  | '{' :: r =>
      match f.skip r with
      | [] => none
      | c :: r =>
          if isEdgeNameChar c then
            match edgeName f (r.length + 2) (c :: r) with
            | (name, '}' :: t) => (wordEdge? name).map fun e => (.look (.word f.unicode e), t)
            | _ => none
          else some (.look (.word f.unicode .boundary), t)
  | _ => some (.look (.word f.unicode .boundary), t)

def metaChars : Text := "\\.+*?()|[]\x7b\x7d^$#&-~".toList

def isEscapable (c : Char) : Bool :=
  metaChars.contains c || (c.toNat < 0x80 && !c.isAlphanum && c != '<' && c != '>')

/-- What the text after a backslash denotes. -/
def escape (f : Flags) : Text → Option (Atom × Text)
  | [] => none
  | c :: t =>
      let char (n : Nat) : Option (Atom × Text) := some (.char (Char.ofNat n) false, t)
      match c with
      | 'x' => hexAtom f 2 t
      | 'u' => hexAtom f 4 t
      | 'U' => hexAtom f 8 t
      | 'p' => propertyAtom f false t
      | 'P' => propertyAtom f true t
      | 'd' => some (.perl .digit .asciiDigit false, t)
      | 'D' => some (.perl .digit .asciiDigit true, t)
      | 's' => some (.perl .space .asciiSpace false, t)
      | 'S' => some (.perl .space .asciiSpace true, t)
      | 'w' => some (.perl .word .asciiWord false, t)
      | 'W' => some (.perl .word .asciiWord true, t)
      | 'a' => char 0x07
      | 'f' => char 0x0C
      | 't' => char 0x09
      | 'n' => char 0x0A
      | 'r' => char 0x0D
      | 'v' => char 0x0B
      | 'A' => some (.look .textStart, t)
      | 'z' => some (.look .textEnd, t)
      | 'b' => boundaryAtom f t
      | 'B' => some (.look (.word f.unicode .noBoundary), t)
      | '<' => some (.look (.word f.unicode .start), t)
      | '>' => some (.look (.word f.unicode .finish), t)
      | c => if isEscapable c then some (.char c false, t) else none

end RegexReader
end PathTemplate
