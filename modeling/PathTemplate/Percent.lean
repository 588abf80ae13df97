import PathTemplate.Text.Utf8

/-!
# Percent — escapes of the form `%XX`

- `Percent.encode`        : every character outside the unreserved set is escaped
- `Percent.decode`        : escapes become octets, and the octets a text again
- `Percent.encodeLiteral` : the literal text of a template as the text of a path

`decode` accepts any text: a malformed escape stays as it is, and octets that are not UTF-8 are
replaced.
-/

namespace PathTemplate
namespace Percent

open Utf8 (Octet)

/-! ## Hexadecimal digits -/

/-- The upper-case digit of a number below 16. -/
def hexDigit (n : Nat) : Char := if n < 10 then Char.ofNat (0x30 + n) else Char.ofNat (0x37 + n)

/-- The value of the octet of a hexadecimal digit, of either case. -/
def hexValue? (b : Octet) : Option Nat :=
  if 0x30 ≤ b && b ≤ 0x39 then some (b - 0x30)
  else if 0x41 ≤ b && b ≤ 0x46 then some (b - 0x37)
  else if 0x61 ≤ b && b ≤ 0x66 then some (b - 0x57)
  else none

def isHexDigit (c : Char) : Bool := (hexValue? c.toNat).isSome

/-! ## Encoding -/

/-- The characters that are never escaped: ASCII letters and digits, `-`, `_`, `.` and `~`. -/
def isUnreserved (c : Char) : Bool :=
  c.isAlphanum || c == '-' || c == '_' || c == '.' || c == '~'

def escapeOctet (b : Octet) : Text := ['%', hexDigit (b / 16), hexDigit (b % 16)]

def escapeChar (c : Char) : Text := (Utf8.encodeChar c).flatMap escapeOctet

def encode (t : Text) : Text := t.flatMap fun c => if isUnreserved c then [c] else escapeChar c

/-! ## Decoding -/

/-- Replace each well-formed escape by its octet. -/
def unescape : List Octet → List Octet
  | 0x25 :: h :: l :: rest =>
      match hexValue? h, hexValue? l with
      | some x, some y => (16 * x + y) :: unescape rest
      -- A percent sign that begins no escape stays, and what follows it may begin one.
      | _, _ => 0x25 :: unescape (h :: l :: rest)
  | b :: rest => b :: unescape rest
  | [] => []

def decode (t : Text) : Text := Utf8.decode (unescape (Utf8.encode t))

/-! ## Literals -/

/-- The characters besides the unreserved ones that a path holds as they are. -/
def isPathDelimiter (c : Char) : Bool := "!$&'()*+,;=:@/".toList.contains c

def completesEscape : Text → Bool
  | h :: l :: _ => isHexDigit h && isHexDigit l
  | _ => false

/-- The literal text of a template as the text of a path. -/
def encodeLiteral : Text → Text
  | [] => []
  | c :: t =>
      -- Braces stay, so that a brace in a literal is still found.
      if isUnreserved c || c == '\x7b' || c == '\x7d' || isPathDelimiter c
          || (c == '%' && completesEscape t)
      then c :: encodeLiteral t
      else escapeChar c ++ encodeLiteral t

end Percent
end PathTemplate
