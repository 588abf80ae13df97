import PathTemplate.Text

/-!
# UTF-8 — texts as octets

- `Utf8.encode` : the octets of a text
- `Utf8.decode` : the text of any octets; what is not well-formed is replaced

Octets are natural numbers.  `decode` replaces each maximal piece that starts a well-formed
sequence but does not complete it, and each octet that starts none, by one U+FFFD.
-/

namespace PathTemplate
namespace Utf8

/-- A number below 256. -/
abbrev Octet := Nat

def encodeChar (c : Char) : List Octet :=
  let n := c.toNat
  if n < 0x80 then [n]
  else if n < 0x800 then [0xC0 + n / 0x40, 0x80 + n % 0x40]
  else if n < 0x10000 then [0xE0 + n / 0x1000, 0x80 + n / 0x40 % 0x40, 0x80 + n % 0x40]
  else [0xF0 + n / 0x40000, 0x80 + n / 0x1000 % 0x40, 0x80 + n / 0x40 % 0x40, 0x80 + n % 0x40]

def encode (t : Text) : List Octet := t.flatMap encodeChar

/-- What stands for a piece that is not well-formed. -/
def replacement : Char := '\uFFFD'

def isTail (b : Octet) : Bool := 0x80 ≤ b && b < 0xC0

/-- Whether `b` may follow the leading octet `a` of a sequence of three or four. -/
def isSecond (a b : Octet) : Bool :=
  if a = 0xE0 then 0xA0 ≤ b && b < 0xC0
  else if a = 0xED then 0x80 ≤ b && b < 0xA0
  else if a = 0xF0 then 0x90 ≤ b && b < 0xC0
  else if a = 0xF4 then 0x80 ≤ b && b < 0x90
  else isTail b

/-- The text of any octets. -/
def decode : List Octet → Text
  | [] => []
  | a :: rest =>
      if a < 0x80 then Char.ofNat a :: decode rest
      else if 0xC2 ≤ a && a < 0xE0 then
        match rest with
        | b :: rest' =>
            if isTail b then Char.ofNat ((a - 0xC0) * 0x40 + (b - 0x80)) :: decode rest'
            -- An octet that does not continue the sequence may begin another one.
            else replacement :: decode (b :: rest')
        | [] => [replacement]
      else if 0xE0 ≤ a && a < 0xF0 then
        match rest with
        | b :: c :: rest' =>
            if isSecond a b then
              if isTail c then
                Char.ofNat ((a - 0xE0) * 0x1000 + (b - 0x80) * 0x40 + (c - 0x80)) :: decode rest'
              else replacement :: decode (c :: rest')
            else replacement :: decode (b :: c :: rest')
        | [b] => if isSecond a b then [replacement] else replacement :: decode [b]
        | [] => [replacement]
      else if 0xF0 ≤ a && a < 0xF5 then
        match rest with
        | b :: c :: d :: rest' =>
            if isSecond a b then
              if isTail c then
                if isTail d then
                  Char.ofNat ((a - 0xF0) * 0x40000 + (b - 0x80) * 0x1000 + (c - 0x80) * 0x40
                    + (d - 0x80)) :: decode rest'
                else replacement :: decode (d :: rest')
              else replacement :: decode (c :: d :: rest')
            else replacement :: decode (b :: c :: d :: rest')
        | [b, c] =>
            if isSecond a b then
              if isTail c then [replacement] else replacement :: decode [c]
            else replacement :: decode [b, c]
        | [b] => if isSecond a b then [replacement] else replacement :: decode [b]
        | [] => [replacement]
      else replacement :: decode rest

end Utf8
end PathTemplate
