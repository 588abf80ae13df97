import PathTemplate.Text
import PathTemplate.Unicode.CaseFold
import PathTemplate.Unicode.RangeTable
import PathTemplate.Unicode.Word

/-!
# CharClass — sets of characters

A `CharClass` is an expression over ranges and tables; `CharClass.contains` evaluates it at a code
point.  Expressions are not brought into a normal form: complement, intersection and closure under
case are evaluated where they stand.
-/

namespace PathTemplate

/-- A set of code points. -/
inductive CharClass
  | range (lo hi : Nat)
  | table (t : Unicode.RangeTable)
  | union (a b : CharClass)
  | inter (a b : CharClass)
  | minus (a b : CharClass)
  /-- The code points that differ only in case from one of the set. -/
  | anyCase (a : CharClass)
  /-- The same for the letters of ASCII alone. -/
  | anyAsciiCase (a : CharClass)

namespace CharClass

/-- The other case of an ASCII letter; other code points stay. -/
def swapAsciiCase (n : Nat) : Nat :=
  if 0x41 ≤ n && n ≤ 0x5A then n + 0x20 else if 0x61 ≤ n && n ≤ 0x7A then n - 0x20 else n

def contains : CharClass → Nat → Bool
  | range lo hi, n => lo ≤ n && n ≤ hi
  | table t, n => t.contains n
  | union a b, n => a.contains n || b.contains n
  | inter a b, n => a.contains n && b.contains n
  | minus a b, n => a.contains n && !b.contains n
  | anyCase a, n => a.contains n || (Unicode.caseVariants n).any a.contains
  | anyAsciiCase a, n => a.contains n || a.contains (swapAsciiCase n)

def has (a : CharClass) (c : Char) : Bool := a.contains c.toNat

/-! ## Building sets -/

def none : CharClass := range 1 0

def all : CharClass := range 0 0x10FFFF

def single (c : Char) : CharClass := range c.toNat c.toNat

def unions (as : List CharClass) : CharClass := as.foldr union none

def compl (a : CharClass) : CharClass := minus all a

/-- The members of exactly one of two sets. -/
def either (a b : CharClass) : CharClass := union (minus a b) (minus b a)

/-- A set with its ASCII members given by a rule of their own. -/
def withAscii (ascii : CharClass) (beyond : Unicode.RangeTable) : CharClass :=
  union ascii (inter (range 0x80 0x10FFFF) (table beyond))

def notSlash : CharClass := compl (single '/')

def notLineFeed : CharClass := compl (single '\n')

/-! ## The abbreviated classes -/

def asciiDigit : CharClass := range 0x30 0x39

def asciiWord : CharClass :=
  unions [range 0x61 0x7A, range 0x41 0x5A, asciiDigit, single '_']

def asciiSpace : CharClass := union (range 0x09 0x0D) (single ' ')

/-- Decimal digits of any script. -/
def digit : CharClass := withAscii asciiDigit Unicode.digitBeyondAscii

def word : CharClass := withAscii asciiWord Unicode.wordBeyondAscii

def space : CharClass := withAscii asciiSpace Unicode.spaceBeyondAscii

/-- The named ASCII classes that may stand in brackets. -/
def posix? (name : Text) : Option CharClass :=
  (named.find? fun e => e.1.toList == name).map (·.2)
where
  lower := range 0x61 0x7A
  upper := range 0x41 0x5A
  alpha := union lower upper
  named : List (String × CharClass) := [
    ("alnum", union alpha asciiDigit),
    ("alpha", alpha),
    ("ascii", range 0 0x7F),
    ("blank", union (single '\t') (single ' ')),
    ("cntrl", union (range 0 0x1F) (range 0x7F 0x7F)),
    ("digit", asciiDigit),
    ("graph", range 0x21 0x7E),
    ("lower", lower),
    ("print", range 0x20 0x7E),
    ("punct", unions [range 0x21 0x2F, range 0x3A 0x40, range 0x5B 0x60, range 0x7B 0x7E]),
    ("space", asciiSpace),
    ("upper", upper),
    ("word", asciiWord),
    ("xdigit", unions [asciiDigit, range 0x41 0x46, range 0x61 0x66])]

end CharClass
end PathTemplate
