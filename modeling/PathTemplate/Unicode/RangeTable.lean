/-!
# RangeTable — sets of code points as sorted ranges

- `RangeTable`        : ranges in ascending order, searched by halving
- `RangeTable.decode` : ranges in their written form, `41-5A 61-7A AA`
- `NamedRanges`       : the names of a property and the written form of its ranges
-/

namespace PathTemplate
namespace Unicode

/-! ## Searching a sorted array -/

/-- `searchSorted` between two indices; `fuel` bounds the number of halvings. -/
def searchBetween {α : Type} (a : Array α) (key : α → Nat) (n : Nat) : Nat → Nat → Nat → Option α
  | 0, _, _ => none
  | fuel + 1, lo, hi =>
      if hi ≤ lo then none
      else
        let mid := (lo + hi) / 2
        match a[mid]? with
        | none => none
        | some x =>
            if n < key x then searchBetween a key n fuel lo mid
            else
              match searchBetween a key n fuel (mid + 1) hi with
              | some y => some y
              | none => some x

/-- The last element whose key is at most `n`, in an array sorted by key. -/
def searchBelow {α : Type} (a : Array α) (key : α → Nat) (n : Nat) : Option α :=
  searchBetween a key n (a.size + 1) 0 a.size

/-- The element whose key is `n`, in an array sorted by key. -/
def searchSorted {α : Type} (a : Array α) (key : α → Nat) (n : Nat) : Option α :=
  (searchBelow a key n).filter fun x => key x == n

/-! ## Ranges -/

/-- Disjoint ranges of code points, both ends included, in ascending order. -/
structure RangeTable where
  ranges : Array (Nat × Nat)

namespace RangeTable

def contains (t : RangeTable) (n : Nat) : Bool :=
  match searchBelow t.ranges (·.1) n with
  | some (_, hi) => n ≤ hi
  | none => false

end RangeTable

/-! ## The written form -/

def digitValue? (c : Char) : Option Nat :=
  if '0' ≤ c && c ≤ '9' then some (c.toNat - 0x30)
  else if 'A' ≤ c && c ≤ 'F' then some (c.toNat - 0x37)
  else none

structure Decoding where
  words : List (List Nat) := []
  word : List Nat := []

/-- Read one character: a digit extends the last number, a blank ends the word, and anything else
begins the next number of the word. -/
def Decoding.next (d : Decoding) (c : Char) : Decoding :=
  match digitValue? c with
  | some v =>
      match d.word with
      | [] => { d with word := [v] }
      | n :: ns => { d with word := (16 * n + v) :: ns }
  | none =>
      if c = ' ' || c = '\n' then
        match d.word with
        | [] => d
        | w => { words := w.reverse :: d.words, word := [] }
      else { d with word := 0 :: d.word }

def decodeGroups (s : String) : List (List Nat) :=
  (s.toList.foldl Decoding.next {}).next ' ' |>.words.reverse

/-- The ranges of a written form.  A word is a code point, or the ends of a range. -/
def RangeTable.decode (s : String) : RangeTable :=
  ⟨((decodeGroups s).map fun
    | [lo, hi] => (lo, hi)
    | lo :: _ => (lo, lo)
    | [] => (1, 0)).toArray⟩

/-- The names of a property or of a property's value, and the written form of its ranges. -/
abbrev NamedRanges := List String × String

end Unicode
end PathTemplate
