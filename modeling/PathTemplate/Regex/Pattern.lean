import PathTemplate.Regex.Basic

/-!
# Pattern — regular expressions with counted repetition

A `Pattern` is what the text of a regular expression denotes, before counted repetitions are
written out.

- `Pattern.times`      : repetition, with the simplifications that make large counts harmless
- `Pattern.weight`     : the storage the written-out pattern would need, in octets
- `Pattern.groupBound` : the number of groups, the whole match included
- `Pattern.regex`      : the pattern written out
-/

namespace PathTemplate

/-- A regular expression with counted repetition. -/
inductive Pattern
  | empty
  | chars (cls : CharClass)
  | look (l : Look)
  | group (k : Nat) (p : Pattern)
  | seq (a b : Pattern)
  | alt (a b : Pattern)
  /-- At least `least` times, and at most `most` times if that is given. -/
  | times (least : Nat) (most : Option Nat) (greedy : Bool) (p : Pattern)

namespace Pattern

def matchesOnlyEmpty : Pattern → Bool
  | empty => true
  | chars _ => false
  | look _ => true
  | group _ p => p.matchesOnlyEmpty
  | seq a b => a.matchesOnlyEmpty && b.matchesOnlyEmpty
  | alt a b => a.matchesOnlyEmpty && b.matchesOnlyEmpty
  | times _ _ _ p => p.matchesOnlyEmpty

/-- Repetition.  What matches only the empty text is repeated at most once, repetition zero times is
empty, and repetition exactly once is no repetition. -/
def repetition (least : Nat) (most : Option Nat) (greedy : Bool) (p : Pattern) : Pattern :=
  let (least, most) :=
    if p.matchesOnlyEmpty then (min least 1, some (min (most.getD 1) 1)) else (least, most)
  if most = some 0 then empty
  else if least = 1 && most = some 1 then p
  else times least most greedy p

def seqs : List Pattern → Pattern
  | [] => empty
  | [p] => p
  | p :: ps => seq p (seqs ps)

def alts : List Pattern → Pattern
  | [] => chars .none
  | [p] => p
  | p :: ps => alt p (alts ps)

def ofChars (t : Text) : List Pattern := t.map fun c => chars (.single c)

def anyValue : Pattern := times 0 none false (chars .notSlash)

def someValue : Pattern := times 1 none false (chars .notSlash)

def optional (p : Pattern) : Pattern := times 0 (some 1) true p

def many (p : Pattern) : Pattern := times 0 none true p

/-! ## Size -/

/-- The storage of a set of characters: one entry for each way in which the octets of its members
run. -/
def classWeight : CharClass → Nat
  | .range _ hi => if hi < 0x80 then 8 else if hi < 0x10FFFF then 64 else 1000
  | .table t => 60 * t.ranges.size
  | .union a b | .inter a b | .minus a b => classWeight a + classWeight b
  | .anyCase a | .anyAsciiCase a => 2 * classWeight a

/-- The storage of the pattern when repetitions are written out. -/
def weight : Pattern → Nat
  | empty => 32
  | chars cls => 32 + classWeight cls
  | look _ => 32
  | group _ p => 64 + p.weight
  | seq a b => a.weight + b.weight
  | alt a b => 40 + a.weight + b.weight
  | times least none _ p => 80 + max least 1 * p.weight
  | times _ (some most) _ p => 32 + most * (40 + p.weight)

def weightLimit : Nat := 10 * 1024 * 1024

/-- One more than the largest number of a group. -/
def groupBound : Pattern → Nat
  | empty | chars _ | look _ => 1
  | group k p => max (k + 1) p.groupBound
  | seq a b | alt a b => max a.groupBound b.groupBound
  | times _ _ _ p => p.groupBound

/-! ## Writing out -/

/-- The pattern with its repetitions written out. -/
def regex : Pattern → Regex
  | empty => .empty
  | chars cls => .chars cls
  | look l => .look l
  | group k p => .group k p.regex
  | seq a b => .seq a.regex b.regex
  | alt a b => .alt a.regex b.regex
  | times least most greedy p =>
      match least, most with
      | 0, none => .many greedy p.regex
      | 1, none => .more greedy p.regex
      | n + 1, none => .seq (.copies p.regex n) (.more greedy p.regex)
      | least, some most =>
          if least = 0 then .upTo greedy p.regex most
          else if least < most then
            .seq (.copies p.regex least) (.upTo greedy p.regex (most - least))
          else .copies p.regex least

end Pattern
end PathTemplate
