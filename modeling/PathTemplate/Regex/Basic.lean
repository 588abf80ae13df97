import PathTemplate.Regex.CharClass

/-!
# Regex — regular expressions with groups

- `Look`  : conditions on the characters around a gap of the text
- `Regex` : expressions; the first of two alternatives is preferred to the second
- `Regex.optional`, `Regex.many`, `Regex.copies`, `Regex.upTo` : repetition by the constructors
- `Regex.nullable` : whether an expression can match the empty text
-/

namespace PathTemplate

/-! ## Conditions on a gap -/

/-- The conditions that compare the characters beside a gap as to being word characters. -/
inductive WordEdge
  | boundary
  | noBoundary
  | start
  | finish
  | startHalf
  | finishHalf
  deriving DecidableEq, Repr

/-- A condition on the characters beside a gap of the text. -/
inductive Look
  | textStart
  | textEnd
  /-- After a line end, or with `crlf` after any of the three line ends. -/
  | lineStart (crlf : Bool)
  | lineEnd (crlf : Bool)
  /-- Word characters are those of all scripts or those of ASCII. -/
  | word (unicode : Bool) (edge : WordEdge)
  deriving DecidableEq, Repr

/-- A gap of a text: how many characters stand before it, and its neighbours. -/
structure Gap where
  index : Nat
  before : Option Char
  after : Option Char

/-- Whether a condition on word characters holds, given which neighbour is one. -/
def WordEdge.holds (before after : Bool) : WordEdge → Bool
  | boundary => before != after
  | noBoundary => before == after
  | start => !before && after
  | finish => before && !after
  | startHalf => !before
  | finishHalf => !after

def Look.holds (g : Gap) : Look → Bool
  | textStart => g.before.isNone
  | textEnd => g.after.isNone
  | lineStart false => g.before.isNone || g.before == some '\n'
  | lineStart true =>
      g.before.isNone || g.before == some '\n'
        || (g.before == some '\r' && g.after != some '\n')
  | lineEnd false => g.after.isNone || g.after == some '\n'
  | lineEnd true =>
      g.after.isNone || g.after == some '\r'
        || (g.after == some '\n' && g.before != some '\r')
  | word unicode edge =>
      let isWord (c : Option Char) : Bool :=
        c.any (if unicode then CharClass.word else CharClass.asciiWord).has
      edge.holds (isWord g.before) (isWord g.after)

/-! ## Expressions -/

inductive Regex
  /-- The empty text. -/
  | empty
  /-- One character of a set. -/
  | chars (cls : CharClass)
  /-- The empty text at a gap with a condition. -/
  | look (l : Look)
  /-- A match that is recorded as the span of group `k`. -/
  | group (k : Nat) (r : Regex)
  /-- One expression after the other. -/
  | seq (a b : Regex)
  /-- One of two expressions, the first one rather than the second. -/
  | alt (a b : Regex)
  /-- One or more times; a greedy repetition rather goes on than ends. -/
  | more (greedy : Bool) (r : Regex)

namespace Regex

def text (t : Text) : Regex := t.foldr (fun c r => seq (chars (.single c)) r) empty

def seqs (rs : List Regex) : Regex := rs.foldr seq empty

/-- One of several expressions, an earlier one rather than a later one. -/
def alts : List Regex → Regex
  | [] => chars .none
  | [r] => r
  | r :: rs => alt r (alts rs)

def optional (greedy : Bool) (r : Regex) : Regex := if greedy then alt r empty else alt empty r

def many (greedy : Bool) (r : Regex) : Regex := optional greedy (more greedy r)

/-- Exactly `n` times, by halving. -/
def copies (r : Regex) (n : Nat) : Regex :=
  if n = 0 then empty
  else if n = 1 then r
  else
    let half := copies r (n / 2)
    if n % 2 = 0 then seq half half else seq r (seq half half)
termination_by n
decreasing_by omega

def upTo (greedy : Bool) (r : Regex) : Nat → Regex
  | 0 => empty
  | 1 => optional greedy r
  | n + 2 => optional greedy (seq r (upTo greedy r (n + 1)))

/-- Whether the empty text can match, at some gap of some text. -/
def nullable : Regex → Bool
  | empty => true
  | chars _ => false
  | look _ => true
  | group _ r => r.nullable
  | seq a b => a.nullable && b.nullable
  | alt a b => a.nullable || b.nullable
  | more _ r => r.nullable

end Regex
end PathTemplate
