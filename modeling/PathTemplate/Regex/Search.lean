import PathTemplate.Regex.Basic

/-!
# Search — the preferred match of a regular expression

`Regex.search` finds the leftmost match of an expression in a text, and of the matches that start
there the preferred one.  The work per character is proportional to the size of the expression.

The text is read from its end to its start.  A *mark* at a set of characters in the expression holds
the outcome of the rest of the match, were a character of the set to stand just before the present
gap: a `Trace` of group boundaries if the rest can succeed, and nothing if it cannot.

- `Marked.outcome` : the preferred outcome of an expression at a gap, given that of what follows
- `Marked.step`    : the outcome together with the marks for the gap before
- `Marked.explore`, `Marked.remark` : the same inside a repetition whose body may match nothing

A repetition goes round again only after its body has taken a character.  Where the body may match
the empty text this needs more than outcomes: one walk through the repetition at one gap passes each
of its branchings once, so `explore` carries the branchings already passed.
-/

namespace PathTemplate

/-! ## Traces -/

/-- A boundary of a group's span: the number of characters before it. -/
inductive Boundary
  | opens (k index : Nat)
  | closes (k index : Nat)
  deriving DecidableEq, Repr

/-- The boundaries that a match passes, from left to right. -/
abbrev Trace := List Boundary

namespace Trace

def lastOpened (k : Nat) : Trace → Option Nat
  | [] => none
  | .opens j i :: t => (lastOpened k t).orElse fun _ => if j = k then some i else none
  | .closes _ _ :: t => lastOpened k t

def lastClosed (k : Nat) : Trace → Option Nat
  | [] => none
  | .closes j i :: t => (lastClosed k t).orElse fun _ => if j = k then some i else none
  | .opens _ _ :: t => lastClosed k t

def span? (t : Trace) (k : Nat) : Option (Nat × Nat) :=
  match lastOpened k t, lastClosed k t with
  | some i, some j => some (i, j)
  | _, _ => none

end Trace

/-! ## Marked expressions -/

/-- An expression with the outcomes after each of its sets of characters.  Branchings are
numbered; `tame` tells that the body of a repetition cannot match the empty text. -/
inductive Marked
  | empty
  | chars (cls : CharClass) (mark : Option Trace)
  | look (l : Look)
  | group (k : Nat) (m : Marked)
  | seq (a b : Marked)
  | alt (id : Nat) (a b : Marked)
  | more (id : Nat) (greedy tame : Bool) (m : Marked)

namespace Marked

/-- The expression without marks, with branchings numbered from `n`, and the next number. -/
def ofRegex (n : Nat) : Regex → Marked × Nat
  | .empty => (empty, n)
  | .chars cls => (chars cls none, n)
  | .look l => (look l, n)
  | .group k r =>
      let (m, n) := ofRegex n r
      (group k m, n)
  | .seq a b =>
      let (a, n) := ofRegex n a
      let (b, n) := ofRegex n b
      (seq a b, n)
  | .alt a b =>
      let (a, n) := ofRegex n a
      let (b, n) := ofRegex n b
      (alt n a b, n + 1)
  | .more greedy r =>
      let (m, n) := ofRegex n r
      (more n greedy (!r.nullable) m, n + 1)

/-! ## Walks that pass a branching once -/

/-- The branchings passed on a walk. -/
abbrev Passed := List Nat

abbrev Walk := Option Trace × Passed

def stuck (passed : Passed) : Walk := (none, passed)

def orWalk (w : Walk) (next : Passed → Walk) : Walk :=
  match w with
  | (some t, passed) => (some t, passed)
  | (none, passed) => next passed

def mapWalk (f : Trace → Trace) (w : Walk) : Walk := (w.1.map f, w.2)

/-- The end of the body of a repetition: go round again, or go on.  Both happen once at a gap. -/
def goRound (id : Nat) (greedy : Bool) (again goOn : Passed → Walk) (passed : Passed) : Walk :=
  -- To come here twice at one gap is to have gone a round that took no character.
  if passed.contains id then stuck passed
  else if greedy then orWalk (again (id :: passed)) goOn
  else orWalk (goOn (id :: passed)) again

/-- Walk through an expression and go on with `k`. -/
def explore (g : Gap) : Marked → Passed → (Passed → Walk) → Walk
  | empty, p, k => k p
  | chars cls mark, p, _ => (if g.after.any cls.has then mark else none, p)
  | look l, p, k => if l.holds g then k p else stuck p
  | group i m, p, k =>
      mapWalk (.opens i g.index :: ·)
        (explore g m p fun p => mapWalk (.closes i g.index :: ·) (k p))
  | seq a b, p, k => explore g a p fun p => explore g b p k
  | alt id a b, p, k =>
      if p.contains id then stuck p
      else orWalk (explore g a (id :: p) k) fun p => explore g b p k
  | more id greedy _ m, p, k =>
      explore g m p (goRound id greedy (fun p => explore g m p stuck) k)

/-- Set each mark to the outcome of the walk that goes on after it. -/
def remark (g : Gap) : Marked → (Passed → Walk) → Marked
  | empty, _ => empty
  | chars cls _, k => chars cls (k []).1
  | look l, _ => look l
  | group i m, k => group i (remark g m fun p => mapWalk (.closes i g.index :: ·) (k p))
  | seq a b, k => seq (remark g a fun p => explore g b p k) (remark g b k)
  | alt id a b, k => alt id (remark g a k) (remark g b k)
  | more id greedy tame m, k =>
      more id greedy tame
        (remark g m (goRound id greedy (fun p => explore g m p stuck) k))

/-! ## Outcomes at a gap -/

def orOutcome (x y : Option Trace) : Option Trace :=
  match x with
  | some t => some t
  | none => y

/-- The outcome of a repetition after a round, from that of going round again and of going on. -/
def afterRound (greedy : Bool) (again goOn : Option Trace) : Option Trace :=
  if greedy then orOutcome again goOn else orOutcome goOn again

/-- The preferred outcome at a gap, given the outcome `k` of what follows. -/
def outcome (g : Gap) : Marked → Option Trace → Option Trace
  | empty, k => k
  | chars cls mark, _ => if g.after.any cls.has then mark else none
  | look l, k => if l.holds g then k else none
  | group i m, k => (outcome g m (k.map (.closes i g.index :: ·))).map (.opens i g.index :: ·)
  | seq a b, k => outcome g a (outcome g b k)
  | alt _ a b, k => orOutcome (outcome g a k) (outcome g b k)
  -- A round that must take a character cannot end at this gap.
  | more _ _ true m, _ => outcome g m none
  | more id greedy false m, k => (explore g (more id greedy false m) [] fun p => (k, p)).1

/-- The preferred outcome at a gap, and the marks for the gap before. -/
def step (g : Gap) : Marked → Option Trace → Option Trace × Marked
  | empty, k => (k, empty)
  | chars cls mark, k => (if g.after.any cls.has then mark else none, chars cls k)
  | look l, k => (if l.holds g then k else none, look l)
  | group i m, k =>
      let (x, m) := step g m (k.map (.closes i g.index :: ·))
      (x.map (.opens i g.index :: ·), group i m)
  | seq a b, k =>
      let (y, b) := step g b k
      let (x, a) := step g a y
      (x, seq a b)
  | alt id a b, k =>
      let (x, a) := step g a k
      let (y, b) := step g b k
      (orOutcome x y, alt id a b)
  -- The body is followed by another round from here, or by what follows the repetition.
  | more id greedy true m, k =>
      let again := outcome g m none
      let (_, m) := step g m (afterRound greedy again k)
      (again, more id greedy true m)
  | more id greedy false m, k =>
      let m := more id greedy false m
      let k := fun p => (k, p)
      ((explore g m [] k).1, remark g m k)

end Marked

/-! ## Searching a text -/

/-- Step to the start of the text, from the gap with `index` characters before it, given in reverse;
`found` is the outcome of a match that starts further right. -/
def Marked.searchBefore (m : Marked) (found : Option Trace) (after : Option Char) :
    (index : Nat) → Text → Option Trace
  | index, before =>
      let (x, m) := m.step ⟨index, before.head?, after⟩ (some [])
      let found := orOutcome x found
      match before with
      | [] => found
      | c :: before => searchBefore m found (some c) (index - 1) before

/-- The preferred one of the leftmost matches, as a trace of its groups. -/
def Regex.search (r : Regex) (t : Text) : Option Trace :=
  (Marked.ofRegex 0 r).1.searchBefore none none t.length t.reverse

end PathTemplate
