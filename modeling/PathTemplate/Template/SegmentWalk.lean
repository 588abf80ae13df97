import PathTemplate.Template.Matcher

/-!
# Segment walk — the segments under values, by indices and in words

`Matcher.spannedSegments` cuts a window out of the segments and reads it as a list.  The same
segments are found by indices that walk over the whole list.  Offsets and indices are words, so a sum
has to fit one, and an index has to lie in the list.

- `Fault`                : what stops a walk
- `Word.add`             : a sum that has to fit a word
- `SegmentWalk.cover`    : the segments under one value
- `Bindings.walk`        : for each name the segments under its values
- `Matcher.walkSegments` : for the values that the last match binds
-/

namespace PathTemplate

inductive Fault
  /-- An index that the list does not have. -/
  | outside
  /-- A sum that does not fit a word. -/
  | overflow
  deriving DecidableEq, Repr

namespace Word

def size : Nat := UInt64.size

/-- A sum that has to be a word. -/
def add (a b : Nat) : Except Fault Nat := if a + b < size then .ok (a + b) else .error .overflow

/-- A sum, or the largest word where it is none. -/
def saturatingAdd (a b : Nat) : Nat := min (a + b) (size - 1)

end Word

namespace SegmentWalk

def segmentAt (segments : List Segment) (index : Nat) : Except Fault Segment :=
  match segments[index]? with
  | some s => .ok s
  | none => .error .outside

/-- The segments from one index up to another and with it. -/
def slice (segments : List Segment) (first last : Nat) : Except Fault (List Segment) :=
  if first ≤ last + 1 ∧ last < segments.length then .ok (segments.extract first (last + 1))
  else .error .outside

/-- The index of the last segment before `bound` that begins before the octet `stop`.  The segment at
`last` ends at `reached`. -/
def further (segments : List Segment) (bound stop last reached : Nat) : Except Fault Nat :=
  if stop > reached ∧ last + 1 < bound then do
    let s ← segmentAt segments (last + 1)
    let length ← Word.add s.rawLength 1
    let reached ← Word.add reached length
    further segments bound stop (last + 1) reached
  else .ok last
termination_by bound - last

/-- The segments under a value of `length` octets at the offset `start`, from `index` on and before
`bound`.  The segment at `index` begins at the offset `passed`. -/
def cover (segments : List Segment) (bound start length index passed : Nat) :
    Except Fault (List Segment) :=
  if index < bound then do
    let s ← segmentAt segments index
    let reached ← Word.add passed s.rawLength
    if start < reached then
      let stop ← Word.add start length
      -- Without octets, a value ends before it begins and covers one segment.
      let last ← further segments bound (stop - 1) index reached
      slice segments index last
    else if start = reached then .ok [s]
    else
      let passed ← Word.add reached 1
      cover segments bound start length (index + 1) passed
  else .ok []
termination_by bound - index

/-- Add the segments under a value of a name, if its start is there.  Values come with their
places. -/
def addValue (under : Text → Nat → Except Fault (List Segment)) (name : Text)
    (starts : List (Option Nat)) (spans : Multimap (List Segment)) (value : Option Text × Nat) :
    Except Fault (Multimap (List Segment)) :=
  match value.1, starts[value.2]? with
  | some value, some (some start) => do
      let run ← under value start
      .ok (spans.add name run)
  | _, _ => .ok spans

def bound (segments : List Segment) (offset count : Nat) : Nat :=
  min (Word.saturatingAdd offset count) segments.length

end SegmentWalk

def Bindings.walk (b : Bindings) (segments : List Segment) (offset count : Nat) :
    Except Fault (Multimap (List Segment)) :=
  let under value start := SegmentWalk.cover segments (SegmentWalk.bound segments offset count) start
    (Text.byteLength value) offset 0
  b.values.entries.foldlM (fun spans e =>
    e.2.zipIdx.foldlM (SegmentWalk.addValue under e.1 (b.starts.get e.1)) spans) .empty

def Matcher.walkSegments (m : Matcher) (segments : List Segment) (offset count : Nat) :
    Except TemplateError (Except Fault (Multimap (List Segment))) := do
  let b ← m.bindings
  .ok (b.walk segments offset count)

end PathTemplate
