import Mathlib.Data.List.DropRight
import PathTemplate.Proofs.DotSegments

/-!
# Rewriting — dot segments by rules on the text

The syntax of URIs defines the removal of dot segments without a stack: the beginning of an input
buffer is rewritten, or moved to an output buffer, until nothing is left.  For a path that begins
with a slash, this gives what the stack of segments gives.

- `DotSegments.Buffers.step` : one of the five rules
- `DotSegments.rewrite`      : the rules in turn, up to the end of the input
- `DotSegments.slashed`      : segments with a slash in front of each
- `DotSegments.step_slashed` : a step takes one segment from the input, and pushes it
- `DotSegments.run_slashed`  : and so do all steps
- `DotSegments.rewrite_eq_normalize` : both removals agree
-/

namespace PathTemplate
namespace DotSegments

variable {segments stack : List Text} {s t u : Text}

/-! ## The rules -/

structure Buffers where
  input : Text
  output : Text

/-- The text without its last segment and the slash in front of it, if there is one. -/
def dropSegment (t : Text) : Text := (t.rdropWhile (· != '/')).dropLast

namespace Buffers

/-- The first rule that applies to the beginning of the input. -/
def step (b : Buffers) : Buffers :=
  -- A relative dot segment at the beginning is taken away.
  if "../".toList <+: b.input then { b with input := b.input.drop 3 }
  else if "./".toList <+: b.input then { b with input := b.input.drop 2 }
  -- A segment of the current directory becomes a slash.
  else if "/./".toList <+: b.input then { b with input := '/' :: b.input.drop 3 }
  else if b.input = "/.".toList then { b with input := ['/'] }
  -- So does one of the parent directory, which takes a segment from the output.
  else if "/../".toList <+: b.input then ⟨'/' :: b.input.drop 4, dropSegment b.output⟩
  else if b.input = "/..".toList then ⟨['/'], dropSegment b.output⟩
  -- A dot segment that is all of the input is taken away.
  else if b.input = dot ∨ b.input = dotDot then { b with input := [] }
  -- Otherwise the first segment is moved, with the slash in front of it if there is one.
  else
    match b.input with
    | [] => b
    | c :: t => ⟨t.dropWhile (· != '/'), b.output ++ c :: t.takeWhile (· != '/')⟩

theorem length_drop_lt {t : Text} (ht : t ≠ []) (n : Nat) : (t.drop (n + 1)).length < t.length := by
  have hpos := List.length_pos_of_ne_nil ht
  rw [List.length_drop]
  omega

theorem length_cons_drop_lt {u t : Text} (h : u <+: t) (hu : 2 ≤ u.length) :
    ('/' :: t.drop u.length).length < t.length := by
  have hlength := h.length_le
  rw [List.length_cons, List.length_drop]
  omega

/-- Every rule shortens the input. -/
theorem length_step_lt (b : Buffers) (h : b.input ≠ []) :
    b.step.input.length < b.input.length := by
  unfold step
  split_ifs with h₁ h₂ h₃ h₄ h₅ h₆ h₇
  · exact length_drop_lt h 2
  · exact length_drop_lt h 1
  · exact length_cons_drop_lt h₃ (by decide)
  · simp [h₄]
  · exact length_cons_drop_lt h₅ (by decide)
  · simp [h₆]
  · exact List.length_pos_of_ne_nil h
  · split
    case h_1 hnil => exact absurd hnil h
    case h_2 c t hcons =>
      rw [hcons]
      exact Nat.lt_succ_of_le (List.length_dropWhile_le _ t)

def run (b : Buffers) : Text :=
  if b.input = [] then b.output else b.step.run
termination_by b.input.length
decreasing_by exact length_step_lt b ‹_›

theorem run_of_eq_nil {b : Buffers} (h : b.input = []) : b.run = b.output := by
  rw [run, if_pos h]

theorem run_of_ne_nil {b : Buffers} (h : b.input ≠ []) : b.run = b.step.run := by
  rw [run, if_neg h]

end Buffers

def rewrite (path : Text) : Text := Buffers.run ⟨path, []⟩

/-! ## Segments as text -/

def slashed (segments : List Text) : Text := segments.flatMap fun s => '/' :: s

theorem slashed_nil : slashed [] = [] := rfl

theorem slashed_cons (s : Text) (segments : List Text) :
    slashed (s :: segments) = '/' :: (s ++ slashed segments) :=
  List.flatMap_cons

theorem slashed_append (segments segments' : List Text) :
    slashed (segments ++ segments') = slashed segments ++ slashed segments' :=
  List.flatMap_append

theorem slashed_eq_join (h : segments ≠ []) :
    slashed segments = '/' :: Text.join ['/'] segments := by
  obtain ⟨s, segments, rfl⟩ := List.exists_cons_of_ne_nil h
  rw [Text.join_cons, slashed_cons]
  rfl

/-- The first segment ends where the next one begins. -/
theorem span_slashed (hs : '/' ∉ s) (segments : List Text) :
    (s ++ slashed segments).takeWhile (· != '/') = s ∧
      (s ++ slashed segments).dropWhile (· != '/') = slashed segments := by
  have hall := Text.bne_of_notMem hs
  cases segments with
  | nil =>
      rw [slashed, List.flatMap_nil, List.append_nil]
      exact ⟨List.takeWhile_eq_self_iff.mpr hall, List.dropWhile_eq_nil_iff.mpr hall⟩
  | cons r segments =>
      rw [slashed_cons]
      exact Reader.span_append_cons hall (by decide)

/-- A text of segments begins with no other segment than the first one. -/
theorem not_prefix_slashed (hs : '/' ∉ s) (ht : '/' ∉ t) (hne : s ≠ t) :
    ¬ '/' :: (t ++ ['/']) <+: slashed (s :: segments) := by
  rintro ⟨u, hu⟩
  rw [slashed_cons] at hu
  have hrest : t ++ '/' :: u = s ++ slashed segments := by simpa using hu
  have hfirst : (t ++ '/' :: u).takeWhile (· != '/') = t :=
    (Reader.span_append_cons (Text.bne_of_notMem ht) (by decide)).1
  rw [hrest, (span_slashed hs segments).1] at hfirst
  exact hne hfirst

theorem slashed_ne (hs : '/' ∉ s) (ht : '/' ∉ t) (hne : s ≠ t) :
    slashed (s :: segments) ≠ '/' :: t := by
  intro h
  rw [slashed_cons] at h
  have hrest : s ++ slashed segments = t ++ slashed [] := by simpa [slashed] using h
  have hfirst := (span_slashed hs segments).1
  rw [hrest, (span_slashed ht []).1] at hfirst
  exact hne hfirst.symm

/-- The last segment is the one on top of the stack. -/
theorem dropSegment_slashed (hstack : ∀ s ∈ stack, '/' ∉ s) :
    dropSegment (slashed stack.reverse) = slashed stack.tail.reverse := by
  cases stack with
  | nil => rfl
  | cons top below =>
      -- Read from the end, the text has the top first, and then the slash in front of it.
      have hall : ∀ c ∈ top.reverse, (c != '/') = true := by
        simpa using Text.bne_of_notMem (hstack top List.mem_cons_self)
      have hreverse : (slashed (top :: below).reverse).reverse =
          top.reverse ++ '/' :: (slashed below.reverse).reverse := by
        rw [List.reverse_cons, slashed_append]
        simp [slashed]
      rw [dropSegment, List.rdropWhile, hreverse, (Reader.span_append_cons hall (by decide)).2]
      simp

/-! ## A step is a push -/

/-- The segments on the stack of a path that begins with a slash: no `..` ever stays there. -/
def IsStack (stack : List Text) : Prop := ∀ s ∈ stack, '/' ∉ s ∧ s ≠ dotDot

/-- A `..` takes the top away. -/
theorem IsStack.push_dotDot (hstack : IsStack stack) :
    DotSegments.push true stack dotDot = stack.tail := by
  rw [DotSegments.push.eq_def, if_neg (by decide), if_pos rfl]
  cases stack with
  | nil => rfl
  | cons top below => exact if_pos (hstack top List.mem_cons_self).2

theorem IsStack.push (hstack : IsStack stack) (hs : '/' ∉ s) :
    IsStack (DotSegments.push true stack s) := by
  cases hplain : isDots s with
  | true =>
      rcases isDots_iff.mp hplain with rfl | rfl
      · exact hstack
      · rw [hstack.push_dotDot]
        exact fun r hr => hstack r (List.mem_of_mem_tail hr)
  | false =>
      rw [push_of_not_isDots true stack hplain]
      exact List.forall_mem_cons.mpr ⟨⟨hs, (isDots_eq_false_iff.mp hplain).2⟩, hstack⟩

def buffers (segments stack : List Text) : Buffers := ⟨slashed segments, slashed stack.reverse⟩

/-- Only the last rule applies where the first segment is not a dot segment. -/
theorem step_of_not_isDots (hplain : isDots s = false) (hs : '/' ∉ s) :
    (buffers (s :: segments) stack).step = buffers segments (s :: stack) := by
  obtain ⟨hdot, hdots⟩ := isDots_eq_false_iff.mp hplain
  obtain ⟨hsegment, hrest⟩ := span_slashed hs segments
  -- The input begins with a slash, and not with a dot.
  have hrelative : ∀ u, ¬ '.' :: u <+: slashed (s :: segments) := by
    intro u hbegins
    rw [slashed_cons] at hbegins
    exact absurd (List.cons_prefix_cons.mp hbegins).1 (by decide)
  unfold Buffers.step
  split_ifs with h₁ h₂ h₃ h₄ h₅ h₆ h₇
  · exact absurd h₁ (hrelative _)
  · exact absurd h₂ (hrelative _)
  · exact absurd h₃ (not_prefix_slashed (t := dot) hs (by decide) hdot)
  · exact absurd h₄ (slashed_ne (t := dot) hs (by decide) hdot)
  · exact absurd h₅ (not_prefix_slashed (t := dotDot) hs (by decide) hdots)
  · exact absurd h₆ (slashed_ne (t := dotDot) hs (by decide) hdots)
  · exact absurd h₇ (by simp [buffers, slashed_cons, dot, dotDot])
  · have hinput : (buffers (s :: segments) stack).input = '/' :: (s ++ slashed segments) :=
      slashed_cons s segments
    rw [hinput]
    simp [hsegment, hrest, buffers, slashed_append, slashed_cons, slashed_nil]

/-- One step takes the first segment from the input, and pushes it.  Where a dot segment is the
last, an empty segment is left. -/
theorem step_slashed (hstack : IsStack stack) (hs : '/' ∉ s) :
    (buffers (s :: segments) stack).step =
      buffers (if segments = [] ∧ isDots s = true then [[]] else segments) (push true stack s) := by
  cases hplain : isDots s with
  | false =>
      rw [push_of_not_isDots true stack hplain, step_of_not_isDots hplain hs]
      simp
  | true =>
      rcases isDots_iff.mp hplain with rfl | rfl
      · cases segments with
        | nil => rfl
        | cons r segments => simp [buffers, Buffers.step, slashed_cons, dot, push]
      · rw [hstack.push_dotDot]
        have hdrop := dropSegment_slashed fun s hs => (hstack s hs).1
        cases segments with
        | nil => simp [buffers, Buffers.step, slashed_cons, slashed_nil, dotDot, hdrop]
        | cons r segments => simp [buffers, Buffers.step, slashed_cons, dotDot, hdrop]

theorem input_buffers_cons_ne_nil (s : Text) (segments stack : List Text) :
    (buffers (s :: segments) stack).input ≠ [] := by
  rw [buffers, slashed_cons]
  exact List.cons_ne_nil _ _

/-- All segments are pushed in turn, and behind a dot segment at the end an empty one. -/
theorem run_slashed (hstack : IsStack stack) (hsegments : ∀ s ∈ segments, '/' ∉ s) :
    (buffers segments stack).run =
      slashed (if segments.getLast?.any isDots then [] :: segments.foldl (push true) stack
        else segments.foldl (push true) stack).reverse := by
  -- The stack is the output, and `IsStack` is what each step keeps of it.
  induction segments generalizing stack with
  | nil => exact Buffers.run_of_eq_nil rfl
  | cons s segments ih =>
      obtain ⟨hs, hsegments⟩ := List.forall_mem_cons.mp hsegments
      have hpushed := hstack.push hs
      rw [Buffers.run_of_ne_nil (input_buffers_cons_ne_nil s segments stack),
        step_slashed hstack hs]
      by_cases hlast : segments = [] ∧ isDots s = true
      · -- The empty segment that is left is no dot segment: it takes one more step.
        obtain ⟨rfl, hdots⟩ := hlast
        rw [if_pos ⟨rfl, hdots⟩, Buffers.run_of_ne_nil (input_buffers_cons_ne_nil _ _ _),
          step_of_not_isDots rfl List.not_mem_nil, Buffers.run_of_eq_nil rfl]
        simp [buffers, hdots]
      · have hget : (s :: segments).getLast?.any isDots = segments.getLast?.any isDots := by
          cases segments with
          | nil => simpa using hlast
          | cons r segments => rw [List.getLast?_cons_cons]
        rw [if_neg hlast, ih hpushed hsegments, hget, List.foldl_cons]

/-! ## Both removals -/

/-- The path without its dot segments, also where it has none. -/
theorem remove_slash (rest : Text) :
    remove ('/' :: rest) = '/' :: Text.join ['/'] (resolve true (Text.split '/' rest)) := by
  have hsplit : Text.split '/' ('/' :: rest) = [] :: Text.split '/' rest := by
    rw [Text.split, if_pos rfl]
  rw [remove, hsplit]
  split
  case isTrue => rfl
  case isFalse hnone =>
    have hplain : ∀ s ∈ Text.split '/' rest, isDots s = false := by
      intro s hs
      simp only [List.any_eq_true, not_exists, not_and, Bool.not_eq_true] at hnone
      exact hnone s (List.mem_cons_of_mem _ hs)
    rw [resolve_of_not_isDots true hplain, Text.join_split]

/-- For a path that begins with a slash the rules remove the same segments as the stack, also where
segments are empty, where a `..` has no parent, and where a dot segment is the last.  A normalized
path is then the one of the rules without its slash at the beginning. -/
theorem rewrite_eq_normalize (rest : Text) :
    rewrite ('/' :: rest) = '/' :: normalize ('/' :: rest) := by
  have hne := Text.split_ne_nil '/' rest
  have hinput : slashed (Text.split '/' rest) = '/' :: rest := by
    rw [slashed_eq_join hne, Text.join_split]
  have hsegments : ∀ s ∈ Text.split '/' rest, '/' ∉ s := fun _ hs => Text.notMem_of_mem_split hs
  have hempty : IsStack [] := List.forall_mem_nil _
  have hrun := run_slashed hempty hsegments
  rw [buffers, hinput] at hrun
  rw [normalize, remove_slash]
  calc rewrite ('/' :: rest)
    _ = slashed (resolve true (Text.split '/' rest)) := hrun
    _ = '/' :: Text.join ['/'] (resolve true (Text.split '/' rest)) :=
        slashed_eq_join (resolve_ne_nil true hne)
    _ = '/' :: Text.dropLeading '/' ('/' :: _) := by rw [Text.dropLeading, if_pos rfl]

/-- An empty segment is a parent like any other, and the root is its own parent. -/
example : rewrite "/a//../../../b/.".toList = "/b/".toList := by decide +kernel

end DotSegments
end PathTemplate
