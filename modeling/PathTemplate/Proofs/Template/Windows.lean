import PathTemplate.Template.SegmentWalk
import PathTemplate.Proofs.Template.Spans
import Mathlib.Algebra.Ring.Nat

/-!
# Windows — an offset and a count select a part of the segments

The walk by indices over the whole list finds what the list of the window has, and so it finds the
same when it is given the window alone.

- `Segment.extent`             : the octets of segments, each with a slash behind it
- `SegmentWalk.further_eq_ok`, `SegmentWalk.cover_eq_ok` : the segments under one value
- `SegmentWalk.foldlM_addValues_eq_ok` : the segments under the values of a name
- `Bindings.walk_eq_ok`        : the segments under all values
- `Matcher.window_spans`       : the segments under the values of a match
-/

namespace PathTemplate

open Matcher

/-- The octets of segments, each with a slash behind it. -/
def Segment.extent (segments : List Segment) : Nat := (segments.map fun s => s.rawLength + 1).sum

theorem Segment.extent_cons (s : Segment) (segments : List Segment) :
    extent (s :: segments) = s.rawLength + 1 + extent segments :=
  List.sum_cons

theorem Fault.ok_bind {α β : Type} (a : α) (f : α → Except Fault β) : (Except.ok a >>= f) = f a :=
  rfl

theorem Word.add_eq_ok {a b : Nat} (h : a + b < size) : add a b = .ok (a + b) := if_pos h

namespace SegmentWalk

variable {segments rest : List Segment} {s : Segment}
variable {upper start length stop index last passed reached : Nat}

/-! ## Windows of lists -/

/-- The first element of a window stands in the list at the index where the window begins. -/
theorem of_window_cons (h : (segments.take upper).drop index = s :: rest) :
    index < upper ∧ segmentAt segments index = .ok s ∧
      (segments.take upper).drop (index + 1) = rest := by
  have hs : (segments.take upper)[index]? = some s := by
    rw [← List.head?_drop, h, List.head?_cons]
  have hrest : (segments.take upper).drop (index + 1) = rest := by
    rw [← List.tail_drop, h, List.tail_cons]
  rw [List.getElem?_take] at hs
  split at hs
  case isTrue hlt => exact ⟨hlt, by rw [segmentAt, hs], hrest⟩
  case isFalse => cases hs

theorem of_window_nil (hupper : upper ≤ segments.length)
    (h : (segments.take upper).drop index = []) : upper ≤ index := by
  have hlength := List.drop_eq_nil_iff.mp h
  rwa [List.length_take, Nat.min_eq_left hupper] at hlength

/-- The first elements of a window are a slice of the list. -/
theorem slice_eq_ok (hupper : upper ≤ segments.length) {k : Nat} (hk : index + k < upper) :
    slice segments index (index + k) =
      .ok (((segments.take upper).drop index).take (k + 1)) := by
  have hinside : index ≤ index + k + 1 ∧ index + k < segments.length := by omega
  rw [slice, if_pos hinside, List.extract_eq_take_drop, List.drop_take, List.take_take]
  congr 2
  omega

/-! ## The segments under one value -/

theorem coverFurther_prefix (stop reached : Nat) (segments : List Segment) :
    coverFurther stop reached segments <+: segments := by
  induction segments generalizing reached with
  | nil => exact List.nil_prefix
  | cons s rest ih =>
      rw [coverFurther]
      split
      · exact List.cons_prefix_cons.mpr ⟨rfl, ih _⟩
      · exact List.nil_prefix

/-- The segments under a value stand in a row. -/
theorem coverFrom_infix (start length passed : Nat) (segments : List Segment) :
    coverFrom start length passed segments <:+: segments := by
  induction segments generalizing passed with
  | nil => exact List.nil_infix
  | cons s rest ih =>
      rw [coverFrom]
      split
      · exact (List.cons_prefix_cons.mpr ⟨rfl, coverFurther_prefix _ _ rest⟩).isInfix
      · split
        · exact (List.prefix_append [s] rest).isInfix
        · exact (ih _).trans (List.suffix_cons s rest).isInfix

/-- Going further by indices, one comes as far as in the rest of the window. -/
theorem further_eq_ok (hupper : upper ≤ segments.length)
    (hrest : (segments.take upper).drop (last + 1) = rest)
    (hfits : reached + Segment.extent rest < Word.size) :
    further segments upper stop last reached =
      .ok (last + (coverFurther stop reached rest).length) := by
  -- The invariant is `hrest`: what is left of the window stands behind the last segment taken.
  induction rest generalizing last reached with
  | nil =>
      have hend := of_window_nil hupper hrest
      rw [further, if_neg (by omega)]
      rfl
  | cons s rest ih =>
      obtain ⟨hlt, hs, hrest'⟩ := of_window_cons hrest
      rw [Segment.extent_cons] at hfits
      rw [further, coverFurther]
      by_cases hstop : reached < stop
      · have hlength : Word.add s.rawLength 1 = .ok (s.rawLength + 1) :=
          Word.add_eq_ok (by omega)
        have hreached : Word.add reached (s.rawLength + 1) = .ok (reached + s.rawLength + 1) :=
          Word.add_eq_ok (by omega)
        rw [if_pos ⟨hstop, hlt⟩, if_pos hstop, hs, Fault.ok_bind, hlength, Fault.ok_bind, hreached,
          Fault.ok_bind, ih hrest' (by omega), List.length_cons, Nat.add_assoc last,
          Nat.add_comm 1]
      · rw [if_neg (fun h => hstop h.1), if_neg hstop]
        rfl

/-- Walking by indices, one finds what the rest of the window has. -/
theorem cover_eq_ok (hupper : upper ≤ segments.length)
    (hrest : (segments.take upper).drop index = rest)
    (hvalue : start + length < Word.size) (hfits : passed + Segment.extent rest < Word.size) :
    cover segments upper start length index passed = .ok (coverFrom start length passed rest) := by
  induction rest generalizing index passed with
  | nil =>
      have hend := of_window_nil hupper hrest
      rw [cover, if_neg (by omega)]
      rfl
  | cons s rest ih =>
      obtain ⟨hlt, hs, hrest'⟩ := of_window_cons hrest
      rw [Segment.extent_cons] at hfits
      have hreached : Word.add passed s.rawLength = .ok (passed + s.rawLength) :=
        Word.add_eq_ok (by omega)
      rw [cover, if_pos hlt, hs, Fault.ok_bind, hreached, Fault.ok_bind, coverFrom]
      split
      case isTrue hstart =>
        -- The run begins the rest of the window, so its last index lies before the bound.
        have hprefix := coverFurther_prefix (start + length - 1) (passed + s.rawLength) rest
        have hlength : rest.length = upper - (index + 1) := by
          rw [← hrest', List.length_drop, List.length_take, Nat.min_eq_left hupper]
        have hlast := hprefix.length_le
        rw [Word.add_eq_ok hvalue, Fault.ok_bind, further_eq_ok hupper hrest' (by omega),
          Fault.ok_bind, slice_eq_ok hupper (by omega), hrest, List.take_succ_cons,
          ← List.prefix_iff_eq_take.mp hprefix]
      case isFalse hstart =>
        split
        · rfl
        · have hpassed : Word.add (passed + s.rawLength) 1 = .ok (passed + s.rawLength + 1) :=
            Word.add_eq_ok (by omega)
          rw [hpassed, Fault.ok_bind]
          exact ih hrest' (by omega)

/-! ## The segments under all values -/

/-- The values that are bound, each with its start. -/
def placedPairs (values : List (Option Text)) (starts : List (Option Nat)) : List (Text × Nat) :=
  (values.zip starts).filterMap fun
    | (some value, some start) => some (value, start)
    | _ => none

def placedPair (value : Option Text) (start : Option (Option Nat)) : List (Text × Nat) :=
  match value, start with
  | some value, some (some start) => [(value, start)]
  | _, _ => []

theorem placedPairs_cons (value : Option Text) (values : List (Option Text))
    (starts : List (Option Nat)) (k : Nat) :
    placedPairs (value :: values) (starts.drop k) =
      placedPair value starts[k]? ++ placedPairs values (starts.drop (k + 1)) := by
  rw [← List.head?_drop, ← List.tail_drop]
  cases starts.drop k with
  -- Without a start behind it, no value is placed.
  | nil => cases value <;> simp [placedPairs, placedPair]
  | cons start rest => rcases value with _ | v <;> rcases start with _ | s <;> rfl

variable {under : Text → Nat → Except Fault (List Segment)} {found : Text × Nat → List Segment}

theorem addValue_eq_ok {value : Option Text} {k : Nat} (name : Text) (starts : List (Option Nat))
    (h : ∀ p ∈ placedPair value starts[k]?, under p.1 p.2 = .ok (found p))
    (spans : Multimap (List Segment)) :
    addValue under name starts spans (value, k) =
      .ok (spans.extend ((placedPair value starts[k]?).map fun p => (name, found p))) := by
  rw [addValue]
  generalize starts[k]? = start at h ⊢
  match value, start with
  | none, _ => rfl
  | some v, none => rfl
  | some v, some none => rfl
  | some v, some (some s) =>
      have hv : under v s = .ok (found (v, s)) := h (v, s) (List.mem_singleton_self _)
      dsimp only
      rw [hv]
      rfl

/-- Values and starts are read off at the same place, so side by side. -/
theorem foldlM_addValue_eq_ok {values : List (Option Text)} {k : Nat} (name : Text)
    (starts : List (Option Nat))
    (h : ∀ p ∈ placedPairs values (starts.drop k), under p.1 p.2 = .ok (found p))
    (spans : Multimap (List Segment)) :
    (values.zipIdx k).foldlM (addValue under name starts) spans =
      .ok (spans.extend ((placedPairs values (starts.drop k)).map fun p => (name, found p))) := by
  induction values generalizing k spans with
  | nil => rfl
  | cons value values ih =>
      rw [placedPairs_cons] at h ⊢
      obtain ⟨hvalue, hvalues⟩ := List.forall_mem_append.mp h
      rw [List.zipIdx_cons, List.foldlM_cons, addValue_eq_ok name starts hvalue, Fault.ok_bind,
        ih hvalues, List.map_append, Multimap.extend_append]

theorem foldlM_addValues_eq_ok {b : Bindings} {entries : List (Text × List (Option Text))}
    (h : ∀ e ∈ entries, ∀ p ∈ placedPairs e.2 (b.starts.get e.1), under p.1 p.2 = .ok (found p))
    (spans : Multimap (List Segment)) :
    entries.foldlM (fun spans e =>
        e.2.zipIdx.foldlM (addValue under e.1 (b.starts.get e.1)) spans) spans =
      .ok (spans.extend (entries.flatMap fun e =>
        (placedPairs e.2 (b.starts.get e.1)).map fun p => (e.1, found p))) := by
  induction entries generalizing spans with
  | nil => rfl
  | cons e entries ih =>
      obtain ⟨he, hentries⟩ := List.forall_mem_cons.mp h
      have hfirst := foldlM_addValue_eq_ok (k := 0) e.1 (b.starts.get e.1) he spans
      rw [List.foldlM_cons, hfirst, Fault.ok_bind, ih hentries, List.flatMap_cons,
        Multimap.extend_append, List.drop_zero]

end SegmentWalk

open SegmentWalk

/-- A value and its start are related, if all values and starts are. -/
theorem Bindings.Aligned.of_mem_placed {R : Text → Option Text → Option Nat → Prop} {b : Bindings}
    (hb : b.Aligned R) {name : Text} {p : Text × Nat} (hp : p ∈ b.placed name) :
    R name (some p.1) (some p.2) := by
  obtain ⟨⟨_ | v, _ | s⟩, hmem, hp⟩ := List.mem_filterMap.mp hp
  all_goals cases hp
  exact (List.forall₂_iff_zip.mp (hb name)).2 hmem

theorem Matcher.spansOf_eq_ofPairs (b : Bindings) (segments : List Segment) (offset count : Nat) :
    spansOf b segments offset count =
      .ofPairs (b.values.entries.flatMap fun e =>
        (placedPairs e.2 (b.starts.get e.1)).map fun p =>
          (e.1, coverFrom p.2 p.1.byteLength 0 (window segments offset count))) := by
  rw [spansOf, List.flatMap_def, List.flatMap_def]
  refine congrArg (Multimap.ofPairs ∘ List.flatten) (List.map_congr_left fun e _ => ?_)
  rw [placedPairs, List.map_filterMap]
  refine List.filterMap_congr fun p _ => ?_
  rcases p with ⟨_ | v, _ | start⟩ <;> rfl

/-- The walk ends where the window does. -/
theorem SegmentWalk.take_bound {segments : List Segment} (hsize : segments.length < Word.size)
    (offset count : Nat) :
    (segments.take (bound segments offset count)).drop offset = window segments offset count := by
  rw [window]
  refine congrArg (List.drop offset) (List.take_eq_take_iff.mpr ?_)
  rw [bound, Word.saturatingAdd]
  omega

theorem SegmentWalk.extract_bound {segments : List Segment} {offset count : Nat}
    (hsize : segments.length < Word.size) :
    segments.extract offset (bound segments offset count) = window segments offset count := by
  rw [← take_bound hsize, List.extract_eq_take_drop, List.drop_take]

/-- The walk finds the segments of the window, if the octets of the window and the ends of the values
fit a word. -/
theorem Bindings.walk_eq_ok {b : Bindings} (hb : b.values.keys.Nodup) {segments : List Segment}
    {offset count : Nat} (hsize : segments.length < Word.size)
    (hfits : Segment.extent (window segments offset count) < Word.size)
    (hvalues : ∀ name, ∀ p ∈ b.placed name, p.2 + p.1.byteLength < Word.size) :
    b.walk segments offset count = .ok (spansOf b segments offset count) := by
  rw [spansOf_eq_ofPairs]
  refine foldlM_addValues_eq_ok (fun e he p hp => ?_) .empty
  have hplaced : p ∈ b.placed e.1 := by
    rw [← Multimap.get_of_mem hb he] at hp
    exact hp
  exact cover_eq_ok (Nat.min_le_right _ _) (take_bound hsize offset count) (hvalues e.1 p hplaced)
    (by rwa [Nat.zero_add])

namespace Matcher

theorem window_sublist (segments : List Segment) (offset count : Nat) :
    List.Sublist (window segments offset count) segments :=
  (List.drop_sublist _ _).trans (List.take_sublist _ _)

/-- The spans depend on the window alone. -/
theorem spansOf_congr (b : Bindings) {segments part : List Segment} {offset count offset' count' : Nat}
    (h : window part offset' count' = window segments offset count) :
    spansOf b part offset' count' = spansOf b segments offset count := by
  rw [spansOf, spansOf, h]

/-- What is recorded for a value is a run of segments of the window. -/
theorem infix_of_mem_spansOf {b : Bindings} {segments : List Segment} {offset count : Nat}
    {e : Text × List (List Segment)} {run : List Segment}
    (he : e ∈ (spansOf b segments offset count).entries) (hrun : run ∈ e.2) :
    run <:+: window segments offset count := by
  rw [spansOf_eq_ofPairs] at he
  obtain ⟨_, -, hp⟩ := List.mem_flatMap.mp (Multimap.mem_of_mem_entries_ofPairs he hrun)
  obtain ⟨p, -, heq⟩ := List.mem_map.mp hp
  obtain ⟨-, rfl⟩ := Prod.mk.inj heq
  exact coverFrom_infix _ _ _ _

/-- The values of a match end within the path. -/
theorem placed_le_byteLength {t : Template} (hwell : t.WellFormed) {trace : Trace} {path : Text}
    (h : t.regex.search path = some trace) {name : Text} {p : Text × Nat}
    (hp : p ∈ (t.bindings trace path).placed name) : p.2 + p.1.byteLength ≤ path.byteLength := by
  obtain ⟨start, hstart, e, he, captured, hcapture, hgives⟩ :=
    (Template.aligned_bindings hwell h).of_mem_placed hp p.1 rfl
  obtain ⟨before, after, rfl, hbefore⟩ := e.occursAt_of_captureIn hcapture
  have hinside := Text.byteLength_infix_le (e.infix_of_mem_gives (hwell.built e he) hgives)
  obtain rfl := Option.some.inj hstart
  rw [Text.byteLength_append, Text.byteLength_append, hbefore]
  omega

/-- The segments under the values of a match are found by indices that stay in the list and by sums
that fit a word.  They are those that are found in the part of the list from the offset up to the
offset and the count, and the segments under each value are a run of this part. -/
theorem window_spans {text : Text} {o : CompileOptions} (m : Matcher)
    (ht : (Template.compileWith text o).value = .ok m.template) {path : Text} {m' : Matcher}
    (hrun : (m.run path).value = (true, m')) (hpath : path.byteLength < Word.size)
    (segments : List Segment) (offset count : Nat) (hsize : segments.length < Word.size)
    (hfits : Segment.extent
      (segments.extract offset (min (Word.saturatingAdd offset count) segments.length)) < Word.size) :
    ∃ part spans,
      part = segments.extract offset (min (Word.saturatingAdd offset count) segments.length) ∧
      m'.walkSegments segments offset count = .ok (.ok spans) ∧
      m'.spannedSegments segments offset count = .ok spans ∧
      m'.walkSegments part 0 part.length = .ok (.ok spans) ∧
      m'.spannedSegments part 0 part.length = .ok spans ∧
      ∀ e ∈ spans.entries, ∀ run ∈ e.2, run <:+: part := by
  rcases Template.wellFormed_of_compileWith ht with ⟨hwell, -⟩
  rcases matched_of_run hrun with ⟨trace, htrace, rfl⟩
  have hpart : segments.extract offset
      (min (Word.saturatingAdd offset count) segments.length) = window segments offset count :=
    extract_bound hsize
  rw [hpart] at hfits ⊢
  have hnodup := m.template.nodup_keys_bindings trace path
  have hvalues : ∀ name, ∀ p ∈ (m.template.bindings trace path).placed name,
      p.2 + p.1.byteLength < Word.size := by
    intro name p hp
    exact Nat.lt_of_le_of_lt (placed_le_byteLength hwell htrace hp) hpath
  have hwhole := window_self (window segments offset count)
  have hshorter : (window segments offset count).length < Word.size :=
    Nat.lt_of_le_of_lt (window_sublist segments offset count).length_le hsize
  -- The window of the window is the window, so both walks find the same spans.
  have hsame := spansOf_congr (m.template.bindings trace path) hwhole
  have hwalk := Bindings.walk_eq_ok hnodup hsize hfits hvalues
  have hwalk' := Bindings.walk_eq_ok hnodup hshorter (by rwa [hwhole]) hvalues
  rw [hsame] at hwalk'
  refine ⟨_, _, rfl, congrArg Except.ok hwalk, rfl, congrArg Except.ok hwalk',
    congrArg Except.ok hsame, fun e he run hrun => infix_of_mem_spansOf he hrun⟩

theorem window_spans_saturated :
    ∃ t m' spans,
      (Template.compileWith "a/{x}/{y:[^:]*}".toList {}).value = .ok t ∧
      (t.matcher.run "a/b;c=d/e/f".toList).value = (true, m') ∧
      m'.walkSegments (splitPath "a/b;c=d/e/f".toList) 1 (Word.size - 1) = .ok (.ok spans) ∧
      spans.entries = [(['x'], [[.parse "b;c=d".toList, .parse ['e']]]), (['y'], [[.parse ['f']]])] := by
  let path := "a/b;c=d/e/f".toList
  have hok : (Template.compileWith "a/{x}/{y:[^:]*}".toList {}).value.toOption.any (fun t =>
      (t.regex.search path).any fun trace =>
        decide ((spansOf (t.bindings trace path) (splitPath path) 1 (Word.size - 1)).entries =
          [(['x'], [[.parse "b;c=d".toList, .parse ['e']]]), (['y'], [[.parse ['f']]])])) = true := by
    decide +kernel
  rcases exists_ok_of_any hok with ⟨t, ht, hsearch⟩
  rcases Option.any_eq_true _ _ |>.mp hsearch with ⟨trace, htrace, hspans⟩
  have hmatch : (t.matcher.run path).value = (true, ⟨t, path, some trace⟩) := by
    simp [run, Template.matcher, htrace]
  obtain ⟨_, spans, rfl, hwalk, hfound, -⟩ := window_spans t.matcher ht hmatch (by decide +kernel)
    (splitPath path) 1 (Word.size - 1) (by decide +kernel) (by decide +kernel)
  cases hfound
  exact ⟨t, _, _, ht, hmatch, hwalk, of_decide_eq_true hspans⟩

end Matcher
end PathTemplate
