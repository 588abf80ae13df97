import PathTemplate.Proofs.Template.Starts

/-!
# Spans — the segments of the path under the values of a match

- `Segment.begins`, `Holds`, `Ends` : the octets of the path that belong to a segment
- `Segment.exists_append_begins`    : the segments of a path stand where they begin
- `Segment.ends_iff`                : they end in front of slashes, and with the path
- `Matcher.coverFrom_eq_run`, `Matcher.coverFrom_eq_singleton` : the segments under a value
- `Bindings.placed`        : the bound values of a name and their starts
- `Matcher.spans_of_run`   : the segments under the values of a match in the simple dialect

A slash counts with the segment in front of it, so that a segment holds one octet more than its text
has; the last one holds the end of the path.
-/

namespace PathTemplate

/-! ## The octets of segments -/

namespace Segment

/-- The octet at which a segment begins: behind those before it and their slashes. -/
def begins : List Segment → Nat → Nat
  | s :: segments, k + 1 => s.rawLength + 1 + begins segments k
  | _, _ => 0

/-- The segment `k` holds the octet `i`, be it as the slash behind it. -/
def Holds (segments : List Segment) (k i : Nat) : Prop :=
  ∃ s, segments[k]? = some s ∧ begins segments k ≤ i ∧ i ≤ begins segments k + s.rawLength

/-- The segment `k` has the octet `i` in its text. -/
def Contains (segments : List Segment) (k i : Nat) : Prop :=
  ∃ s, segments[k]? = some s ∧ begins segments k ≤ i ∧ i < begins segments k + s.rawLength

/-- The segment `k` ends at the octet `i`: with the slash behind it, or with the path. -/
def Ends (segments : List Segment) (k i : Nat) : Prop :=
  ∃ s, segments[k]? = some s ∧ i = begins segments k + s.rawLength

variable {s : Segment} {segments : List Segment} {path v : Text} {i j k l start : Nat}

theorem begins_cons_succ (s : Segment) (segments : List Segment) (k : Nat) :
    begins (s :: segments) (k + 1) = s.rawLength + 1 + begins segments k :=
  rfl

theorem holds_cons_zero : Holds (s :: segments) 0 i ↔ i ≤ s.rawLength := by
  simp [Holds, begins]

theorem holds_cons_succ :
    Holds (s :: segments) (k + 1) i ↔
      s.rawLength < i ∧ Holds segments k (i - (s.rawLength + 1)) := by
  simp only [Holds, begins_cons_succ, List.getElem?_cons_succ]
  constructor
  · rintro ⟨s', hs', hle, hge⟩
    exact ⟨by omega, s', hs', by omega, by omega⟩
  · rintro ⟨hlt, s', hs', hle, hge⟩
    exact ⟨s', hs', by omega, by omega⟩

theorem contains_cons_zero : Contains (s :: segments) 0 i ↔ i < s.rawLength := by
  simp [Contains, begins]

theorem contains_cons_succ :
    Contains (s :: segments) (k + 1) i ↔
      s.rawLength < i ∧ Contains segments k (i - (s.rawLength + 1)) := by
  simp only [Contains, begins_cons_succ, List.getElem?_cons_succ]
  constructor
  · rintro ⟨s', hs', hle, hlt⟩
    exact ⟨by omega, s', hs', by omega, by omega⟩
  · rintro ⟨hlt, s', hs', hle, hlt'⟩
    exact ⟨s', hs', by omega, by omega⟩

theorem Contains.holds (h : Contains segments k i) : Holds segments k i := by
  obtain ⟨s, hs, hbegins, hlt⟩ := h
  exact ⟨s, hs, hbegins, Nat.le_of_lt hlt⟩

theorem Contains.holds_succ (h : Contains segments k i) : Holds segments k (i + 1) := by
  obtain ⟨s, hs, hbegins, hlt⟩ := h
  exact ⟨s, hs, Nat.le_succ_of_le hbegins, hlt⟩

/-- An octet of a segment is in its text, or it ends the segment. -/
theorem Holds.contains_or_ends (h : Holds segments k i) :
    Contains segments k i ∨ Ends segments k i := by
  obtain ⟨s, hs, hbegins, hle⟩ := h
  rcases Nat.lt_or_eq_of_le hle with hlt | heq
  · exact .inl ⟨s, hs, hbegins, hlt⟩
  · exact .inr ⟨s, hs, heq⟩

/-- Every octet up to the end of the path belongs to a segment. -/
theorem exists_holds (h : i < begins segments segments.length) : ∃ k, Holds segments k i := by
  induction segments generalizing i with
  | nil => exact absurd h (Nat.not_lt_zero i)
  | cons s segments ih =>
      by_cases hi : i ≤ s.rawLength
      · exact ⟨0, holds_cons_zero.mpr hi⟩
      · rw [List.length_cons, begins_cons_succ] at h
        obtain ⟨k, hk⟩ := ih (i := i - (s.rawLength + 1)) (by omega)
        exact ⟨k + 1, holds_cons_succ.mpr ⟨by omega, hk⟩⟩

/-- An octet belongs to one segment only. -/
theorem Holds.unique (hk : Holds segments k i) (hl : Holds segments l i) : k = l := by
  induction segments generalizing k l i with
  | nil =>
      obtain ⟨_, hs, -⟩ := hk
      cases hs
  | cons s segments ih =>
      cases k with
      | zero =>
          cases l with
          | zero => rfl
          | succ l =>
              have := holds_cons_zero.mp hk
              have := (holds_cons_succ.mp hl).1
              omega
      | succ k =>
          cases l with
          | zero =>
              have := holds_cons_zero.mp hl
              have := (holds_cons_succ.mp hk).1
              omega
          | succ l =>
              exact congrArg (· + 1) (ih (holds_cons_succ.mp hk).2 (holds_cons_succ.mp hl).2)

/-- The segments before the one that holds an octet end before it. -/
theorem Holds.lt_of_lt (h : Holds segments k i) (hl : l < k) (hs : segments[l]? = some s) :
    begins segments l + s.rawLength < i := by
  induction segments generalizing k l i with
  | nil => cases hs
  | cons s' segments ih =>
      cases k with
      | zero => exact absurd hl (Nat.not_lt_zero l)
      | succ k =>
          obtain ⟨hlt, h⟩ := holds_cons_succ.mp h
          cases l with
          | zero =>
              cases hs
              simpa [begins] using hlt
          | succ l =>
              have := ih h (Nat.lt_of_succ_lt_succ hl) hs
              rw [begins_cons_succ]
              omega

/-! ## The segments of a path -/

/-- Each of joined pieces stands where its segment begins, and behind it a slash or nothing. -/
theorem exists_append_of_join {ps : List Text} {p : Text} (h : ps[k]? = some p) :
    ∃ before after, Text.join ['/'] ps = before ++ p ++ after ∧
      before.byteLength = begins (ps.map parse) k ∧ (after = [] ∨ after.head? = some '/') := by
  induction ps generalizing k with
  | nil => cases h
  | cons q ps ih =>
      cases k with
      | zero =>
          cases h
          cases ps with
          | nil => exact ⟨[], [], by simp [Text.join], rfl, .inl rfl⟩
          | cons r ps =>
              exact ⟨[], '/' :: Text.join ['/'] (r :: ps), by simp [Text.join], rfl, .inr rfl⟩
      | succ k =>
          have hne : ps ≠ [] := by
            rintro rfl
            cases h
          obtain ⟨before, after, hjoin, hbefore, hafter⟩ := ih h
          refine ⟨q ++ '/' :: before, after, ?_, ?_, hafter⟩
          · rw [Text.join_cons_of_ne_nil _ _ hne, hjoin]
            simp
          · rw [List.map_cons, begins_cons_succ, Text.byteLength_append, Text.byteLength_cons,
              hbefore]
            simp only [parse]
            rw [show '/'.utf8Size = 1 from rfl]
            omega

theorem begins_length {ps : List Text} (h : ps ≠ []) :
    begins (ps.map parse) ps.length = (Text.join ['/'] ps).byteLength + 1 := by
  induction ps with
  | nil => exact absurd rfl h
  | cons p ps ih =>
      rw [List.map_cons, List.length_cons, begins_cons_succ]
      cases ps with
      | nil => simp [begins, Text.join, parse]
      | cons q ps =>
          rw [ih (List.cons_ne_nil q ps), Text.join_cons_of_ne_nil _ _ (List.cons_ne_nil q ps)]
          simp only [parse, Text.byteLength_append, Text.byteLength_cons, Text.byteLength_nil]
          rw [show '/'.utf8Size = 1 from rfl]
          omega

theorem splitPath_eq (h : path.head? ≠ some '/') :
    splitPath path = (path.split '/').map parse := by
  cases path with
  | nil => rfl
  | cons c path =>
      have hc : c ≠ '/' := fun hc => h (congrArg some hc)
      rw [splitPath, Text.dropLeading, if_neg hc]

/-- The segments of a path stand where they begin, and behind each a slash or nothing.  They have no
slash themselves. -/
theorem exists_append_begins (hpath : path.head? ≠ some '/')
    (hs : (splitPath path)[k]? = some s) :
    ∃ before raw after, path = before ++ raw ++ after ∧ s = parse raw ∧
      before.byteLength = begins (splitPath path) k ∧ (after = [] ∨ after.head? = some '/') ∧
      '/' ∉ raw := by
  rw [splitPath_eq hpath] at hs ⊢
  rw [List.getElem?_map] at hs
  obtain ⟨raw, hraw, rfl⟩ := Option.map_eq_some_iff.mp hs
  obtain ⟨before, after, hjoin, hbefore, hafter⟩ := exists_append_of_join hraw
  rw [Text.join_split] at hjoin
  exact ⟨before, raw, after, hjoin, rfl, hbefore, hafter,
    Text.notMem_of_mem_split (List.mem_of_getElem? hraw)⟩

theorem begins_length_splitPath (hpath : path.head? ≠ some '/') :
    begins (splitPath path) (splitPath path).length = path.byteLength + 1 := by
  rw [splitPath_eq hpath, List.length_map, begins_length (Text.split_ne_nil '/' path),
    Text.join_split]

/-- Every octet of a path, and its end, belong to a segment. -/
theorem exists_holds_splitPath (hpath : path.head? ≠ some '/') (h : i ≤ path.byteLength) :
    ∃ k, Holds (splitPath path) k i := by
  apply exists_holds
  rw [begins_length_splitPath hpath]
  omega

/-- A segment ends where the path does, or in front of a slash, and nowhere else. -/
theorem ends_iff {x y : Text} (hpath : path.head? ≠ some '/') (hcut : path = x ++ y)
    (h : Holds (splitPath path) k x.byteLength) :
    Ends (splitPath path) k x.byteLength ↔ y = [] ∨ y.head? = some '/' := by
  obtain ⟨s, hs, hbegins, hle⟩ := h
  obtain ⟨before, raw, after, hsplit, rfl, hbefore, hafter, hslash⟩ :=
    exists_append_begins hpath hs
  have hlength : (before ++ raw).byteLength = begins (splitPath path) k + raw.byteLength := by
    rw [Text.byteLength_append, hbefore]
  have hx : x <+: path := ⟨y, hcut.symm⟩
  have hraw : before ++ raw <+: path := ⟨after, hsplit.symm⟩
  have hprefix : x <+: before ++ raw :=
    Text.prefix_of_byteLength_le hx hraw (by rw [hlength]; exact hle)
  constructor
  · rintro ⟨s', hs', hend⟩
    cases hs.symm.trans hs'
    have hsame : x = before ++ raw :=
      Text.eq_of_prefix_of_le hprefix (by rw [hlength]; exact Nat.le_of_eq hend.symm)
    rw [hcut, hsame] at hsplit
    rwa [List.append_cancel_left hsplit]
  · intro hy
    refine ⟨_, hs, ?_⟩
    -- What would be left of the segment begins with a slash, but the segment has none.
    obtain ⟨w, hw⟩ := hprefix
    have hwhole : x ++ y = x ++ (w ++ after) := by
      rw [← List.append_assoc, hw, ← hcut, hsplit]
    have hrest := List.append_cancel_left hwhole
    have hinside : before <+: x :=
      Text.prefix_of_byteLength_le ⟨raw ++ after, by rw [hsplit, List.append_assoc]⟩ hx
        (by rw [hbefore]; exact hbegins)
    obtain ⟨u, rfl⟩ := hinside
    rw [List.append_assoc] at hw
    obtain rfl := List.append_cancel_left hw
    have hnil : w = [] := by
      cases w with
      | nil => rfl
      | cons c w =>
          rw [hrest] at hy
          rcases hy with hy | hy
          · cases hy
          · cases hy
            exact absurd (List.mem_append_right u List.mem_cons_self) hslash
    rw [hnil, List.append_nil] at hlength ⊢
    exact hlength

/-- What begins with no slash begins in the text of a segment. -/
theorem contains_of_holds (hpath : path.head? ≠ some '/') (hv : path.OccursAt start v)
    (hne : v ≠ []) (hhead : v.head? ≠ some '/') (h : Holds (splitPath path) k start) :
    Contains (splitPath path) k start := by
  obtain ⟨x, y, hoccurs, rfl⟩ := hv
  rw [List.append_assoc] at hoccurs
  rcases h.contains_or_ends with hcontains | hends
  · exact hcontains
  · have hrest := (ends_iff hpath hoccurs h).mp hends
    rw [List.head?_append_of_ne_nil v hne] at hrest
    rcases hrest with hnil | hslash
    · exact absurd (List.append_eq_nil_iff.mp hnil).1 hne
    · exact absurd hslash hhead

end Segment

namespace Matcher

open Segment

variable {segments : List Segment} {i j k last start length passed reached : Nat}

/-! ## The segments under a value -/

/-- The segments up to the one that holds the last octet of a value.  The offsets of the segments
are counted from behind the slash at `reached`. -/
theorem coverFurther_eq_take (hlast : reached < last)
    (hj : Holds segments j (last - (reached + 1))) :
    coverFurther last reached segments = segments.take (j + 1) := by
  induction segments generalizing reached j with
  | nil => simp [coverFurther]
  | cons s rest ih =>
      rw [coverFurther, if_pos hlast, List.take_succ_cons]
      cases j with
      | zero =>
          have hend := holds_cons_zero.mp hj
          have hdone : coverFurther last (reached + s.rawLength + 1) rest = [] := by
            cases rest with
            | nil => rfl
            | cons s' rest => rw [coverFurther, if_neg (by omega)]
          rw [hdone, List.take_zero]
      | succ j =>
          obtain ⟨hlt, hj⟩ := holds_cons_succ.mp hj
          refine congrArg (s :: ·) (ih (by omega) ?_)
          rwa [show last - (reached + s.rawLength + 1 + 1) =
            last - (reached + 1) - (s.rawLength + 1) by omega]

/-- A value that begins in the text of a segment covers the segments from that one to the one that
holds its last octet. -/
theorem coverFrom_eq_run (hpassed : passed ≤ start) (hlength : 0 < length)
    (hi : Contains segments i (start - passed))
    (hj : Holds segments j (start + length - 1 - passed)) :
    coverFrom start length passed segments = (segments.drop i).take (j + 1 - i) := by
  induction segments generalizing passed i j with
  | nil =>
      obtain ⟨_, hs, -⟩ := hi
      cases hs
  | cons s rest ih =>
      rw [coverFrom]
      cases i with
      | zero =>
          have hstart := contains_cons_zero.mp hi
          rw [if_pos (by omega)]
          cases j with
          | zero =>
              have hend := holds_cons_zero.mp hj
              cases rest with
              | nil => rfl
              | cons s' rest =>
                  rw [coverFurther, if_neg (by omega)]
                  rfl
          | succ j =>
              obtain ⟨hlt, hj⟩ := holds_cons_succ.mp hj
              rw [coverFurther_eq_take (j := j) (by omega)]
              · rfl
              · rwa [show start + length - 1 - (passed + s.rawLength + 1) =
                  start + length - 1 - passed - (s.rawLength + 1) by omega]
      | succ i =>
          obtain ⟨hlt, hi⟩ := contains_cons_succ.mp hi
          cases j with
          | zero =>
              have hend := holds_cons_zero.mp hj
              omega
          | succ j =>
              obtain ⟨hlt', hj⟩ := holds_cons_succ.mp hj
              rw [if_neg (by omega), if_neg (by omega), List.drop_succ_cons, Nat.add_sub_add_right]
              apply ih (by omega)
              · rwa [show start - (passed + s.rawLength + 1) =
                  start - passed - (s.rawLength + 1) by omega]
              · rwa [show start + length - 1 - (passed + s.rawLength + 1) =
                  start + length - 1 - passed - (s.rawLength + 1) by omega]

/-- The empty value covers the segment that holds its place. -/
theorem coverFrom_eq_singleton {s : Segment} (hpassed : passed ≤ start)
    (hk : Holds segments k (start - passed)) (hs : segments[k]? = some s) :
    coverFrom start 0 passed segments = [s] := by
  induction segments generalizing passed k with
  | nil => cases hs
  | cons s' rest ih =>
      rw [coverFrom]
      cases k with
      | zero =>
          cases hs
          have hend := holds_cons_zero.mp hk
          split
          case isTrue hstart =>
            cases rest with
            | nil => rfl
            | cons s'' rest => rw [coverFurther, if_neg (by omega)]
          case isFalse => rw [if_pos (by omega)]
      | succ k =>
          obtain ⟨hlt, hk⟩ := holds_cons_succ.mp hk
          rw [if_neg (by omega), if_neg (by omega)]
          apply ih (by omega) _ hs
          rwa [show start - (passed + s'.rawLength + 1) =
            start - passed - (s'.rawLength + 1) by omega]

end Matcher

/-! ## The values of a match -/

/-- The bound values of a name, each with its start. -/
def Bindings.placed (b : Bindings) (name : Text) : List (Text × Nat) :=
  ((b.values.get name).zip (b.starts.get name)).filterMap fun
    | (some value, some start) => some (value, start)
    | _ => none

/-- Recording an element keeps the names apart. -/
theorem Element.nodup_keys_bind (e : Element) (capture : Capture) {b : Bindings}
    (hb : b.values.keys.Nodup) : (e.bind capture b).values.keys.Nodup := by
  cases e with
  | literal t => exact hb
  | «variable» v => exact Multimap.nodup_updateEntries hb
  | operator o =>
      rw [bind, o.bind_eq_foldl]
      generalize o.puts _ = puts
      induction puts generalizing b with
      | nil => exact hb
      | cons p puts ih => exact ih (Multimap.nodup_updateEntries hb)

theorem Template.nodup_keys_bindings (t : Template) (trace : Trace) (path : Text) :
    (t.bindings trace path).values.keys.Nodup := by
  rw [bindings_eq]
  induction t.recordingOrder using List.reverseRecOn with
  | nil => exact List.nodup_nil
  | append_singleton order i ih =>
      rw [List.foldl_append, List.foldl_cons, List.foldl_nil]
      cases hi : t.elements[i]? with
      | none =>
          rw [bindElement, hi]
          exact ih
      | some e =>
          rw [bindElement_eq hi]
          exact e.nodup_keys_bind _ ih

namespace Matcher

/-- A whole list is a window of itself. -/
theorem window_self (segments : List Segment) : window segments 0 segments.length = segments := by
  rw [window, Nat.zero_add, List.take_length, List.drop_zero]

/-- The spans of a name: for each of its placed values the segments under it. -/
theorem get_spansOf {b : Bindings} (hb : b.values.keys.Nodup) (segments : List Segment)
    (offset count : Nat) (name : Text) :
    (spansOf b segments offset count).get name =
      (b.placed name).map fun p =>
        coverFrom p.2 p.1.byteLength 0 (window segments offset count) := by
  rw [spansOf, Multimap.get_ofPairs, List.flatMap_assoc]
  rw [Multimap.flatMap_entries_eq hb name]
  · rw [Bindings.placed]
    dsimp only
    induction (b.values.get name).zip (b.starts.get name) with
    | nil => rfl
    | cons p pairs ih =>
        rcases p with ⟨_ | v, _ | start⟩
        · simpa using ih
        · simpa using ih
        · simpa using ih
        · simpa using ih
  · rfl
  · -- What an entry adds is added under its own name.
    rintro ⟨n, vs⟩ _ hn
    refine List.flatMap_eq_nil_iff.mpr fun p hp => if_neg ?_
    obtain ⟨⟨_ | v, _ | start⟩, _, hp⟩ := List.mem_filterMap.mp hp
    all_goals cases hp
    exact hn

/-- The spans of all names, for each of their placed values. -/
theorem spansOf_eq {b : Bindings} (hb : b.values.keys.Nodup) (segments : List Segment)
    (offset count : Nat) :
    spansOf b segments offset count =
      .ofPairs (b.values.keys.flatMap fun name => (b.placed name).map fun p =>
        (name, coverFrom p.2 p.1.byteLength 0 (window segments offset count))) := by
  rw [spansOf, Multimap.keys, List.flatMap_map, List.flatMap_def, List.flatMap_def]
  refine congrArg (Multimap.ofPairs ∘ List.flatten) (List.map_congr_left fun e he => ?_)
  rw [Bindings.placed, Multimap.get_of_mem hb he, List.map_filterMap]
  refine List.filterMap_congr fun p _ => ?_
  rcases p with ⟨_ | v, _ | start⟩ <;> rfl

/-- In the simple dialect every bound value has a start, and stands there in the path. -/
theorem placed_bindings {t : Template} (hwell : t.WellFormed) (hdialect : t.dialect = .simple)
    {trace : Trace} {path : Text} (h : t.regex.search path = some trace) (name : Text) :
    ((t.bindings trace path).placed name).map (·.1) =
        ((t.bindings trace path).values.get name).filterMap id ∧
      ∀ p ∈ (t.bindings trace path).placed name, path.OccursAt p.2 p.1 := by
  have haligned := Template.aligned_bindings hwell h name
  rw [Bindings.placed]
  generalize (t.bindings trace path).values.get name = values at haligned ⊢
  generalize (t.bindings trace path).starts.get name = starts at haligned ⊢
  induction haligned with
  | nil => exact ⟨rfl, fun p hp => by cases hp⟩
  | @cons value start values starts hsource _ ih =>
      cases value with
      | none => simpa using ih
      | some v =>
          obtain ⟨s, rfl, e, he, captured, hcapture, hgives⟩ := hsource v rfl
          -- The element that has contributed the value is a variable.
          have hoccurs : path.OccursAt s v := by
            cases e with
            | literal => cases hgives
            | operator o => exact absurd he (hwell.operator_notMem hdialect o)
            | «variable» w =>
                obtain rfl := Element.eq_of_mem_gives_variable hgives
                exact Element.occursAt_of_captureIn hcapture
          refine ⟨by simpa using ih.1, ?_⟩
          intro p hp
          rw [List.zip_cons_cons, List.filterMap_cons] at hp
          rcases List.mem_cons.mp hp with rfl | hp
          · exact hoccurs
          · exact ih.2 p hp

/-- Where a value stands in a path, and on which segments. -/
theorem covers_of_occursAt {path v : Text} {start : Nat} (hpath : path.head? ≠ some '/')
    (hv : path.OccursAt start v) :
    (v ≠ [] → v.head? ≠ some '/' →
      ∃ i j, Segment.Holds (splitPath path) i start ∧
        Segment.Holds (splitPath path) j (start + v.byteLength - 1) ∧
        coverFrom start v.byteLength 0 (splitPath path) =
          ((splitPath path).drop i).take (j + 1 - i)) ∧
    (v = [] →
      ∃ k s, (splitPath path)[k]? = some s ∧
        start ≤ Segment.begins (splitPath path) k + s.rawLength ∧
        (∀ l s', l < k → (splitPath path)[l]? = some s' →
          Segment.begins (splitPath path) l + s'.rawLength < start) ∧
        coverFrom start v.byteLength 0 (splitPath path) = [s]) := by
  have hwithin : start + v.byteLength ≤ path.byteLength := by
    obtain ⟨x, y, rfl, rfl⟩ := hv
    simp only [Text.byteLength_append]
    omega
  obtain ⟨i, hi⟩ := Segment.exists_holds_splitPath hpath (i := start) (by omega)
  constructor
  · intro hne hhead
    have hlength := Text.byteLength_pos hne
    obtain ⟨j, hj⟩ :=
      Segment.exists_holds_splitPath hpath (i := start + v.byteLength - 1) (by omega)
    have hcontains := Segment.contains_of_holds hpath hv hne hhead hi
    exact ⟨i, j, hi, hj, coverFrom_eq_run (Nat.zero_le _) hlength hcontains hj⟩
  · rintro rfl
    obtain ⟨s, hs, hbegins, hends⟩ := hi
    refine ⟨i, s, hs, hends, ?_, coverFrom_eq_singleton (Nat.zero_le _) ⟨s, hs, hbegins, hends⟩ hs⟩
    intro l s' hl hs'
    exact Segment.Holds.lt_of_lt ⟨s, hs, hbegins, hends⟩ hl hs'

/-- In the simple dialect each bound value of a match stands in the path at its start.  One that is
not empty and does not begin with a slash lies on the run of segments from the one that holds its
first octet to the one that holds its last.  The empty one lies on the first segment that does not
end before it.  Segments are measured as they stand in the path, with their matrix parameters. -/
theorem spans_of_run {text : Text} {o : CompileOptions} (m : Matcher)
    (ht : (Template.compileWith text o).value = .ok m.template) (hdialect : o.dialect = .simple)
    {path : Text} {m' : Matcher} (hrun : (m.run path).value = (true, m'))
    (hpath : path.head? ≠ some '/') {count : Nat} (hcount : (splitPath path).length ≤ count) :
    ∃ b spans, m'.bindings = .ok b ∧ m'.spannedSegments (splitPath path) 0 count = .ok spans ∧
      (∀ k s, (splitPath path)[k]? = some s →
        ∃ raw, s = .parse raw ∧ s.rawLength = raw.byteLength ∧
          path.OccursAt (Segment.begins (splitPath path) k) raw) ∧
      ∀ name,
        (b.placed name).map (·.1) = (b.values.get name).filterMap id ∧
        List.Forall₂ (fun p run => path.OccursAt p.2 p.1 ∧
          (p.1 ≠ [] → p.1.head? ≠ some '/' →
            ∃ i j, Segment.Holds (splitPath path) i p.2 ∧
              Segment.Holds (splitPath path) j (p.2 + p.1.byteLength - 1) ∧
              run = ((splitPath path).drop i).take (j + 1 - i)) ∧
          (p.1 = [] →
            ∃ k s, (splitPath path)[k]? = some s ∧
              p.2 ≤ Segment.begins (splitPath path) k + s.rawLength ∧
              (∀ l s', l < k → (splitPath path)[l]? = some s' →
                Segment.begins (splitPath path) l + s'.rawLength < p.2) ∧
              run = [s]))
          (b.placed name) (spans.get name) := by
  rcases Template.wellFormed_of_compileWith ht with ⟨hwell, hd⟩
  rcases matched_of_run hrun with ⟨trace, htrace, rfl⟩
  refine ⟨_, _, rfl, rfl, ?_, ?_⟩
  · intro k s hs
    obtain ⟨before, raw, after, hsplit, rfl, hbefore, -⟩ := Segment.exists_append_begins hpath hs
    exact ⟨raw, rfl, rfl, before, after, hsplit, hbefore⟩
  intro name
  obtain ⟨hvalues, hoccurs⟩ := placed_bindings hwell (hd.trans hdialect) htrace name
  refine ⟨hvalues, ?_⟩
  have hwindow : window (splitPath path) 0 count = splitPath path := by
    rw [window, List.take_of_length_le (by omega), List.drop_zero]
  rw [get_spansOf (m.template.nodup_keys_bindings trace path), hwindow]
  refine List.forall₂_map_right_iff.mpr (List.forall₂_same.mpr ?_)
  intro p hp
  exact ⟨hoccurs p hp, covers_of_occursAt hpath (hoccurs p hp)⟩

theorem spans_of_run_matrix :
    ∃ t m' b spans,
      (Template.compileWith "a/{x}/{y:[^:]*}".toList {}).value = .ok t ∧
      (t.matcher.run "a/b;c=d/e/f".toList).value = (true, m') ∧ m'.bindings = .ok b ∧
      m'.spannedSegments (splitPath "a/b;c=d/e/f".toList) 0 4 = .ok spans ∧
      b.placed ['x'] = [("b;c=d".toList, 2)] ∧ b.placed ['y'] = [("e/f".toList, 8)] ∧
      spans.get ['y'] = [((splitPath "a/b;c=d/e/f".toList).drop 2).take 2] := by
  let path := "a/b;c=d/e/f".toList
  have hok : (Template.compileWith "a/{x}/{y:[^:]*}".toList {}).value.toOption.any (fun t =>
      (t.regex.search path).any fun trace =>
        decide ((t.bindings trace path).placed ['x'] = [("b;c=d".toList, 2)] ∧
          (t.bindings trace path).placed ['y'] = [("e/f".toList, 8)])) = true := by
    decide +kernel
  rcases exists_ok_of_any hok with ⟨t, ht, hsearch⟩
  rcases Option.any_eq_true _ _ |>.mp hsearch with ⟨trace, htrace, hb⟩
  rcases of_decide_eq_true hb with ⟨hx, hy⟩
  have hmatch : (t.matcher.run path).value = (true, ⟨t, path, some trace⟩) := by
    simp [run, Template.matcher, htrace]
  have hcount : (splitPath path).length ≤ 4 := by decide
  rcases spans_of_run t.matcher ht rfl hmatch (by decide) hcount with
    ⟨b, spans, hbindings, hspans, -, hall⟩
  obtain rfl : t.bindings trace path = b := by
    cases hbindings
    rfl
  obtain ⟨_, hruns⟩ := hall ['y']
  rw [hy] at hruns
  cases hspans' : spans.get ['y'] with
  | nil =>
      rw [hspans'] at hruns
      cases hruns
  | cons run runs =>
      rw [hspans'] at hruns
      obtain ⟨⟨-, hrun, -⟩, hnil⟩ := List.forall₂_cons.mp hruns
      obtain rfl := List.forall₂_nil_left_iff.mp hnil
      obtain ⟨i, j, hi, hj, rfl⟩ := hrun (by decide) (by decide)
      have hthird : Segment.Holds (splitPath path) 2 8 :=
        ⟨.plain ['e'], by decide +kernel, by decide, by decide⟩
      have hfourth : Segment.Holds (splitPath path) 3 10 :=
        ⟨.plain ['f'], by decide +kernel, by decide, by decide⟩
      obtain rfl := hi.unique hthird
      obtain rfl := hj.unique hfourth
      exact ⟨t, _, _, spans, ht, hmatch, rfl, hspans, hx, hy, hspans'⟩

end Matcher
end PathTemplate
