import PathTemplate.Proofs.Template.Spans

/-!
# Shifting — segments under a value whose start counts one octet more

A slash at the beginning of a path belongs to no segment, but starts count it.  The segments under a
value are then found from one octet further on.

- `Matcher.coverFrom_of_ends`     : from the end of a segment, only that segment is found
- `Matcher.head?_coverFrom_succ`  : from behind it, the first one found is the next
- `Matcher.Settled`               : values that have the same segments one octet further on
- `Matcher.coverFrom_succ_of_settledIn`, `settledIn_of_coverFrom_succ` : these and, in paths whose
  neighbouring segments differ, no others
-/

namespace PathTemplate

namespace Segment

variable {s : Segment} {segments : List Segment} {path : Text} {i j k l : Nat}

/-! ## Ends of segments -/

theorem Contains.not_ends (h : Contains segments k i) : ¬ Ends segments k i := by
  rintro ⟨s, hs, heq⟩
  obtain ⟨s', hs', -, hlt⟩ := h
  cases hs.symm.trans hs'
  exact absurd heq (Nat.ne_of_lt hlt)

theorem Ends.not_holds_succ (h : Ends segments k i) : ¬ Holds segments k (i + 1) := by
  rintro ⟨s, hs, -, hle⟩
  obtain ⟨s', hs', heq⟩ := h
  cases hs.symm.trans hs'
  omega

theorem ends_cons_zero : Ends (s :: segments) 0 i ↔ i = s.rawLength := by
  simp [Ends, begins]

theorem ends_cons_succ :
    Ends (s :: segments) (k + 1) i ↔
      s.rawLength < i ∧ Ends segments k (i - (s.rawLength + 1)) := by
  simp only [Ends, begins_cons_succ, List.getElem?_cons_succ]
  constructor
  · rintro ⟨s', hs', heq⟩
    exact ⟨by omega, s', hs', by omega⟩
  · rintro ⟨hlt, s', hs', heq⟩
    exact ⟨s', hs', by omega⟩

/-- Later octets belong to later segments, or to the same. -/
theorem Holds.le_of_le (hk : Holds segments k i) (hl : Holds segments l j) (hij : i ≤ j) :
    k ≤ l := by
  by_contra hlt
  obtain ⟨s, hs, -, hle⟩ := hl
  have := hk.lt_of_lt (Nat.lt_of_not_le hlt) hs
  omega

/-- No segment ends inside of a character. -/
theorem Ends.eq_of_lt {x y : Text} {c : Char} (h : Ends (splitPath path) k i)
    (hpath : path.head? ≠ some '/') (hcut : path = x ++ c :: y) (hle : x.byteLength ≤ i)
    (hlt : i < x.byteLength + c.utf8Size) : i = x.byteLength := by
  obtain ⟨s, hs, rfl⟩ := h
  obtain ⟨before, raw, after, hsplit, rfl, hbefore, -⟩ := exists_append_begins hpath hs
  have hlength : (before ++ raw).byteLength =
      begins (splitPath path) k + (parse raw).rawLength := by
    rw [Text.byteLength_append, hbefore]
    rfl
  have hprefix : x ++ [c] <+: path := ⟨y, by simp [hcut]⟩
  have hsame : before ++ raw = x := by
    refine Text.eq_of_prefix_of_lt ⟨after, hsplit.symm⟩ hprefix ?_ ?_
    · rwa [hlength]
    · rw [hlength, Text.byteLength_append]
      exact hlt
  rw [← hlength, hsame]

end Segment

namespace Matcher

open Segment

variable {segments : List Segment} {path before v after : Text} {s : Segment}
variable {start length passed i j k : Nat}

/-! ## From the end of a segment -/

/-- From the end of a segment, that segment is found and no other, however long the value is. -/
theorem coverFrom_of_ends (hpassed : passed ≤ start) (hk : Ends segments k (start - passed))
    (hs : segments[k]? = some s) : coverFrom start length passed segments = [s] := by
  induction segments generalizing passed k with
  | nil => cases hs
  | cons s' rest ih =>
      rw [coverFrom]
      cases k with
      | zero =>
          cases hs
          have hend := ends_cons_zero.mp hk
          rw [if_neg (by omega), if_pos (by omega)]
      | succ k =>
          obtain ⟨hlt, hk⟩ := ends_cons_succ.mp hk
          rw [if_neg (by omega), if_neg (by omega)]
          apply ih (by omega) _ hs
          rwa [show start - (passed + s'.rawLength + 1) =
            start - passed - (s'.rawLength + 1) by omega]

/-- From behind the end of a segment, the next segment is the first one found, if there is one. -/
theorem head?_coverFrom_succ (hpassed : passed ≤ start) (hk : Ends segments k (start - passed)) :
    (coverFrom (start + 1) length passed segments).head? = segments[k + 1]? := by
  induction segments generalizing passed k with
  | nil =>
      obtain ⟨_, hs, -⟩ := hk
      cases hs
  | cons s rest ih =>
      rw [coverFrom, List.getElem?_cons_succ]
      -- One octet further on, the slash behind the segment is passed, and the next one begins.
      cases k with
      | zero =>
          have hend := ends_cons_zero.mp hk
          rw [if_neg (by omega), if_neg (by omega)]
          cases rest with
          | nil => rfl
          | cons s' rest =>
              rw [coverFrom]
              split
              case isTrue => rfl
              case isFalse hstart =>
                rw [if_pos (by omega)]
                rfl
      | succ k =>
          obtain ⟨hlt, hk⟩ := ends_cons_succ.mp hk
          rw [if_neg (by omega), if_neg (by omega)]
          apply ih (by omega)
          rwa [show start - (passed + s.rawLength + 1) =
            start - passed - (s.rawLength + 1) by omega]

/-! ## From inside of a segment -/

/-- Runs that begin alike are the same if they end alike. -/
theorem take_drop_eq_iff (hi : k ≤ i) (hj : k ≤ j) (hi' : i < segments.length)
    (hj' : j < segments.length) :
    (segments.drop k).take (i + 1 - k) = (segments.drop k).take (j + 1 - k) ↔ i = j := by
  constructor
  · intro h
    have hlength := congrArg List.length h
    simp only [List.length_take, List.length_drop] at hlength
    omega
  · rintro rfl
    rfl

theorem take_drop_eq_singleton (hs : segments[k]? = some s) :
    (segments.drop k).take (k + 1 - k) = [s] := by
  rw [Nat.add_sub_cancel_left, List.take_one, List.head?_drop, hs]
  rfl

/-- The segments stay the same if the value does not end with the slash behind a segment. -/
theorem coverFrom_succ_eq_iff_of_contains (hlength : 0 < length)
    (hwithin : start + length < begins segments segments.length)
    (hk : Contains segments k start) (hk' : Contains segments k (start + 1))
    (hj : Holds segments j (start + length - 1)) :
    coverFrom (start + 1) length 0 segments = coverFrom start length 0 segments ↔
      ¬ Ends segments j (start + length - 1) := by
  obtain ⟨l, hl⟩ := exists_holds hwithin
  have hnext : start + length - 1 + 1 = start + length := by omega
  have hl' : Holds segments l (start + 1 + length - 1) := by
    rwa [show start + 1 + length - 1 = start + length by omega]
  rw [coverFrom_eq_run (Nat.zero_le _) hlength hk' hl',
    coverFrom_eq_run (Nat.zero_le _) hlength hk hj]
  have hlt : ∀ {m i : Nat}, Holds segments m i → m < segments.length := by
    rintro m i ⟨s, hs, -⟩
    exact (List.getElem?_eq_some_iff.mp hs).1
  rw [take_drop_eq_iff (hk'.holds.le_of_le hl' (by omega)) (hk.holds.le_of_le hj (by omega)) (hlt hl)
    (hlt hj)]
  constructor
  · rintro rfl hends
    exact hends.not_holds_succ (hnext ▸ hl)
  · intro hends
    have hj' := (hj.contains_or_ends.resolve_right hends).holds_succ
    exact hl.unique (hnext ▸ hj')

/-- If the next octet is the end of the segment, they stay the same if the value ends there, too. -/
theorem coverFrom_succ_eq_iff_of_ends (hlength : 0 < length) (hk : Contains segments k start)
    (hk' : Ends segments k (start + 1)) (hj : Holds segments j (start + length - 1)) :
    coverFrom (start + 1) length 0 segments = coverFrom start length 0 segments ↔ length ≤ 2 := by
  obtain ⟨s, hs, hend⟩ := hk'
  have hle := hk.holds.le_of_le hj (by omega)
  obtain ⟨s', hs', hbegins', hle'⟩ := hj
  have hj : Holds segments j (start + length - 1) := ⟨s', hs', hbegins', hle'⟩
  obtain ⟨hlt, -⟩ := List.getElem?_eq_some_iff.mp hs
  obtain ⟨hlt', -⟩ := List.getElem?_eq_some_iff.mp hs'
  rw [coverFrom_eq_run (Nat.zero_le _) hlength hk hj,
    coverFrom_of_ends (Nat.zero_le _) ⟨s, hs, hend⟩ hs, ← take_drop_eq_singleton hs,
    take_drop_eq_iff (Nat.le_refl k) hle hlt hlt']
  constructor
  · rintro rfl
    cases hs.symm.trans hs'
    omega
  · intro hshort
    obtain ⟨_, hs'', hbegins, -⟩ := hk
    cases hs.symm.trans hs''
    have hk : Holds segments k (start + length - 1) := ⟨s, hs, by omega, by omega⟩
    exact hk.unique hj

/-! ## Values in a path -/

/-- The value `v`, with `after` behind it in the path, keeps its segments one octet further on.  It
does not begin at the end of a segment.  It has at most two octets, or it neither ends with a slash
nor has one behind its first octet. -/
structure Settled (v after : Text) : Prop where
  starts : ¬ (v ++ after = [] ∨ (v ++ after).head? = some '/')
  reaches : v.byteLength ≤ 2 ∨
    v.getLast? ≠ some '/' ∧ ∀ c rest, v = c :: '/' :: rest → c.utf8Size ≠ 1

/-- The last octet of a value ends a segment if the value ends with a slash. -/
theorem ends_last_iff (hpath : path.head? ≠ some '/') (hcut : path = before ++ v ++ after)
    (hne : v ≠ []) (hj : Holds (splitPath path) j (before.byteLength + v.byteLength - 1)) :
    Ends (splitPath path) j (before.byteLength + v.byteLength - 1) ↔ v.getLast? = some '/' := by
  obtain ⟨u, c, rfl⟩ := (List.eq_nil_or_concat v).resolve_left hne
  rw [List.concat_eq_append] at hcut hj ⊢
  rw [List.getLast?_concat, Option.some_inj]
  have hcut' : path = (before ++ u) ++ c :: after := by simp [hcut]
  have hpos := Char.utf8Size_pos c
  have hlast : before.byteLength + Text.byteLength (u ++ [c]) - 1 =
      Text.byteLength (before ++ u) + (c.utf8Size - 1) := by
    simp only [Text.byteLength_append, Text.byteLength_cons, Text.byteLength_nil]
    omega
  rw [hlast] at hj ⊢
  constructor
  · intro h
    -- The character has one octet, as no segment ends inside of it.
    have hone := h.eq_of_lt hpath hcut' (by omega) (by omega)
    rw [hone] at hj h
    rcases (ends_iff hpath hcut' hj).mp h with hnil | hslash
    · cases hnil
    · exact Option.some.inj hslash
  · rintro rfl
    exact (ends_iff hpath hcut' hj).mpr (.inr rfl)

/-- A character of a segment is the last one if it has one octet and a slash or nothing behind it. -/
theorem ends_first_iff {c : Char} {y : Text} (hpath : path.head? ≠ some '/')
    (hcut : path = before ++ c :: y) (hk : Contains (splitPath path) k before.byteLength) :
    Ends (splitPath path) k (before.byteLength + 1) ↔
      c.utf8Size = 1 ∧ (y = [] ∨ y.head? = some '/') := by
  have hcut' : path = (before ++ [c]) ++ y := by simp [hcut]
  have hlength : (before ++ [c]).byteLength = before.byteLength + c.utf8Size := by simp
  have hpos := Char.utf8Size_pos c
  have hnext := hk.holds_succ
  constructor
  · intro h
    have hone : c.utf8Size = 1 := by
      by_contra hne
      have := h.eq_of_lt hpath hcut (by omega) (by omega)
      omega
    rw [← hone, ← hlength] at h hnext
    exact ⟨hone, (ends_iff hpath hcut' hnext).mp h⟩
  · rintro ⟨hone, hy⟩
    rw [← hone, ← hlength] at hnext ⊢
    exact (ends_iff hpath hcut' hnext).mpr hy

theorem starts_of_contains (hpath : path.head? ≠ some '/') (hcut : path = before ++ v ++ after)
    (hk : Contains (splitPath path) k before.byteLength) :
    ¬ (v ++ after = [] ∨ (v ++ after).head? = some '/') := by
  rw [List.append_assoc] at hcut
  exact fun h => hk.not_ends ((ends_iff hpath hcut hk.holds).mpr h)

/-- If the first two octets are in a segment, then what matters is how the value ends. -/
theorem settled_iff_of_contains (hpath : path.head? ≠ some '/')
    (hcut : path = before ++ v ++ after) (hne : v ≠ [])
    (hk : Contains (splitPath path) k before.byteLength)
    (hk' : Contains (splitPath path) k (before.byteLength + 1))
    (hj : Holds (splitPath path) j (before.byteLength + v.byteLength - 1)) :
    Settled v after ↔ ¬ Ends (splitPath path) j (before.byteLength + v.byteLength - 1) := by
  constructor
  · rintro ⟨-, hshort | ⟨hlast, -⟩⟩
    -- The last octet is then the first one or the next, and both are in the segment.
    · rcases Nat.lt_or_ge v.byteLength 2 with hone | htwo
      · rw [show before.byteLength + v.byteLength - 1 = before.byteLength by
          have := Text.byteLength_pos hne
          omega] at hj ⊢
        exact hk.holds.unique hj ▸ hk.not_ends
      · rw [show before.byteLength + v.byteLength - 1 = before.byteLength + 1 by omega] at hj ⊢
        exact hk'.holds.unique hj ▸ hk'.not_ends
    · exact fun h => hlast ((ends_last_iff hpath hcut hne hj).mp h)
  · intro hends
    refine ⟨starts_of_contains hpath hcut hk,
      .inr ⟨fun h => hends ((ends_last_iff hpath hcut hne hj).mpr h), ?_⟩⟩
    rintro c rest rfl hone
    rw [List.append_assoc] at hcut
    exact hk'.not_ends ((ends_first_iff hpath hcut hk).mpr ⟨hone, .inr rfl⟩)

/-- If the first octet is the last one of a segment, then what matters is the length of the value. -/
theorem settled_iff_of_ends (hpath : path.head? ≠ some '/') (hcut : path = before ++ v ++ after)
    (hne : v ≠ []) (hk : Contains (splitPath path) k before.byteLength)
    (hk' : Ends (splitPath path) k (before.byteLength + 1)) :
    Settled v after ↔ v.byteLength ≤ 2 := by
  constructor
  · rintro ⟨-, hshort | ⟨-, hsecond⟩⟩
    · exact hshort
    · obtain ⟨c, rest, rfl⟩ := List.exists_cons_of_ne_nil hne
      rw [List.append_assoc] at hcut
      obtain ⟨hone, hbehind⟩ := (ends_first_iff hpath hcut hk).mp hk'
      cases rest with
      | nil => simp [hone]
      | cons d rest =>
          rcases hbehind with hnil | hslash
          · cases hnil
          · cases hslash
            exact absurd hone (hsecond c rest rfl)
  · exact fun hshort => ⟨starts_of_contains hpath hcut hk, .inl hshort⟩

/-- From inside of a segment, the segments under a value stay the same if it is settled. -/
theorem coverFrom_succ_eq_iff (hpath : path.head? ≠ some '/') (hcut : path = before ++ v ++ after)
    (hk : Contains (splitPath path) k before.byteLength) :
    coverFrom (before.byteLength + 1) v.byteLength 0 (splitPath path) =
        coverFrom before.byteLength v.byteLength 0 (splitPath path) ↔ Settled v after := by
  by_cases hne : v = []
  · subst hne
    obtain ⟨s, hs, -⟩ := id hk
    refine iff_of_true ?_ ⟨starts_of_contains hpath hcut hk, .inl (Nat.zero_le 2)⟩
    rw [Text.byteLength_nil, coverFrom_eq_singleton (Nat.zero_le _) hk.holds_succ hs,
      coverFrom_eq_singleton (Nat.zero_le _) hk.holds hs]
  · have hlength := Text.byteLength_pos hne
    have hwithin : before.byteLength + v.byteLength ≤ path.byteLength := by
      rw [hcut, Text.byteLength_append, Text.byteLength_append]
      exact Nat.le_add_right _ _
    obtain ⟨j, hj⟩ := exists_holds_splitPath hpath
      (i := before.byteLength + v.byteLength - 1) (by omega)
    rcases hk.holds_succ.contains_or_ends with hk' | hk'
    · have hend := Nat.lt_succ_of_le hwithin
      rw [Nat.succ_eq_add_one, ← begins_length_splitPath hpath] at hend
      rw [coverFrom_succ_eq_iff_of_contains hlength hend hk hk' hj,
        settled_iff_of_contains hpath hcut hne hk hk' hj]
    · rw [coverFrom_succ_eq_iff_of_ends hlength hk hk' hj,
        settled_iff_of_ends hpath hcut hne hk hk']

/-- A value without a slash is settled. -/
theorem Settled.of_slashFree (hne : v ≠ []) (hv : '/' ∉ v) (after : Text) : Settled v after where
  starts := by
    rw [List.head?_append_of_ne_nil v hne]
    rintro (hnil | hslash)
    · exact hne (List.append_eq_nil_iff.mp hnil).1
    · exact hv (List.mem_of_mem_head? hslash)
  reaches := by
    refine .inr ⟨fun h => hv (List.mem_of_mem_getLast? h), ?_⟩
    rintro c rest rfl
    exact absurd (List.mem_cons_of_mem c List.mem_cons_self) hv

/-- A value with its start is settled where it stands in the path. -/
def SettledIn (path : Text) (p : Text × Nat) : Prop :=
  ∃ before after, path = before ++ p.1 ++ after ∧ before.byteLength = p.2 ∧ Settled p.1 after

/-- The octet at which a value begins belongs to a segment. -/
theorem exists_holds_before (hpath : path.head? ≠ some '/') (hcut : path = before ++ v ++ after) :
    ∃ k, Holds (splitPath path) k before.byteLength := by
  apply exists_holds_splitPath hpath
  rw [hcut, Text.byteLength_append, Text.byteLength_append, Nat.add_assoc]
  exact Nat.le_add_right _ _

theorem coverFrom_succ_of_settledIn (hpath : path.head? ≠ some '/') {p : Text × Nat}
    (h : SettledIn path p) :
    coverFrom (p.2 + 1) p.1.byteLength 0 (splitPath path) =
      coverFrom p.2 p.1.byteLength 0 (splitPath path) := by
  obtain ⟨before, after, hcut, hstart, hsettled⟩ := h
  obtain ⟨k, hk⟩ := exists_holds_before hpath hcut
  have hrest : path = before ++ (p.1 ++ after) := by rw [hcut, List.append_assoc]
  have hinside := hk.contains_or_ends.resolve_right fun hends =>
    hsettled.starts ((ends_iff hpath hrest hk).mp hends)
  rw [← hstart]
  exact (coverFrom_succ_eq_iff hpath hcut hinside).mpr hsettled

/-- If no two neighbouring segments are the same, no other value has the same segments. -/
theorem settledIn_of_coverFrom_succ (hpath : path.head? ≠ some '/')
    (hdiffer : (splitPath path).IsChain (· ≠ ·)) {p : Text × Nat} (hp : path.OccursAt p.2 p.1)
    (h : coverFrom (p.2 + 1) p.1.byteLength 0 (splitPath path) =
      coverFrom p.2 p.1.byteLength 0 (splitPath path)) : SettledIn path p := by
  obtain ⟨before, after, hcut, hstart⟩ := hp
  rw [← hstart] at h
  refine ⟨before, after, hcut, hstart, ?_⟩
  obtain ⟨k, hk⟩ := exists_holds_before hpath hcut
  rcases hk.contains_or_ends with hinside | hends
  · exact (coverFrom_succ_eq_iff hpath hcut hinside).mp h
  · -- From the end of a segment, its neighbour would be found in its place.
    obtain ⟨s, hs, -⟩ := id hends
    have hnext : (coverFrom (before.byteLength + 1) p.1.byteLength 0 (splitPath path)).head? =
        (splitPath path)[k + 1]? := head?_coverFrom_succ (Nat.zero_le _) hends
    rw [h, coverFrom_of_ends (Nat.zero_le _) hends hs, List.head?_cons] at hnext
    obtain ⟨hlt, hget⟩ := List.getElem?_eq_some_iff.mp hs
    obtain ⟨hlt', hget'⟩ := List.getElem?_eq_some_iff.mp hnext.symm
    exact absurd (hget.trans hget'.symm) (List.isChain_iff_getElem.mp hdiffer k hlt')

end Matcher
end PathTemplate
