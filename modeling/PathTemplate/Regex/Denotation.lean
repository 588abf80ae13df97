import PathTemplate.Regex.Written

/-!
# Denotation — what parts of a regular expression denote

`Pattern.ofText?` reads a text as a whole.  Here it is shown what it makes of the parts of a text,
wherever they stand, as long as no flag is set.

- `RegexReader.Reads`   : reading a part takes the reader from one state to another
- `RegexReader.Denotes` : a part adds patterns in a row to those before it
- `Denotes.escape`, `Denotes.group`, `Denotes.parens`, `Denotes.alternatives` : the patterns
  of an escaped text, of groups, and of alternatives
- `Denotes.ofText?_eq`   : the pattern of a whole text from the patterns of its parts

A question mark after a sign of repetition belongs to the sign.  So what is shown of a part that ends
with such a sign holds only where the text does not go on with a question mark.
-/

namespace PathTemplate
namespace RegexReader

variable {free : Bool} {s s' s'' : State} {u v : Text}

/-! ## Runs of the reader -/

/-- Reading `u` leads from one state to another.  Unless `free`, what comes after `u` must not begin
with a question mark. -/
def Reads (free : Bool) (s : State) (u : Text) (s' : State) : Prop :=
  ∃ k, k ≤ u.length ∧ ∀ n rest, (free = true ∨ rest.head? ≠ some '?') →
    readItems (k + n) s (u ++ rest) = readItems n s' rest

theorem head?_append_ne {c : Char} (hu : u.head? ≠ some c) (hv : v.head? ≠ some c) :
    (u ++ v).head? ≠ some c := by
  cases u with
  | nil => exact hv
  | cons d u => exact hu

namespace Reads

theorem refl (s : State) : Reads true s [] s :=
  ⟨0, Nat.le_refl _, fun n rest _ => by rw [Nat.zero_add, List.nil_append]⟩

theorem bound (h : Reads free s u s') : Reads false s u s' := by
  obtain ⟨k, hk, h⟩ := h
  exact ⟨k, hk, fun n rest hr => h n rest (.inr (by simpa using hr))⟩

theorem trans (h : Reads true s u s') (h' : Reads free s' v s'') : Reads free s (u ++ v) s'' := by
  obtain ⟨k, hk, h⟩ := h
  obtain ⟨l, hl, h'⟩ := h'
  refine ⟨k + l, by rw [List.length_append]; omega, fun n rest hr => ?_⟩
  rw [Nat.add_assoc, List.append_assoc, h _ _ (.inl rfl), h' _ _ hr]

theorem trans_of_head (h : Reads false s u s') (h' : Reads free s' v s'')
    (hv : v.head? ≠ some '?') (hvf : free = true → v ≠ []) : Reads free s (u ++ v) s'' := by
  obtain ⟨k, hk, h⟩ := h
  obtain ⟨l, hl, h'⟩ := h'
  refine ⟨k + l, by rw [List.length_append]; omega, fun n rest hr => ?_⟩
  have hnext : (v ++ rest).head? ≠ some '?' := by
    cases v with
    | nil => exact hr.resolve_left fun hf => hvf hf rfl
    | cons => exact hv
  rw [Nat.add_assoc, List.append_assoc, h _ _ (.inr hnext), h' _ _ hr]

/-- One round of the reader. -/
theorem step {c : Char} (hs : s.flags = {})
    (h : ∀ rest : Text, (free = true ∨ rest.head? ≠ some '?') →
      readItem s c (u ++ rest) = some (s', rest)) : Reads free s (c :: u) s' := by
  refine ⟨1, by rw [List.length_cons]; omega, fun n rest hr => ?_⟩
  have hskip : Flags.skip {} (c :: (u ++ rest)) = c :: (u ++ rest) := rfl
  rw [Nat.add_comm, List.cons_append, readItems, hs, hskip]
  simp only [h rest hr]
  rfl

/-- The end of the text. -/
theorem readItems_eq (h : Reads free s u s') (hs : s'.flags = {}) :
    readItems (u.length + 1) s u = some s' := by
  obtain ⟨k, hk, h⟩ := h.bound
  have := h (u.length + 1 - k) [] (.inr (by simp))
  rw [List.append_nil, Nat.add_sub_cancel' (by omega)] at this
  obtain ⟨m, hm⟩ : ∃ m, u.length + 1 - k = m + 1 := ⟨u.length - k, by omega⟩
  have hskip : Flags.skip {} [] = [] := rfl
  rw [this, hm, readItems, hs, hskip]

end Reads

/-! ## Items -/

/-- The state behind some more items, with `k` as the number of the next group. -/
def State.behind (s : State) (items : List Item) (k : Nat) : State :=
  { s with items := items.reverse ++ s.items, nextGroup := k }

theorem State.behind_behind (s : State) (is js : List Item) (k l : Nat) :
    (s.behind is k).behind js l = s.behind (is ++ js) l := by
  simp [State.behind]

structure HasPatterns (items : List Item) (ps : List Pattern) (d : Nat) : Prop where
  map_pattern : items.map Item.pattern = ps
  depth_le : ∀ i ∈ items, i.depth ≤ d
  repeatable : ∀ i ∈ items, i.repeatable = true

namespace HasPatterns

variable {items : List Item} {ps : List Pattern} {d : Nat}

theorem mono (h : HasPatterns items ps d) {e : Nat} (hde : d ≤ e) : HasPatterns items ps e :=
  ⟨h.map_pattern, fun i hi => Nat.le_trans (h.depth_le i hi) hde, h.repeatable⟩

theorem append {items' : List Item} {ps' : List Pattern} (h : HasPatterns items ps d)
    (h' : HasPatterns items' ps' d) : HasPatterns (items ++ items') (ps ++ ps') d := by
  refine ⟨by rw [List.map_append, h.map_pattern, h'.map_pattern], fun i hi => ?_, fun i hi => ?_⟩
  · exact (List.mem_append.mp hi).elim (h.depth_le i) (h'.depth_le i)
  · exact (List.mem_append.mp hi).elim (h.repeatable i) (h'.repeatable i)

theorem single {i : Item} (hi : i.repeatable = true) (hd : i.depth ≤ d) :
    HasPatterns [i] [i.pattern] d :=
  ⟨rfl, by simpa using hd, by simpa using hi⟩

/-- One pattern comes from one item. -/
theorem eq_singleton {p : Pattern} (h : HasPatterns items [p] d) :
    ∃ i, items = [i] ∧ i.pattern = p ∧ i.depth ≤ d ∧ i.repeatable = true := by
  match items, h with
  | [], h => exact absurd h.map_pattern (by simp)
  | [i], h =>
      exact ⟨i, rfl, by simpa using h.map_pattern, by simpa using h.depth_le,
        by simpa using h.repeatable⟩
  | _ :: _ :: _, h => exact absurd h.map_pattern (by simp)

theorem foldl_max_le {l : List Nat} {a : Nat} (ha : a ≤ d) (h : ∀ x ∈ l, x ≤ d) :
    l.foldl max a ≤ d := by
  induction l generalizing a with
  | nil => exact ha
  | cons x l ih =>
      exact ih (Nat.max_le.mpr ⟨ha, h x (by simp)⟩) fun y hy => h y (by simp [hy])

/-- The row of items, given last first. -/
theorem row_pattern (h : HasPatterns items ps d) :
    (Item.row items.reverse).pattern = .seqs ps := by
  rw [← h.map_pattern]
  unfold Item.row
  split
  case h_1 i h =>
    have : items = [i] := by simpa using congrArg List.reverse h
    simp [this, Pattern.seqs]
  case h_2 => simp

theorem row_depth_le (h : HasPatterns items ps d) : (Item.row items.reverse).depth ≤ d + 1 := by
  have hle : ∀ i ∈ items.reverse, i.depth ≤ d := by simpa using h.depth_le
  unfold Item.row
  split
  case h_1 i hi => exact Nat.le_succ_of_le (hle i (by simp [hi]))
  case h_2 =>
    split
    · exact Nat.zero_le _
    · exact Nat.succ_le_succ (foldl_max_le (Nat.zero_le _) (by simpa using h.depth_le))

/-- The alternatives, given last first. -/
theorem choice_pattern (h : HasPatterns items ps d) :
    (Item.choice items.reverse).pattern = .alts ps := by
  rw [← h.map_pattern]
  unfold Item.choice
  split
  case h_1 i h =>
    have : items = [i] := by simpa using congrArg List.reverse h
    simp [this, Pattern.alts]
  case h_2 => simp

theorem choice_depth_le (h : HasPatterns items ps d) :
    (Item.choice items.reverse).depth ≤ d + 1 := by
  have hle : ∀ i ∈ items.reverse, i.depth ≤ d := by simpa using h.depth_le
  unfold Item.choice
  split
  case h_1 i hi => exact Nat.le_succ_of_le (hle i (by simp [hi]))
  case h_2 => exact Nat.succ_le_succ (foldl_max_le (Nat.zero_le _) (by simpa using h.depth_le))

end HasPatterns

/-! ## Parts of a text -/

/-- A part of a text adds the patterns `ps` to those before it.  They are nested no deeper than `d`,
and the groups in them have the numbers from `k` up to `l`, without `l`. -/
def Denotes (free : Bool) (k : Nat) (u : Text) (ps : List Pattern) (l d : Nat) : Prop :=
  ∀ s : State, s.flags = {} → s.nextGroup = k →
    ∃ items, HasPatterns items ps d ∧ Reads free s u (s.behind items l)

theorem escape_meta {c : Char} (hc : metaChars.contains c = true) (t : Text) :
    escape {} (c :: t) = some (.char c false, t) := by
  have he : isEscapable c = true := by
    rw [isEscapable, hc]
    rfl
  simp only [escape]
  split
  case h_24 => rw [if_pos he]
  all_goals exact absurd hc (by decide)

namespace Denotes

variable {ps qs : List Pattern} {p : Pattern} {k l m d : Nat}

theorem bound (h : Denotes free k u ps l d) : Denotes false k u ps l d := fun s hs hk =>
  let ⟨items, hi, hr⟩ := h s hs hk
  ⟨items, hi, hr.bound⟩

theorem mono (h : Denotes free k u ps l d) {e : Nat} (hde : d ≤ e) : Denotes free k u ps l e :=
  fun s hs hk =>
    let ⟨items, hi, hr⟩ := h s hs hk
    ⟨items, hi.mono hde, hr⟩

/-! ### Rows -/

theorem nil : Denotes true k [] [] k d := fun s _ hk =>
  ⟨[], ⟨rfl, by simp, by simp⟩, by subst hk; exact Reads.refl s⟩

theorem append (h : Denotes true k u ps l d) (h' : Denotes free l v qs m d) :
    Denotes free k (u ++ v) (ps ++ qs) m d := by
  intro s hs hk
  obtain ⟨is, hi, hr⟩ := h s hs hk
  obtain ⟨js, hj, hr'⟩ := h' (s.behind is l) hs rfl
  exact ⟨is ++ js, hi.append hj, State.behind_behind .. ▸ hr.trans hr'⟩

theorem append_of_head (h : Denotes false k u ps l d) (h' : Denotes false l v qs m d)
    (hv : v.head? ≠ some '?') : Denotes false k (u ++ v) (ps ++ qs) m d := by
  intro s hs hk
  obtain ⟨is, hi, hr⟩ := h s hs hk
  obtain ⟨js, hj, hr'⟩ := h' (s.behind is l) hs rfl
  exact ⟨is ++ js, hi.append hj, State.behind_behind .. ▸ hr.trans_of_head hr' hv (by simp)⟩

/-! ### Characters -/

/-- What adds one item in one round. -/
theorem single {c : Char} (p : Pattern) (d : Nat)
    (h : ∀ s : State, s.flags = {} → ∀ rest : Text, (free = true ∨ rest.head? ≠ some '?') →
      readItem s c (u ++ rest) = some (s.push ⟨p, d, true⟩, rest)) :
    Denotes free k (c :: u) [p] k d := fun s hs hk =>
  ⟨[⟨p, d, true⟩], .single rfl (Nat.le_refl d), by subst hk; exact Reads.step hs (h s hs)⟩

theorem plain {c : Char} (hc : metaChars.contains c = false) :
    Denotes true k [c] [.chars (.single c)] k 0 := by
  refine single (.chars (.single c)) 0 fun s hs rest _ => ?_
  unfold readItem
  split
  case h_13 =>
    simp only [hs]
    rfl
  all_goals exact absurd hc (by decide)

theorem escaped {c : Char} (hc : metaChars.contains c = true) :
    Denotes true k ['\\', c] [.chars (.single c)] k 0 := by
  refine single (.chars (.single c)) 0 fun s hs rest _ => ?_
  simp only [readItem, hs, List.cons_append, List.nil_append, escape_meta hc]
  rfl

/-- An escaped text denotes its characters. -/
theorem escape (t : Text) : Denotes true k (Pattern.escape t) (Pattern.ofChars t) k 0 := by
  induction t with
  | nil => exact nil
  | cons c t ih =>
      rw [Pattern.escape, List.flatMap_cons]
      split
      case isTrue hc => exact (escaped hc).append ih
      case isFalse hc => exact (plain (by simpa using hc)).append ih

theorem head?_escape_ne (t : Text) : (Pattern.escape t).head? ≠ some '?' := by
  cases t with
  | nil => decide
  | cons c t =>
      rw [Pattern.escape, List.flatMap_cons]
      split
      case isTrue => simp
      case isFalse hc =>
        intro h
        obtain rfl : c = '?' := by simpa using h
        exact hc (by decide)

theorem notSlash : Denotes true k "[^/]".toList [.chars .notSlash] k 1 := by
  refine single (.chars .notSlash) 1 fun s hs rest _ => ?_
  simp only [readItem, hs]
  rfl

theorem dot : Denotes true k ['.'] [.chars .notLineFeed] k 0 := by
  refine single (.chars .notLineFeed) 0 fun s hs rest _ => ?_
  simp only [readItem, hs]
  rfl

theorem textStart : Denotes true k ['^'] [.look .textStart] k 0 := by
  refine single (.look .textStart) 0 fun s hs rest _ => ?_
  simp only [readItem, hs]
  rfl

theorem textEnd : Denotes true k ['$'] [.look .textEnd] k 0 := by
  refine single (.look .textEnd) 0 fun s hs rest _ => ?_
  simp only [readItem, hs]
  rfl

/-! ### Repetition -/

def IsSign (c : Char) (least : Nat) (most : Option Nat) : Prop :=
  ∀ s t, readItem s c t = s.repeatLast? least most t

theorem isSign_many : IsSign '*' 0 none := fun _ _ => rfl

theorem isSign_more : IsSign '+' 1 none := fun _ _ => rfl

theorem isSign_optional : IsSign '?' 0 (some 1) := fun _ _ => rfl

/-- A repetition as short as possible. -/
theorem lazily {c : Char} {least : Nat} {most : Option Nat} (hc : IsSign c least most)
    (h : Denotes true k u [p] l d) :
    Denotes true k (u ++ [c, '?']) [p.repetition least most false] l (d + 1) := by
  intro s hs hk
  obtain ⟨_, hi, hr⟩ := h s hs hk
  obtain ⟨i, rfl, hip, hid, hir⟩ := hi.eq_singleton
  refine ⟨[⟨p.repetition least most false, i.depth + 1, true⟩],
    .single rfl (Nat.succ_le_succ hid), hr.trans (Reads.step hs fun rest _ => ?_)⟩
  rw [hc]
  simp [State.repeatLast?, State.behind, hip, hir, hs]

/-- A repetition as long as possible. -/
theorem greedily {c : Char} {least : Nat} {most : Option Nat} (hc : IsSign c least most)
    (h : Denotes true k u [p] l d) :
    Denotes false k (u ++ [c]) [p.repetition least most true] l (d + 1) := by
  intro s hs hk
  obtain ⟨_, hi, hr⟩ := h s hs hk
  obtain ⟨i, rfl, hip, hid, hir⟩ := hi.eq_singleton
  refine ⟨[⟨p.repetition least most true, i.depth + 1, true⟩],
    .single rfl (Nat.succ_le_succ hid), hr.trans (Reads.step hs fun rest hrest => ?_)⟩
  rw [hc]
  cases rest with
  | nil => simp [State.repeatLast?, State.behind, hip, hir, hs]
  | cons e rest =>
      have he : e ≠ '?' := by simpa using hrest
      simp [State.repeatLast?, State.behind, hip, hir, hs, he]

/-! ### Groups -/

theorem openGroup_numbered (hs : s.flags = {}) {t : Text} (ht : t.head? ≠ some '?') :
    openGroup s t = some (s.enterNumbered, t) := by
  have hskip : Flags.skip {} t = t := rfl
  rw [openGroup, hs, hskip]
  split
  case h_8 => rfl
  all_goals exact absurd rfl ht

theorem openNumbered (hs : s.flags = {}) : Reads false s ['('] s.enterNumbered :=
  Reads.step hs fun rest hr => by
    rw [List.nil_append, readItem, openGroup_numbered hs (by simpa using hr)]

theorem openUnnumbered (hs : s.flags = {}) : Reads true s "(?:".toList (s.enter none s.flags) :=
  Reads.step hs fun rest _ => by
    simp only [readItem, openGroup, hs]
    rfl

/-- A recorded group. -/
theorem group (h : Denotes false (k + 1) u ps l d) (hu : u.head? ≠ some '?') :
    Denotes true k (inGroup u) [.group k (.seqs ps)] l (d + 2) := by
  intro s hs hk
  subst hk
  obtain ⟨items, hi, hr⟩ := h s.enterNumbered hs rfl
  refine ⟨[⟨.group s.nextGroup (.seqs ps), (Item.row items.reverse).depth + 1, true⟩],
    .single rfl (Nat.succ_le_succ hi.row_depth_le), ?_⟩
  refine (openNumbered hs).trans_of_head (hr.trans_of_head (Reads.step hs fun rest _ => ?_) ?_ ?_)
    ?_ ?_
  · have := hi.row_pattern
    simp_all [readItem, State.leave?, State.enterNumbered, State.enter, State.behind, State.body,
      Item.choice]
  · decide
  · simp
  · exact head?_append_ne hu (by decide)
  · simp

/-- Closing a group that is not recorded. -/
theorem closeUnnumbered (hs : s.flags = {}) (items : List Item) (k : Nat) (branches : List Item) :
    Reads true
      { s.enter none s.flags with
        items := items, branches := branches, nextGroup := k } [')']
      (s.behind [{ pattern := (Item.choice (.row items :: branches)).pattern
                   depth := (Item.choice (.row items :: branches)).depth + 1 }] k) :=
  Reads.step hs fun rest _ => by
    simp [readItem, State.leave?, State.enter, State.behind, State.body]

/-- A group that is not recorded. -/
theorem parens (h : Denotes false k u ps l d) :
    Denotes true k (inParens u) [.seqs ps] l (d + 2) := by
  intro s hs hk
  obtain ⟨items, hi, hr⟩ := h (s.enter none s.flags) hs hk
  refine ⟨[⟨.seqs ps, (Item.row items.reverse).depth + 1, true⟩],
    .single rfl (Nat.succ_le_succ hi.row_depth_le), ?_⟩
  have hclose := closeUnnumbered hs items.reverse l []
  rw [inParens, List.append_assoc]
  refine (openUnnumbered hs).trans (hr.trans_of_head (v := [')']) ?_ (by decide) (by simp))
  have hp : (Item.row items.reverse).pattern = .seqs ps := hi.row_pattern
  simpa [State.behind, State.enter, Item.choice, hp] using hclose

/-! ### Alternatives -/

/-- Alternatives, each of which denotes one pattern. -/
theorem reads_join {α : Type} {text : α → Text} {pattern : α → Pattern}
    (h : ∀ a, Denotes true s.nextGroup (text a) [pattern a] s.nextGroup d) (as : List α) (a : α)
    (hs : s.flags = {}) (hi : s.items = []) :
    ∃ items branches all, HasPatterns all ((a :: as).map pattern) d ∧
      Item.row items :: branches = all.reverse ++ s.branches ∧
      Reads true s (Text.join ['|'] ((a :: as).map text))
        { s with items := items, branches := branches } := by
  induction as generalizing a s with
  | nil =>
      obtain ⟨_, hp, hr⟩ := h a s hs rfl
      obtain ⟨i, rfl, hip, hid, hir⟩ := hp.eq_singleton
      refine ⟨[i], s.branches, [i], hp, rfl, ?_⟩
      simpa [Text.join, State.behind, hi] using hr
  | cons b as ih =>
      obtain ⟨_, hp, hr⟩ := h a s hs rfl
      obtain ⟨i, rfl, hip, hid, hir⟩ := hp.eq_singleton
      obtain ⟨items, branches, all, hall, hrow, hr'⟩ :=
        ih (s := { s with items := [], branches := i :: s.branches }) h b hs rfl
      refine ⟨items, branches, i :: all, hp.append hall, by simpa using hrow, ?_⟩
      have hbar : Reads true (s.behind [i] s.nextGroup) ['|']
          { s with items := [], branches := i :: s.branches } :=
        Reads.step hs fun rest _ => by simp [readItem, State.behind, hi, Item.row]
      simpa [Text.join] using hr.trans (hbar.trans hr')

/-- A group of alternatives. -/
theorem alternatives {α : Type} {text : α → Text} {pattern : α → Pattern}
    (h : ∀ a, Denotes true k (text a) [pattern a] k d) {as : List α} (has : as ≠ []) :
    Denotes true k (inParens (Text.join ['|'] (as.map text)))
      [.alts (as.map pattern)] k (d + 2) := by
  intro s hs hk
  subst hk
  obtain ⟨a, as, rfl⟩ := List.exists_cons_of_ne_nil has
  obtain ⟨items, branches, all, hall, hrow, hr⟩ :=
    reads_join (s := s.enter none s.flags) h as a hs rfl
  have hrow : Item.row items :: branches = all.reverse := by simpa [State.enter] using hrow
  refine ⟨[⟨.alts ((a :: as).map pattern), (Item.choice all.reverse).depth + 1, true⟩],
    .single rfl (Nat.succ_le_succ hall.choice_depth_le), ?_⟩
  have hclose := closeUnnumbered hs items s.nextGroup branches
  rw [hrow, hall.choice_pattern] at hclose
  rw [inParens, List.append_assoc]
  exact (openUnnumbered hs).trans (hr.trans hclose)

/-! ### The whole text -/

/-- A text that denotes patterns, nested not too deeply, denotes their row if that is not too
large. -/
theorem ofText?_eq (h : Denotes free 1 u ps l d) (hd : d + 1 ≤ depthLimit) :
    Pattern.ofText? u =
      if Pattern.weightLimit < (Pattern.seqs ps).weight then none else some (.seqs ps) := by
  obtain ⟨items, hi, hr⟩ := h {} rfl rfl
  have hread := hr.readItems_eq rfl
  have hp : (Item.row items.reverse).pattern = .seqs ps := hi.row_pattern
  have hdepth := hi.row_depth_le
  simp only [Pattern.ofText?, hread, State.behind, State.body, Item.choice]
  have hle : ¬ depthLimit < (Item.row items.reverse).depth := by omega
  simp [hle, hp]

end Denotes
end RegexReader
end PathTemplate
