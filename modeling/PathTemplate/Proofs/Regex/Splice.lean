import PathTemplate.Proofs.Regex.Action
import PathTemplate.Proofs.Regex.Groups
import PathTemplate.Regex.Denotation

/-!
# Splice — a text that is read within another

A text that is a regular expression by itself can be put between parentheses within another.  What
the reader makes of it there is what it makes of it alone, behind what was read before and with
larger numbers for its groups, or else it fails, or a comment in the text swallows the parenthesis.

- `State.splice`   : a state of the reader put above open groups
- `act?_leave_iff`, `act?_repeatLast_iff` : what the actions that may fail have done
- `act?_splice`    : actions on such a state
- `Reaches`        : what is read from one place is read from another
- `reaches_splice` : the run of the reader on a text, with a parenthesis behind it
- `groupFree_of_readItems` : what has been read has a group only if one has been counted
-/

namespace PathTemplate
namespace RegexReader

/-! ## States above others -/

def Item.renumber (n : Nat) (i : Item) : Item := { i with pattern := i.pattern.renumber n }

def OpenGroup.renumber (n : Nat) (o : OpenGroup) : OpenGroup where
  items := o.items.map (Item.renumber n)
  branches := o.branches.map (Item.renumber n)
  number := o.number.map (· + n)
  flags := o.flags

/-- The state above the open groups `below`, where `n` numbers and `names` have been given away. -/
def State.splice (n : Nat) (names : List Text) (below : List OpenGroup) (s : State) : State where
  items := s.items.map (Item.renumber n)
  branches := s.branches.map (Item.renumber n)
  below := s.below.map (OpenGroup.renumber n) ++ below
  flags := s.flags
  nextGroup := s.nextGroup + n
  names := s.names ++ names

variable {n : Nat} {names : List Text} {below : List OpenGroup}
variable {f : Flags} {s s' : State} {t t₁ : Text} {c : Char} {a : Action}

theorem Item.row_pattern (items : List Item) :
    (Item.row items).pattern = .seqs (items.reverse.map Item.pattern) := by
  unfold Item.row
  split
  case h_1 i => rfl
  case h_2 => rfl

theorem Item.choice_pattern (branches : List Item) :
    (Item.choice branches).pattern = .alts (branches.reverse.map Item.pattern) := by
  unfold Item.choice
  split
  case h_1 i => rfl
  case h_2 => rfl

def Item.mapPattern (φ : Pattern → Pattern) (i : Item) : Item := { i with pattern := φ i.pattern }

section MapPattern

variable {φ : Pattern → Pattern}

theorem Item.map_pattern_mapPattern (φ : Pattern → Pattern) (items : List Item) :
    (items.map (Item.mapPattern φ)).reverse.map Item.pattern =
      (items.reverse.map Item.pattern).map φ := by
  simp [Item.mapPattern, Function.comp_def]

theorem Item.map_depth_mapPattern (φ : Pattern → Pattern) (items : List Item) :
    (items.map (Item.mapPattern φ)).map Item.depth = items.map Item.depth := by
  rw [List.map_map]
  rfl

/-- The depth of a row is that of its items, which their patterns do not change. -/
theorem Item.mapPattern_row (hφ : ∀ ps, φ (.seqs ps) = .seqs (ps.map φ)) (items : List Item) :
    (Item.row items).mapPattern φ = Item.row (items.map (Item.mapPattern φ)) := by
  match items with
  | [] =>
      have hempty : φ .empty = .empty := hφ []
      simp only [Item.row, Item.mapPattern, List.reverse_nil, List.map_nil, Pattern.seqs, hempty]
  | [i] => rfl
  | i :: j :: items =>
      have hpattern := Item.map_pattern_mapPattern φ (i :: j :: items)
      have hseqs := hφ ((i :: j :: items).reverse.map Item.pattern)
      have hdepth := Item.map_depth_mapPattern φ (i :: j :: items)
      rw [← hpattern] at hseqs
      simp only [Item.row, Item.mapPattern, List.map_cons] at hseqs hdepth ⊢
      rw [hseqs, hdepth]

theorem Item.mapPattern_choice (hφ : ∀ ps, φ (.alts ps) = .alts (ps.map φ))
    (branches : List Item) :
    (Item.choice branches).mapPattern φ = Item.choice (branches.map (Item.mapPattern φ)) := by
  match branches with
  | [] =>
      have hnone : φ (.chars .none) = .chars .none := hφ []
      simp only [Item.choice, Item.mapPattern, List.reverse_nil, List.map_nil, Pattern.alts, hnone]
  | [i] => rfl
  | i :: j :: branches =>
      have hpattern := Item.map_pattern_mapPattern φ (i :: j :: branches)
      have halts := hφ ((i :: j :: branches).reverse.map Item.pattern)
      have hdepth := Item.map_depth_mapPattern φ (i :: j :: branches)
      rw [← hpattern] at halts
      simp only [Item.choice, Item.mapPattern, List.map_cons] at halts hdepth ⊢
      rw [halts, hdepth]

end MapPattern

theorem Item.renumber_row (n : Nat) (items : List Item) :
    (Item.row items).renumber n = Item.row (items.map (Item.renumber n)) :=
  Item.mapPattern_row (Pattern.renumber_seqs n) items

theorem Item.renumber_choice (n : Nat) (branches : List Item) :
    (Item.choice branches).renumber n = Item.choice (branches.map (Item.renumber n)) :=
  Item.mapPattern_choice (Pattern.renumber_alts n) branches

theorem State.body_splice (s : State) : (s.splice n names below).body = s.body.renumber n := by
  rw [State.body, State.body, Item.renumber_choice, List.map_cons, Item.renumber_row]
  rfl

/-! ### What an action has done -/

/-- The item that an open group becomes when it is closed. -/
def OpenGroup.close (o : OpenGroup) (body : Item) : Item where
  pattern := match o.number with
    | some k => .group k body.pattern
    | none => body.pattern
  depth := body.depth + 1

theorem act?_enterNumbered (s : State) (name : Option Text) :
    s.act? (.enterNumbered name) = none ∨
      s.act? (.enterNumbered name) =
        some { s.enterNumbered with names := name.toList ++ s.names } := by
  cases name with
  | none => exact .inr rfl
  | some name =>
      cases htaken : s.names.contains name with
      | true => exact .inl (by rw [State.act?, if_pos htaken])
      | false => exact .inr (by rw [State.act?, htaken]; rfl)

theorem eq_of_enterNumbered {name : Option Text} (h : s.act? (.enterNumbered name) = some s') :
    s' = { s.enterNumbered with names := name.toList ++ s.names } := by
  rcases act?_enterNumbered s name with hnone | hsome
  · rw [hnone] at h
    cases h
  · rw [hsome] at h
    cases h
    rfl

theorem act?_leave_iff :
    s.act? .leave = some s' ↔
      ∃ o rest, s.below = o :: rest ∧
        s' = { s with
          items := o.close s.body :: o.items
          branches := o.branches
          below := rest
          flags := o.flags } := by
  unfold State.act? State.leave?
  constructor
  · intro h
    cases hbelow : s.below with
    | nil => simp [hbelow] at h
    | cons o rest =>
        simp only [hbelow] at h
        cases h
        exact ⟨o, rest, rfl, rfl⟩
  · rintro ⟨o, rest, hbelow, rfl⟩
    simp only [hbelow]
    rfl

theorem act?_repeatLast_iff {least : Nat} {most : Option Nat} {greedy : Bool} :
    s.act? (.repeatLast least most greedy) = some s' ↔
      ∃ item items, s.items = item :: items ∧ item.repeatable = true ∧
        s' = { s with
          items := { pattern := item.pattern.repetition least most (greedy != s.flags.swapGreed)
                     depth := item.depth + 1 } :: items } := by
  unfold State.act?
  constructor
  · intro h
    cases hitems : s.items with
    | nil => simp [hitems] at h
    | cons item items =>
        simp only [hitems] at h
        split at h
        case isFalse => cases h
        case isTrue hrepeatable =>
          cases h
          exact ⟨item, items, rfl, hrepeatable, rfl⟩
  · rintro ⟨item, items, hitems, hrepeatable, rfl⟩
    simp only [hitems, hrepeatable, if_true]

/-! ### Actions above other groups -/

theorem OpenGroup.renumber_close (n : Nat) (o : OpenGroup) (body : Item) :
    (o.close body).renumber n = (o.renumber n).close (body.renumber n) := by
  cases hnumber : o.number with
  | none => simp [close, renumber, hnumber, Item.renumber]
  | some k => simp [close, renumber, hnumber, Item.renumber, Pattern.renumber]

/-- Only a number given away is another one there, and only a name can be taken. -/
theorem enterNumbered_splice (name : Option Text) :
    { (s.splice n names below).enterNumbered with
        names := name.toList ++ (s.splice n names below).names } =
      { s.enterNumbered with names := name.toList ++ s.names }.splice n names below := by
  have hnext : s.nextGroup + n + 1 = s.nextGroup + 1 + n := Nat.add_right_comm _ _ _
  have hnames : name.toList ++ (s.names ++ names) = name.toList ++ s.names ++ names :=
    (List.append_assoc _ _ _).symm
  simp only [State.enterNumbered, State.enter, State.splice, hnext, hnames]
  rfl

theorem leave_splice (h : s.act? .leave = some s') :
    (s.splice n names below).act? .leave = some (s'.splice n names below) := by
  rcases act?_leave_iff.mp h with ⟨o, rest, hbelow, rfl⟩
  refine act?_leave_iff.mpr ⟨o.renumber n, rest.map (OpenGroup.renumber n) ++ below, ?_, ?_⟩
  · simp [State.splice, hbelow]
  · rw [State.body_splice, ← OpenGroup.renumber_close]
    rfl

theorem repeatLast_splice {least : Nat} {most : Option Nat} {greedy : Bool}
    (h : s.act? (.repeatLast least most greedy) = some s') :
    (s.splice n names below).act? (.repeatLast least most greedy) =
      some (s'.splice n names below) := by
  rcases act?_repeatLast_iff.mp h with ⟨item, items, hitems, hrepeatable, rfl⟩
  refine act?_repeatLast_iff.mpr
    ⟨item.renumber n, items.map (Item.renumber n), ?_, hrepeatable, ?_⟩
  · simp [State.splice, hitems]
  · simp [State.splice, Item.renumber, Pattern.renumber_repetition]

/-- An action above other groups does the same, unless a name has been given away there. -/
theorem act?_splice (ha : a.AddsNoGroup) (h : s.act? a = some s') :
    (s.splice n names below).act? a = none ∨
      (s.splice n names below).act? a = some (s'.splice n names below) := by
  cases a with
  | enterNumbered name =>
      rw [eq_of_enterNumbered h, ← enterNumbered_splice]
      exact act?_enterNumbered _ name
  | enter flags =>
      cases h
      exact .inr rfl
  | setFlags flags =>
      cases h
      exact .inr rfl
  | leave => exact .inr (leave_splice h)
  | branch =>
      cases h
      refine .inr ?_
      simp only [State.act?, State.splice, List.map_cons, List.map_nil, Item.renumber_row]
  | push item =>
      -- What is read in one round has no groups, so that there is nothing to number again.
      cases h
      have hitem : item.renumber n = item := by
        rw [Item.renumber, Pattern.GroupFree.renumber_eq ha]
      refine .inr ?_
      simp only [State.act?, State.push, State.splice, List.map_cons, hitem]
  | repeatLast least most greedy => exact .inr (repeatLast_splice h)

/-! ## Runs -/

/-- What is read to the end from one place is read from the other, maybe in fewer rounds. -/
def Reaches (s : State) (t : Text) (s' : State) (t' : Text) : Prop :=
  ∀ m u, readItems m s t = some u → ∃ m', readItems m' s' t' = some u

namespace Reaches

variable {s'' : State} {t' t'' : Text}

theorem refl (s : State) (t : Text) : Reaches s t s t := fun m _ h => ⟨m, h⟩

theorem trans (h : Reaches s t s' t') (h' : Reaches s' t' s'' t'') : Reaches s t s'' t'' := by
  intro m u hu
  rcases h m u hu with ⟨m', hu'⟩
  exact h' m' u hu'

theorem of_skip_eq (h : s.flags.skip t = s.flags.skip t') : Reaches s t s t' := by
  intro m u hu
  cases m with
  | zero => cases hu
  | succ m => exact ⟨m + 1, by rwa [readItems, ← h, ← readItems]⟩

/-- One round, unless it fails. -/
theorem of_readItem (hskip : s.flags.skip t = c :: t')
    (h : readItem s c t' = none ∨ readItem s c t' = some (s', t₁)) : Reaches s t s' t₁ := by
  intro m u hu
  cases m with
  | zero => cases hu
  | succ m =>
      rw [readItems, hskip] at hu
      rcases Option.bind_eq_some_iff.mp hu with ⟨p, hp, hu⟩
      rcases h with h | h
      · rw [h] at hp
        cases hp
      · rw [h] at hp
        cases hp
        exact ⟨m, hu⟩

/-- At the end of the text nothing more is read. -/
theorem eq_of_nil (h : Reaches s t s' []) {m : Nat} {u : State} (hu : readItems m s t = some u) :
    u = s' := by
  rcases h m u hu with ⟨m', hu'⟩
  cases m' with
  | zero => cases hu'
  | succ m' =>
      rw [readItems, Flags.skip_nil_eq] at hu'
      exact (Option.some.inj hu').symm

end Reaches

/-- More rounds than needed do no harm. -/
theorem readItems_mono {m : Nat} {u : State} (h : readItems m s t = some u) (k : Nat) :
    readItems (k + m) s t = some u := by
  -- The run ends with the text, not with the rounds.
  induction m generalizing s t with
  | zero => cases h
  | succ m ih =>
      rw [readItems] at h
      rw [← Nat.add_assoc, readItems]
      cases hskip : s.flags.skip t with
      | nil =>
          rw [hskip] at h
          exact h
      | cons c r =>
          rw [hskip] at h
          rcases Option.bind_eq_some_iff.mp h with ⟨p, hp, h⟩
          exact Option.bind_eq_some_iff.mpr ⟨p, hp, ih h⟩

theorem Reads.reaches {free : Bool} {u : Text} (h : Reads free s u s') {rest : Text}
    (hrest : free = true ∨ rest.head? ≠ some '?') : Reaches s (u ++ rest) s' rest := by
  rcases h with ⟨k, _, hread⟩
  intro m w hw
  have hmore := readItems_mono hw k
  rw [hread m rest hrest] at hmore
  exact ⟨m, hmore⟩

theorem reaches_of_readAction {r : Text} (hskip : s.flags.skip t = c :: r)
    (haction : readAction s.flags c r = some (a, t₁)) (happly : s.act? a = some s') :
    Reaches (s.splice n names below) t (s'.splice n names below) t₁ := by
  refine Reaches.of_readItem hskip ?_
  rw [readItem_eq]
  change State.perform _ (readAction s.flags c r) = none ∨
    State.perform _ (readAction s.flags c r) = _
  rw [haction, State.perform, Option.bind_some]
  rcases act?_splice (addsNoGroup_of_readAction haction) happly with hnone | hsome
  · exact .inl (by rw [hnone]; rfl)
  · exact .inr (by rw [hsome]; rfl)

theorem action_of_readItem {p : State × Text} (h : readItem s c t = some p) :
    ∃ a, readAction s.flags c t = some (a, p.2) ∧ s.act? a = some p.1 := by
  rw [readItem_eq] at h
  rcases Option.bind_eq_some_iff.mp h with ⟨⟨a, t₁⟩, haction, h⟩
  rcases Option.map_eq_some_iff.mp h with ⟨s₁, happly, rfl⟩
  exact ⟨a, haction, happly⟩

/-- A text that is read to its end is read in the same way above other groups, up to a parenthesis
behind it; or else a comment at the end of the text swallows the parenthesis. -/
theorem reaches_splice {m : Nat} (h : readItems m s t = some s') :
    (∀ n names below v, Reaches (s.splice n names below) (t ++ ')' :: v)
        (s'.splice n names below) (')' :: v)) ∨
      ∀ n names below, Reaches (s.splice n names below) (t ++ [')'])
        (s'.splice n names below) [] := by
  induction m generalizing s t with
  | zero => cases h
  | succ m ih =>
      rw [readItems] at h
      cases hskip : s.flags.skip t with
      | nil =>
          rw [hskip] at h
          cases h
          rcases Flags.skip_nil hskip with hkept | hswallowed
          · refine .inl fun n names below v => Reaches.of_skip_eq ?_
            exact (hkept v).trans (Flags.skip_parenthesis s'.flags v).symm
          · refine .inr fun n names below => Reaches.of_skip_eq ?_
            exact hswallowed.trans (Flags.skip_nil_eq s'.flags).symm
      | cons c r =>
          rw [hskip] at h
          rcases Option.bind_eq_some_iff.mp h with ⟨p, hitem, hrest⟩
          rcases action_of_readItem hitem with ⟨a, haction, happly⟩
          rcases p with ⟨s₁, t₁⟩
          rcases readAction_closes haction with hclosed | ⟨rfl, hclosed⟩
          · -- The round is the same, so that the rest of the run decides.
            have hstep : ∀ n names below v, Reaches (s.splice n names below) (t ++ ')' :: v)
                (s₁.splice n names below) (t₁ ++ ')' :: v) := fun n names below v =>
              reaches_of_readAction (Flags.skip_cons hskip _) (hclosed v) happly
            rcases ih hrest with hrun | hrun
            · exact .inl fun n names below v =>
                (hstep n names below v).trans (hrun n names below v)
            · exact .inr fun n names below => (hstep n names below []).trans (hrun n names below)
          · -- The comment ends the text, and with it the run.
            have hend : s' = s₁ := (Reaches.refl s₁ []).eq_of_nil hrest
            subst hend
            exact .inr fun n names below =>
              reaches_of_readAction (Flags.skip_cons hskip _) hclosed happly

/-! ## What has been read without counting -/

structure OpenGroup.GroupFree (o : OpenGroup) : Prop where
  number : o.number = none
  items : ∀ i ∈ o.items, i.pattern.GroupFree
  branches : ∀ i ∈ o.branches, i.pattern.GroupFree

structure State.GroupFree (s : State) : Prop where
  items : ∀ i ∈ s.items, i.pattern.GroupFree
  branches : ∀ i ∈ s.branches, i.pattern.GroupFree
  below : ∀ o ∈ s.below, o.GroupFree

theorem Item.groupFree_row {items : List Item} (h : ∀ i ∈ items, i.pattern.GroupFree) :
    (Item.row items).pattern.GroupFree := by
  rw [Item.row_pattern, Pattern.groupFree_seqs_iff]
  intro p hp
  rcases List.mem_map.mp hp with ⟨i, hi, rfl⟩
  exact h i (List.mem_reverse.mp hi)

theorem Item.groupFree_choice {branches : List Item} (h : ∀ i ∈ branches, i.pattern.GroupFree) :
    (Item.choice branches).pattern.GroupFree := by
  rw [Item.choice_pattern, Pattern.groupFree_alts_iff]
  intro p hp
  rcases List.mem_map.mp hp with ⟨i, hi, rfl⟩
  exact h i (List.mem_reverse.mp hi)

theorem State.GroupFree.body (h : s.GroupFree) : s.body.pattern.GroupFree :=
  Item.groupFree_choice (List.forall_mem_cons.mpr ⟨Item.groupFree_row h.items, h.branches⟩)

theorem OpenGroup.GroupFree.close {o : OpenGroup} {body : Item} (h : o.GroupFree)
    (hbody : body.pattern.GroupFree) : (o.close body).pattern.GroupFree := by
  rw [OpenGroup.close, h.number]
  exact hbody

theorem State.GroupFree.leave (h : s.act? .leave = some s') (hs : s.GroupFree) :
    s'.GroupFree := by
  rcases act?_leave_iff.mp h with ⟨o, rest, hbelow, rfl⟩
  have hall := hs.below
  rw [hbelow] at hall
  rcases List.forall_mem_cons.mp hall with ⟨ho, hrest⟩
  exact ⟨List.forall_mem_cons.mpr ⟨ho.close hs.body, ho.items⟩, ho.branches, hrest⟩

theorem State.GroupFree.repeatLast {least : Nat} {most : Option Nat} {greedy : Bool}
    (h : s.act? (.repeatLast least most greedy) = some s') (hs : s.GroupFree) :
    s'.GroupFree := by
  rcases act?_repeatLast_iff.mp h with ⟨item, items, hitems, _, rfl⟩
  have hall := hs.items
  rw [hitems] at hall
  rcases List.forall_mem_cons.mp hall with ⟨hitem, hrest⟩
  exact ⟨List.forall_mem_cons.mpr ⟨hitem.repetition _ _ _, hrest⟩, hs.branches, hs.below⟩

/-- An action gives away no number, and then leaves nothing that is recorded, or it gives away
one. -/
theorem groupFree_of_act? (ha : a.AddsNoGroup) (h : s.act? a = some s') :
    (s'.nextGroup = s.nextGroup ∧ (s.GroupFree → s'.GroupFree)) ∨
      s'.nextGroup = s.nextGroup + 1 := by
  -- Only a recorded group takes a number, so the two sides are told apart by the number.
  cases a with
  | enterNumbered name =>
      rw [eq_of_enterNumbered h]
      exact .inr rfl
  | enter flags =>
      cases h
      refine .inl ⟨rfl, fun hs => ⟨List.forall_mem_nil _, List.forall_mem_nil _, ?_⟩⟩
      exact List.forall_mem_cons.mpr ⟨⟨rfl, hs.items, hs.branches⟩, hs.below⟩
  | setFlags flags =>
      cases h
      refine .inl ⟨rfl, fun hs => ⟨?_, hs.branches, hs.below⟩⟩
      exact List.forall_mem_cons.mpr ⟨trivial, hs.items⟩
  | leave =>
      refine .inl ⟨?_, fun hs => hs.leave h⟩
      rcases act?_leave_iff.mp h with ⟨o, rest, _, rfl⟩
      rfl
  | branch =>
      cases h
      refine .inl ⟨rfl, fun hs => ⟨List.forall_mem_nil _, ?_, hs.below⟩⟩
      exact List.forall_mem_cons.mpr ⟨Item.groupFree_row hs.items, hs.branches⟩
  | push item =>
      cases h
      refine .inl ⟨rfl, fun hs => ⟨?_, hs.branches, hs.below⟩⟩
      exact List.forall_mem_cons.mpr ⟨ha, hs.items⟩
  | repeatLast least most greedy =>
      refine .inl ⟨?_, fun hs => hs.repeatLast h⟩
      rcases act?_repeatLast_iff.mp h with ⟨item, items, _, _, rfl⟩
      rfl

/-- What is read without a number being given away is not recorded. -/
theorem groupFree_of_readItems {m : Nat} (h : readItems m s t = some s') :
    s.nextGroup ≤ s'.nextGroup ∧
      (s.nextGroup = s'.nextGroup → s.GroupFree → s'.GroupFree) := by
  -- Along a run the next number grows, so that it is kept at the end only if each round keeps it.
  induction m generalizing s t with
  | zero => cases h
  | succ m ih =>
      rw [readItems] at h
      cases hskip : s.flags.skip t with
      | nil =>
          rw [hskip] at h
          cases h
          exact ⟨Nat.le_refl _, fun _ hs => hs⟩
      | cons c r =>
          rw [hskip] at h
          rcases Option.bind_eq_some_iff.mp h with ⟨p, hitem, hrest⟩
          rcases action_of_readItem hitem with ⟨a, haction, happly⟩
          rcases ih hrest with ⟨hle, hfree⟩
          rcases groupFree_of_act? (addsNoGroup_of_readAction haction) happly with
            ⟨hkept, hstep⟩ | hgiven
          · exact ⟨hkept ▸ hle, fun heq hs => hfree (hkept.trans heq) (hstep hs)⟩
          · -- Numbers are never taken back, so that the run has given away this one at least.
            have hlt : s.nextGroup < s'.nextGroup := by omega
            exact ⟨Nat.le_of_lt hlt, fun heq => absurd heq (Nat.ne_of_lt hlt)⟩

end RegexReader
end PathTemplate
