import PathTemplate.Proofs.Regex.Splice

/-!
# Enclosure — a regular expression between parentheses

A text that is a regular expression by itself and is one between parentheses denotes one group
wherever it stands between parentheses.  Reading it may still fail there, for a name that has been
given to another group.

- `ofText?_eq_some_iff` : the run of the reader on a regular expression
- `Encloses`         : the condition on the text
- `Leads`            : a part of a text, if it is read, adds patterns to those before it
- `Encloses.leads`   : the part of such a text between parentheses adds one group
- `Leads.ofText?_eq` : the pattern of a whole text from the patterns of its parts
-/

namespace PathTemplate
namespace RegexReader

variable {k l m : Nat} {s : State} {u v : Text} {ps qs : List Pattern}

/-- What a regular expression is read to: no group is open, no limit is passed, and the pattern is
what was read. -/
theorem ofText?_eq_some_iff {p : Pattern} :
    Pattern.ofText? u = some p ↔ ∃ s, readItems (u.length + 1) {} u = some s ∧ s.below = [] ∧
      s.body.depth ≤ depthLimit ∧ s.body.pattern.weight ≤ Pattern.weightLimit ∧
      p = s.body.pattern := by
  unfold Pattern.ofText?
  constructor
  · intro hp
    rcases Option.bind_eq_some_iff.mp hp with ⟨s, hread, hp⟩
    refine ⟨s, hread, ?_⟩
    dsimp only at hp
    split at hp
    case isTrue => cases hp
    case isFalse hbelow =>
      split at hp
      case isTrue => cases hp
      case isFalse hdepth =>
        split at hp
        case isTrue => cases hp
        case isFalse hweight =>
          cases hp
          exact ⟨by simpa using hbelow, Nat.le_of_not_lt hdepth, Nat.le_of_not_lt hweight, rfl⟩
  · rintro ⟨s, hread, hbelow, hdepth, hweight, rfl⟩
    refine Option.bind_eq_some_iff.mpr ⟨s, hread, ?_⟩
    simp [hbelow, Nat.not_lt.mpr hdepth, Nat.not_lt.mpr hweight]

theorem exists_readItems {p : Pattern} (hp : Pattern.ofText? u = some p) :
    ∃ m s, readItems m {} u = some s ∧ s.below = [] ∧ p = s.body.pattern := by
  rcases ofText?_eq_some_iff.mp hp with ⟨s, hread, hbelow, _, _, rfl⟩
  exact ⟨_, s, hread, hbelow, rfl⟩

/-! ## Parts of a text -/

/-- A part of a text adds the patterns `ps` to those before it, unless reading it fails.  The groups
in it get the numbers from `k` up to `l`, without `l`. -/
def Leads (k : Nat) (u : Text) (ps : List Pattern) (l : Nat) : Prop :=
  ∀ s : State, s.flags = {} → s.nextGroup = k →
    ∃ items names, items.map Item.pattern = ps ∧ ∀ rest : Text, rest.head? ≠ some '?' →
      Reaches s (u ++ rest) { s.behind items l with names } rest

theorem Denotes.leads {free : Bool} {d : Nat} (h : Denotes free k u ps l d) : Leads k u ps l := by
  intro s hs hk
  rcases h s hs hk with ⟨items, hitems, hreads⟩
  exact ⟨items, s.names, hitems.map_pattern, fun rest hrest => hreads.reaches (.inr hrest)⟩

namespace Leads

theorem nil (k : Nat) : Leads k [] [] k := by
  intro s _ hk
  subst hk
  exact ⟨[], s.names, rfl, fun rest _ => Reaches.refl s rest⟩

theorem append (h : Leads k u ps l) (h' : Leads l v qs m) (hv : v.head? ≠ some '?') :
    Leads k (u ++ v) (ps ++ qs) m := by
  intro s hs hk
  rcases h s hs hk with ⟨is, names, his, hreach⟩
  rcases h' { s.behind is l with names } hs rfl with ⟨js, names', hjs, hreach'⟩
  refine ⟨is ++ js, names', by rw [List.map_append, his, hjs], fun rest hrest => ?_⟩
  have hfirst := hreach (v ++ rest) (head?_append_ne hv hrest)
  have hboth := hfirst.trans (hreach' rest hrest)
  simpa [State.behind] using hboth

/-- A recorded group. -/
theorem group (h : Leads (k + 1) u ps l) (hu : u.head? ≠ some '?') :
    Leads k (inGroup u) [.group k (.seqs ps)] l := by
  intro s hs hk
  subst hk
  rcases h s.enterNumbered hs rfl with ⟨items, names, hitems, hreach⟩
  refine ⟨[⟨.group s.nextGroup (.seqs ps), (Item.row items.reverse).depth + 1, true⟩], names, rfl,
    fun rest _ => ?_⟩
  have hopen : Reaches s ('(' :: (u ++ ')' :: rest)) s.enterNumbered (u ++ ')' :: rest) :=
    (Denotes.openNumbered hs).reaches (.inr (head?_append_ne hu (by simp)))
  have hbody := hreach (')' :: rest) (by simp)
  have hclose : Reaches { s.enterNumbered.behind items l with names } (')' :: rest)
      { s.behind [⟨.group s.nextGroup (.seqs ps), (Item.row items.reverse).depth + 1, true⟩] l with
        names } rest := by
    refine Reaches.of_readItem (Flags.skip_parenthesis _ rest) (.inr ?_)
    have hrow : (Item.row items.reverse).pattern = .seqs ps := by
      rw [Item.row_pattern, List.reverse_reverse, hitems]
    simp [readItem, State.leave?, State.enterNumbered, State.enter, State.behind, State.body,
      Item.choice, hrow]
  have hall := hopen.trans (hbody.trans hclose)
  simpa [inGroup] using hall

/-- The pattern of a whole text. -/
theorem ofText?_eq {p : Pattern} (h : Leads 1 u ps l) (hp : Pattern.ofText? u = some p) :
    p = .seqs ps := by
  rcases h {} rfl rfl with ⟨items, names, hitems, hreach⟩
  rcases exists_readItems hp with ⟨m, s, hread, _, rfl⟩
  have hwhole := hreach [] (by simp)
  rw [List.append_nil] at hwhole
  rw [hwhole.eq_of_nil hread]
  simp [State.body, State.behind, Item.choice, Item.row_pattern, hitems]

end Leads

/-! ## Between parentheses -/

structure Encloses (u : Text) : Prop where
  alone : (Pattern.ofText? u).isSome = true
  between : (Pattern.ofText? (inGroup u)).isSome = true

namespace Encloses

/-- A sign of repetition does not begin a regular expression. -/
theorem head?_ne (h : Encloses u) : u.head? ≠ some '?' := by
  rcases Option.isSome_iff_exists.mp h.alone with ⟨p, hp⟩
  rcases exists_readItems hp with ⟨m, s, hread, _⟩
  intro hhead
  cases u with
  | nil => cases hhead
  | cons c t =>
      cases hhead
      cases m with
      | zero => cases hread
      -- The first round would repeat an item, and there is none.
      | succ m => cases hread

/-- In a group that has just been opened, the reader begins as at the beginning of a text. -/
theorem reaches_open (hs : s.flags = {}) (hu : u.head? ≠ some '?') (rest : Text) :
    Reaches s (inGroup u ++ rest)
      (State.splice s.nextGroup s.names (⟨s.items, s.branches, some s.nextGroup, {}⟩ :: s.below) {})
      (u ++ ')' :: rest) := by
  have hopen : Reaches s ('(' :: (u ++ ')' :: rest)) s.enterNumbered (u ++ ')' :: rest) :=
    (Denotes.openNumbered hs).reaches (.inr (head?_append_ne hu (by simp)))
  have hentered : s.enterNumbered = State.splice s.nextGroup s.names
      (⟨s.items, s.branches, some s.nextGroup, {}⟩ :: s.below) {} := by
    simp [State.enterNumbered, State.enter, State.splice, hs, Nat.add_comm]
  rw [hentered] at hopen
  simpa [inGroup] using hopen

/-- Such a text between parentheses denotes one group.  Within it there are groups only if numbers
are given away. -/
theorem leads (h : Encloses u) :
    ∃ n, ∀ k, ∃ p, (n = 0 → p.GroupFree) ∧
      Leads k (inGroup u) [.group k p] (k + 1 + n) := by
  rcases Option.isSome_iff_exists.mp h.alone with ⟨p, hp⟩
  rcases exists_readItems hp with ⟨m, s', hread, hbelow, _⟩
  rcases groupFree_of_readItems hread with ⟨hle, hfree⟩
  have hnext : ∀ k, s'.nextGroup + k = k + 1 + (s'.nextGroup - 1) := by
    intro k
    have hle : 1 ≤ s'.nextGroup := hle
    omega
  -- The groups of the text come after the one around it, and their numbers move on with it.
  refine ⟨s'.nextGroup - 1, fun k => ⟨s'.body.pattern.renumber k, ?_, ?_⟩⟩
  · intro hn
    have hone : 1 = s'.nextGroup := Nat.le_antisymm hle (Nat.sub_eq_zero_iff_le.mp hn)
    have hempty : State.GroupFree {} :=
      ⟨List.forall_mem_nil _, List.forall_mem_nil _, List.forall_mem_nil _⟩
    have hbody := (hfree hone hempty).body
    rwa [hbody.renumber_eq]
  · rcases reaches_splice hread with hrun | hrun
    · intro s hs hk
      subst hk
      let item : Item := ⟨.group s.nextGroup (s'.body.pattern.renumber s.nextGroup),
        s'.body.depth + 1, true⟩
      refine ⟨[item], s'.names ++ s.names, rfl, fun rest _ => ?_⟩
      have hopen := reaches_open hs h.head?_ne rest
      -- What was read alone is now above the open group, and the parenthesis closes that one.
      refine (hopen.trans (hrun _ _ _ rest)).trans ?_
      refine Reaches.of_readItem (Flags.skip_parenthesis _ rest) (.inr ?_)
      have hsplice : (State.splice s.nextGroup s.names
          (⟨s.items, s.branches, some s.nextGroup, {}⟩ :: s.below) s').below =
            ⟨s.items, s.branches, some s.nextGroup, {}⟩ :: s.below := by
        simp [State.splice, hbelow]
      simp only [readItem, State.leave?, hsplice, State.body_splice]
      simp [State.splice, State.behind, Item.renumber, item, hs, hnext]
    · -- The parenthesis would be swallowed, and the group would stay open.
      rcases Option.isSome_iff_exists.mp h.between with ⟨q, hq⟩
      rcases exists_readItems hq with ⟨m', s'', hread', hbelow', _⟩
      have hopen := reaches_open (s := {}) rfl h.head?_ne []
      rw [List.append_nil] at hopen
      have hs'' := (hopen.trans (hrun _ _ _)).eq_of_nil hread'
      rw [hs''] at hbelow'
      simp [State.splice] at hbelow'

end Encloses

end RegexReader
end PathTemplate
