import PathTemplate.Proofs.Multimap
import Mathlib.Data.List.DropRight
import Mathlib.Logic.Function.Basic

/-!
# Changes — what a multimap holds after any changes, and in which order

Seen from outside, a multimap is a function from names to lists, and its keys stand in the order in
which they came.  Both are described without the entries of the multimap.

- `Multimap.Change`         : what can be done to a multimap
- `Multimap.Lists`          : lists under names, without an order
- `Multimap.Event`          : what a change does to the presence of one key
- `Multimap.firstInsertion` : the place of a key's first insertion since it was last removed
- `Multimap.Ordered`        : keys in the order of their first insertions
- `Multimap.refines_lists`  : after any changes, lists and order are as described
-/

namespace PathTemplate
namespace Multimap

variable {α : Type} {m : Multimap α} {key name : Text}

/-! ## Changes -/

inductive Change (α : Type)
  | add (key : Text) (value : α)
  | put (key : Text) (values : List α)
  | putSingle (key : Text) (value : α)
  | remove (key : Text)
  | extend (pairs : List (Text × α))
  /-- Begin anew, with pairs. -/
  | collect (pairs : List (Text × α))
  deriving DecidableEq, Repr

def Change.apply (m : Multimap α) : Change α → Multimap α
  | .add key v => m.add key v
  | .put key vs => m.put key vs
  | .putSingle key v => m.putSingle key v
  | .remove key => m.remove key
  | .extend pairs => m.extend pairs
  | .collect pairs => .ofPairs pairs

def after (changes : List (Change α)) : Multimap α := changes.foldl Change.apply .empty

theorem after_append_singleton (changes : List (Change α)) (c : Change α) :
    after (changes ++ [c]) = c.apply (after changes) :=
  List.foldl_concat ..

/-! ## Lists under names -/

/-- Lists under names, without an order; a name may have none or an empty one. -/
abbrev Lists (α : Type) := Text → Option (List α)

namespace Lists

def add (f : Lists α) (key : Text) (v : α) : Lists α :=
  Function.update f key (some ((f key).getD [] ++ [v]))

def addAll (f : Lists α) (pairs : List (Text × α)) : Lists α :=
  pairs.foldl (fun f p => f.add p.1 p.2) f

def change (f : Lists α) : Change α → Lists α
  | .add key v => f.add key v
  | .put key vs => Function.update f key (some vs)
  | .putSingle key v => Function.update f key (some [v])
  | .remove key => Function.update f key none
  | .extend pairs => f.addAll pairs
  | .collect pairs => addAll (fun _ => none) pairs

def after (changes : List (Change α)) : Lists α := changes.foldl change fun _ => none

end Lists

theorem get?_add (m : Multimap α) (key : Text) (v : α) :
    (m.add key v).get? = Lists.add m.get? key v := by
  funext name
  rw [add, get?_updateEntries, Lists.add, Function.update_apply]
  by_cases hkey : key = name
  · subst hkey
    rw [if_pos rfl, if_pos rfl]
    rfl
  · rw [if_neg hkey, if_neg (Ne.symm hkey)]

theorem get?_put (m : Multimap α) (key : Text) (vs : List α) :
    (m.put key vs).get? = Function.update m.get? key (some vs) := by
  funext name
  rw [put, get?_updateEntries, Function.update_apply]
  by_cases hkey : key = name
  · rw [if_pos hkey, if_pos hkey.symm]
  · rw [if_neg hkey, if_neg (Ne.symm hkey)]

theorem get?_eq_none_iff : m.get? name = none ↔ name ∉ m.keys := by
  rcases m with ⟨entries⟩
  induction entries with
  | nil => simp [get?, keys]
  | cons e rest ih =>
      rw [get?_cons]
      split
      case isTrue hname => simp [keys, hname]
      case isFalse hname =>
        rw [ih]
        simp [keys, Ne.symm hname]

theorem keys_remove (m : Multimap α) (key : Text) : (m.remove key).keys = m.keys.erase key := by
  rw [remove, keys, keys, List.erase_eq_eraseP', List.eraseP_map]
  rfl

theorem get?_remove_of_ne (hne : key ≠ name) : (m.remove key).get? name = m.get? name := by
  rcases m with ⟨entries⟩
  induction entries with
  | nil => rfl
  | cons e rest ih =>
      by_cases hkey : e.1 = key
      · have hother : e.1 ≠ name := fun h => hne (hkey.symm.trans h)
        have hremove : remove ⟨e :: rest⟩ key = ⟨rest⟩ :=
          congrArg mk (List.eraseP_cons_of_pos (beq_iff_eq.mpr hkey))
        rw [hremove, get?_cons, if_neg hother]
      · have hremove : remove ⟨e :: rest⟩ key = ⟨e :: (remove ⟨rest⟩ key).entries⟩ :=
          congrArg mk (List.eraseP_cons_of_neg (by simpa using hkey))
        rw [hremove, get?_cons, get?_cons]
        split
        · rfl
        · exact ih

/-- Each key has one entry, so nothing is left of it. -/
theorem get?_remove (hm : m.keys.Nodup) (key : Text) :
    (m.remove key).get? = Function.update m.get? key none := by
  funext name
  rw [Function.update_apply]
  split
  case isTrue hname =>
    rw [get?_eq_none_iff, hname, keys_remove]
    exact hm.not_mem_erase
  case isFalse hname => exact get?_remove_of_ne (Ne.symm hname)

theorem get?_extend (m : Multimap α) (pairs : List (Text × α)) :
    (m.extend pairs).get? = Lists.addAll m.get? pairs := by
  induction pairs generalizing m with
  | nil => rfl
  | cons p pairs ih =>
      have hcons : m.extend (p :: pairs) = (m.add p.1 p.2).extend pairs := rfl
      rw [hcons, ih, get?_add]
      rfl

/-- A change does to the lists of a multimap what it does to lists. -/
theorem get?_apply (hm : m.keys.Nodup) (c : Change α) :
    (c.apply m).get? = Lists.change m.get? c := by
  cases c with
  | add key v => exact get?_add m key v
  | put key vs => exact get?_put m key vs
  | putSingle key v => exact get?_put m key [v]
  | remove key => exact get?_remove hm key
  | extend pairs => exact get?_extend m pairs
  | collect pairs => exact get?_extend .empty pairs

/-! ## The presence of keys -/

/-- What happens to the presence of keys. -/
inductive Event
  /-- A key gets a value or a list; it comes last, unless it is there already. -/
  | insert (key : Text)
  | remove (key : Text)
  /-- All keys are removed. -/
  | clear
  deriving DecidableEq, Repr

namespace Event

def removes (key : Text) : Event → Bool
  | .insert _ => false
  | .remove k => k == key
  | .clear => true

def touches (key : Text) : Event → Bool
  | .insert k => k == key
  | .remove k => k == key
  | .clear => true

def change (keys : List Text) : Event → List Text
  | .insert key => insertLast keys key
  | .remove key => keys.erase key
  | .clear => []

end Event

namespace Change

/-- What a change does to the presence of keys, one key after the other. -/
def events : Change α → List Event
  | .add key _ => [.insert key]
  | .put key _ => [.insert key]
  | .putSingle key _ => [.insert key]
  | .remove key => [.remove key]
  | .extend pairs => pairs.map fun p => .insert p.1
  | .collect pairs => .clear :: pairs.map fun p => .insert p.1

/-- Whether a change is one of the list of a name, or of its presence. -/
def touches (c : Change α) (name : Text) : Bool := c.events.any (Event.touches name)

end Change

theorem foldl_insertLast_eq (keys : List Text) (pairs : List (Text × α)) :
    (pairs.map (·.1)).foldl insertLast keys =
      (pairs.map fun p => Event.insert p.1).foldl Event.change keys := by
  rw [List.foldl_map, List.foldl_map]
  rfl

/-- The keys after a change are those after its events. -/
theorem keys_apply (m : Multimap α) (c : Change α) :
    (c.apply m).keys = c.events.foldl Event.change m.keys := by
  cases c with
  | add key v => exact keys_updateEntries key _ m.entries
  | put key vs => exact keys_updateEntries key _ m.entries
  | putSingle key v => exact keys_updateEntries key _ m.entries
  | remove key => exact keys_remove m key
  | extend pairs => exact (keys_extend m pairs).trans (foldl_insertLast_eq m.keys pairs)
  | collect pairs => exact (keys_extend .empty pairs).trans (foldl_insertLast_eq [] pairs)

theorem keys_after (changes : List (Change α)) :
    (after changes).keys = (changes.flatMap Change.events).foldl Event.change [] := by
  induction changes using List.reverseRecOn with
  | nil => rfl
  | append_singleton changes c ih =>
      rw [after_append_singleton, keys_apply, ih, ← List.foldl_append, List.flatMap_append,
        List.flatMap_singleton]

/-! ## First insertions -/

def upToRemoval (events : List Event) (key : Text) : List Event :=
  events.rdropWhile fun e => !e.removes key

def sinceRemoval (events : List Event) (key : Text) : List Event :=
  events.rtakeWhile fun e => !e.removes key

/-- The place of a key's first insertion since it was last removed. -/
def firstInsertion (events : List Event) (key : Text) : Nat :=
  (upToRemoval events key).length + (sinceRemoval events key).idxOf (.insert key)

/-- Keys that stand in the order of their first insertions: each key once that has been inserted
since it was last removed. -/
structure Ordered (events : List Event) (keys : List Text) : Prop where
  nodup : keys.Nodup
  mem_iff : ∀ key, key ∈ keys ↔ Event.insert key ∈ sinceRemoval events key
  sorted : keys.Pairwise fun k l => firstInsertion events k < firstInsertion events l

variable {events : List Event} {keys : List Text} {e : Event}

theorem sinceRemoval_of_removes (h : e.removes key = true) :
    sinceRemoval (events ++ [e]) key = [] :=
  List.rtakeWhile_concat_neg _ _ _ (by simp [h])

theorem sinceRemoval_append (h : e.removes key = false) :
    sinceRemoval (events ++ [e]) key = sinceRemoval events key ++ [e] :=
  List.rtakeWhile_concat_pos _ _ _ (by simp [h])

/-- A key that is there keeps its place. -/
theorem firstInsertion_append (h : e.removes key = false)
    (hmem : Event.insert key ∈ sinceRemoval events key) :
    firstInsertion (events ++ [e]) key = firstInsertion events key := by
  have hdrop : upToRemoval (events ++ [e]) key = upToRemoval events key :=
    List.rdropWhile_concat_pos _ _ _ (by simp [h])
  rw [firstInsertion, sinceRemoval_append h, List.idxOf_append_of_mem hmem, hdrop, firstInsertion]

theorem length_upToRemoval_add (events : List Event) (key : Text) :
    (upToRemoval events key).length + (sinceRemoval events key).length = events.length := by
  rw [← List.length_append, upToRemoval, sinceRemoval, List.rdropWhile_append_rtakeWhile]

theorem firstInsertion_lt (hmem : Event.insert key ∈ sinceRemoval events key) :
    firstInsertion events key < events.length := by
  have hlt := List.idxOf_lt_length_of_mem hmem
  have hlength := length_upToRemoval_add events key
  rw [firstInsertion]
  omega

/-- A new key gets the last place. -/
theorem firstInsertion_insert (hmem : Event.insert key ∉ sinceRemoval events key) :
    firstInsertion (events ++ [.insert key]) key = events.length := by
  have hdrop : upToRemoval (events ++ [.insert key]) key = upToRemoval events key :=
    List.rdropWhile_concat_pos _ _ _ rfl
  have hlength := length_upToRemoval_add events key
  rw [firstInsertion, sinceRemoval_append rfl, List.idxOf_append_of_notMem hmem, hdrop,
    List.idxOf_cons_self]
  omega

namespace Ordered

theorem insert (h : Ordered events keys) (key : Text) :
    Ordered (events ++ [.insert key]) (insertLast keys key) where
  nodup := nodup_insertLast h.nodup key
  mem_iff k := by
    have hsince : sinceRemoval (events ++ [.insert key]) k =
        sinceRemoval events k ++ [.insert key] := sinceRemoval_append rfl
    rw [hsince, List.mem_append, ← h.mem_iff, List.mem_singleton, Event.insert.injEq]
    by_cases hkey : key ∈ keys
    · rw [insertLast_of_mem hkey]
      constructor
      · exact .inl
      · rintro (hk | rfl)
        · exact hk
        · exact hkey
    · rw [insertLast_of_notMem hkey, List.mem_append, List.mem_singleton]
  sorted := by
    -- The keys that are there keep their places, and a new one gets a place behind them all.
    have hkeep : keys.Pairwise fun k l => firstInsertion (events ++ [.insert key]) k <
        firstInsertion (events ++ [.insert key]) l := by
      refine h.sorted.imp_of_mem fun {k l} hk hl hlt => ?_
      rwa [firstInsertion_append rfl ((h.mem_iff k).mp hk),
        firstInsertion_append rfl ((h.mem_iff l).mp hl)]
    by_cases hkey : key ∈ keys
    · rwa [insertLast_of_mem hkey]
    · rw [insertLast_of_notMem hkey]
      refine List.pairwise_append.mpr ⟨hkeep, List.pairwise_singleton _ _, ?_⟩
      intro k hk l hl
      obtain rfl := List.mem_singleton.mp hl
      rw [firstInsertion_append rfl ((h.mem_iff k).mp hk),
        firstInsertion_insert (mt (h.mem_iff l).mpr hkey)]
      exact firstInsertion_lt ((h.mem_iff k).mp hk)

theorem remove (h : Ordered events keys) (key : Text) :
    Ordered (events ++ [.remove key]) (keys.erase key) where
  nodup := h.nodup.erase key
  mem_iff k := by
    rw [h.nodup.mem_erase_iff]
    by_cases hk : k = key
    · have hremoves : (Event.remove key).removes k = true := by simp [Event.removes, hk]
      rw [sinceRemoval_of_removes hremoves]
      simp [hk]
    · have hkeeps : (Event.remove key).removes k = false := by simp [Event.removes, Ne.symm hk]
      rw [sinceRemoval_append hkeeps, h.mem_iff]
      simp [hk]
  sorted := by
    refine (h.sorted.sublist List.erase_sublist).imp_of_mem fun {k l} hk hl hlt => ?_
    have hplace : ∀ k ∈ keys.erase key,
        firstInsertion (events ++ [.remove key]) k = firstInsertion events k := by
      intro k hk
      obtain ⟨hne, hmem⟩ := h.nodup.mem_erase_iff.mp hk
      exact firstInsertion_append (by simp [Event.removes, Ne.symm hne]) ((h.mem_iff k).mp hmem)
    rwa [hplace k hk, hplace l hl]

theorem clear (events : List Event) : Ordered (events ++ [.clear]) [] where
  nodup := List.nodup_nil
  mem_iff k := by
    rw [sinceRemoval_of_removes rfl]
    simp
  sorted := List.Pairwise.nil

/-- One event keeps the order. -/
theorem change (h : Ordered events keys) (e : Event) : Ordered (events ++ [e]) (e.change keys) := by
  cases e with
  | insert key => exact h.insert key
  | remove key => exact h.remove key
  | clear => exact clear events

end Ordered

/-- After any events the keys stand in the order of their first insertions. -/
theorem ordered_foldl (events : List Event) :
    Ordered events (events.foldl Event.change []) := by
  induction events using List.reverseRecOn with
  | nil => exact ⟨List.nodup_nil, fun key => by simp [sinceRemoval], List.Pairwise.nil⟩
  | append_singleton events e ih =>
      rw [List.foldl_concat]
      exact ih.change e

theorem nodup_keys_after (changes : List (Change α)) : (after changes).keys.Nodup := by
  rw [keys_after]
  exact (ordered_foldl _).nodup

/-! ## What a change leaves alone -/

theorem filter_erase {p : Text → Bool} (hp : p key = false) (keys : List Text) :
    (keys.erase key).filter p = keys.filter p := by
  induction keys with
  | nil => rfl
  | cons k keys ih =>
      rw [List.erase_cons]
      split
      case isTrue hk =>
        obtain rfl := eq_of_beq hk
        rw [List.filter_cons_of_neg (by simp [hp])]
      case isFalse => rw [List.filter_cons, List.filter_cons, ih]

theorem filter_change {p : Text → Bool} (hp : ∀ k, e.touches k = true → p k = false)
    (keys : List Text) : (e.change keys).filter p = keys.filter p := by
  cases e with
  | insert key =>
      have hkey := hp key (beq_self_eq_true key)
      rw [Event.change, insertLast]
      split
      · rfl
      · simp [hkey]
  | remove key => exact filter_erase (hp key (beq_self_eq_true key)) keys
  | clear =>
      have hnone : ∀ k ∈ keys, ¬ p k = true := fun k _ => ne_true_of_eq_false (hp k rfl)
      exact (List.filter_eq_nil_iff.mpr hnone).symm

/-- The keys that a change does not touch stay in their order. -/
theorem filter_keys_apply (m : Multimap α) (c : Change α) :
    (c.apply m).keys.filter (fun k => !c.touches k) = m.keys.filter fun k => !c.touches k := by
  rw [keys_apply]
  have hevents : ∀ e ∈ c.events, ∀ k, e.touches k = true → (!c.touches k) = false := by
    intro e he k hk
    rw [Bool.not_eq_false', Change.touches]
    exact List.any_eq_true.mpr ⟨e, he, hk⟩
  -- All that matters is that the events touch no key that is kept.
  generalize c.events = es at hevents
  generalize m.keys = keys
  induction es generalizing keys with
  | nil => rfl
  | cons e es ih =>
      obtain ⟨he, hes⟩ := List.forall_mem_cons.mp hevents
      rw [List.foldl_cons, ih hes, filter_change he]

theorem Lists.addAll_of_ne {pairs : List (Text × α)} (f : Lists α) (h : ∀ p ∈ pairs, p.1 ≠ name) :
    f.addAll pairs name = f name := by
  induction pairs generalizing f with
  | nil => rfl
  | cons p pairs ih =>
      obtain ⟨hp, hpairs⟩ := List.forall_mem_cons.mp h
      exact (ih (f.add p.1 p.2) hpairs).trans (Function.update_of_ne (Ne.symm hp) _ _)

/-- The lists that a change does not touch stay as they are. -/
theorem Lists.change_of_not_touches {c : Change α} (f : Lists α) (h : c.touches name = false) :
    f.change c name = f name := by
  have hne : ∀ k, Event.insert k ∈ c.events ∨ Event.remove k ∈ c.events → name ≠ k := by
    rintro k hk rfl
    rw [Change.touches, List.any_eq_false] at h
    rcases hk with hk | hk
    · exact h _ hk (beq_self_eq_true name)
    · exact h _ hk (beq_self_eq_true name)
  cases c with
  | add key v => exact Function.update_of_ne (hne key (.inl (List.mem_singleton_self _))) _ _
  | put key vs => exact Function.update_of_ne (hne key (.inl (List.mem_singleton_self _))) _ _
  | putSingle key v => exact Function.update_of_ne (hne key (.inl (List.mem_singleton_self _))) _ _
  | remove key => exact Function.update_of_ne (hne key (.inr (List.mem_singleton_self _))) _ _
  | extend pairs =>
      refine addAll_of_ne f fun p hp => (hne p.1 (.inl ?_)).symm
      exact List.mem_map_of_mem (f := fun p : Text × α => Event.insert p.1) hp
  -- What begins anew touches every name.
  | collect pairs => cases h

/-- After any changes each key stands once, in the order of the first insertions since it was last
removed, and has the list that a function from names to lists gives it after the same changes.  One
more change leaves the lists and the order of the keys alone that it does not touch. -/
theorem refines_lists (changes : List (Change α)) :
    Ordered (changes.flatMap Change.events) (after changes).keys ∧
      (after changes).get? = Lists.after changes ∧
      ∀ c : Change α,
        (∀ name, c.touches name = false →
          (c.apply (after changes)).get? name = (after changes).get? name) ∧
        (c.apply (after changes)).keys.filter (fun k => !c.touches k) =
          (after changes).keys.filter fun k => !c.touches k := by
  refine ⟨?_, ?_, fun c => ⟨fun name hname => ?_, filter_keys_apply _ c⟩⟩
  · rw [keys_after]
    exact ordered_foldl _
  · induction changes using List.reverseRecOn with
    | nil => rfl
    | append_singleton changes c ih =>
        rw [after_append_singleton, get?_apply (nodup_keys_after changes), ih, Lists.after,
          Lists.after, List.foldl_concat]
  · rw [get?_apply (nodup_keys_after changes), Lists.change_of_not_touches _ hname]

theorem refines_lists_remove :
    ((Change.remove ['a']).apply (after [.add ['b'] 1, .add ['a'] 2])).get? ['b'] = some [1] := by
  rw [((refines_lists [.add ['b'] 1, .add ['a'] 2]).2.2 (.remove ['a'])).1 ['b'] (by decide)]
  decide

/-- A key keeps its place when its list is replaced, and comes last when it is inserted again. -/
example :
    (after [.add ['b'] 1, .add ['a'] 2, .put ['b'] [], .remove ['a'],
      .extend [(['c'], 3), (['a'], 4)]]).entries = [(['b'], []), (['c'], [3]), (['a'], [4])] := by
  decide

end Multimap
end PathTemplate
