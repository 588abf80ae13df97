import PathTemplate.Proofs.Regex.Enclosure
import PathTemplate.Proofs.Regex.Erasure

/-!
# Unrecorded — reading groups without recording them

A reader that records no group goes through the same states, with the groups taken away from what it
has read.

- `State.erase`   : the state with nothing recorded
- `Action.erase`  : the action with the group it opens unrecorded
- `act?_erase`    : actions on such a state
-/

namespace PathTemplate
namespace RegexReader

/-! ## States -/

def Item.erase (i : Item) : Item := i.mapPattern Pattern.erase

def OpenGroup.erase (o : OpenGroup) : OpenGroup where
  items := o.items.map Item.erase
  branches := o.branches.map Item.erase
  number := none
  flags := o.flags

def State.erase (s : State) : State where
  items := s.items.map Item.erase
  branches := s.branches.map Item.erase
  below := s.below.map OpenGroup.erase
  flags := s.flags

/-- The action with the group it opens unrecorded; the flags stay as they are. -/
def Action.erase (f : Flags) : Action → Action
  | .enterNumbered _ => .enter f
  | a => a

variable {s s' : State} {a : Action}

@[simp] theorem State.erase_flags (s : State) : s.erase.flags = s.flags := rfl

theorem Item.erase_row (items : List Item) :
    (Item.row items).erase = Item.row (items.map Item.erase) :=
  Item.mapPattern_row Pattern.erase_seqs items

theorem Item.erase_choice (branches : List Item) :
    (Item.choice branches).erase = Item.choice (branches.map Item.erase) :=
  Item.mapPattern_choice Pattern.erase_alts branches

theorem State.body_erase (s : State) : s.erase.body = s.body.erase := by
  rw [State.body, State.body, Item.erase_choice, List.map_cons, Item.erase_row]
  rfl

theorem OpenGroup.erase_close (o : OpenGroup) (body : Item) :
    (o.close body).erase = o.erase.close body.erase := by
  cases hnumber : o.number with
  | none => simp [close, erase, hnumber, Item.erase, Item.mapPattern]
  | some k => simp [close, erase, hnumber, Item.erase, Item.mapPattern, Pattern.erase]

/-! ## Actions -/

theorem leave_erase (h : s.act? .leave = some s') : s.erase.act? .leave = some s'.erase := by
  rcases act?_leave_iff.mp h with ⟨o, rest, hbelow, rfl⟩
  refine act?_leave_iff.mpr ⟨o.erase, rest.map OpenGroup.erase, ?_, ?_⟩
  · simp [State.erase, hbelow]
  · rw [State.body_erase, ← OpenGroup.erase_close]
    rfl

theorem repeatLast_erase {least : Nat} {most : Option Nat} {greedy : Bool}
    (h : s.act? (.repeatLast least most greedy) = some s') :
    s.erase.act? (.repeatLast least most greedy) = some s'.erase := by
  rcases act?_repeatLast_iff.mp h with ⟨item, items, hitems, hrepeatable, rfl⟩
  refine act?_repeatLast_iff.mpr ⟨item.erase, items.map Item.erase, ?_, hrepeatable, ?_⟩
  · simp [State.erase, hitems]
  · simp [State.erase, Item.erase, Item.mapPattern, Pattern.erase_repetition]

/-- An action does the same where nothing is recorded.  No name can be taken there. -/
theorem act?_erase (ha : a.AddsNoGroup) (h : s.act? a = some s') :
    s.erase.act? (a.erase s.flags) = some s'.erase := by
  cases a with
  | enterNumbered name =>
      rw [eq_of_enterNumbered h]
      rfl
  | enter flags =>
      cases h
      rfl
  | setFlags flags =>
      cases h
      rfl
  | leave => exact leave_erase h
  | branch =>
      cases h
      simp only [Action.erase, State.act?, State.erase, List.map_cons, List.map_nil, Item.erase_row]
  | push item =>
      cases h
      have hitem : item.erase = item := by
        rw [Item.erase, Item.mapPattern, Pattern.GroupFree.erase_eq ha]
      simp only [Action.erase, State.act?, State.push, State.erase, List.map_cons, hitem]
  | repeatLast least most greedy => exact repeatLast_erase h

end RegexReader
end PathTemplate
