import PathTemplate.Proofs.Element.Binding
import Mathlib.Data.List.Basic
import Mathlib.Data.List.Induction

/-!
# Ledger — which call has recorded a value

Values and starts are kept in two maps, and a start is found at the place of its value.  Both maps
are images of one ledger, in which every value stands with the call that has recorded it.

- `Bindings.Call`       : an element that is recorded, with what its group has captured
- `Bindings.afterCalls` : values and starts after calls
- `Bindings.ledger`     : the values after the same calls, each with its call
- `Bindings.values_and_starts_agree` : values and starts stand place by place, and which starts are there
-/

namespace PathTemplate

namespace Bindings

/-- An element that is recorded, and what its group has captured, if the group took part. -/
structure Call where
  element : Element
  capture : Capture
  deriving DecidableEq, Repr

namespace Call

def text (c : Call) : Text := (c.capture.map (·.1)).getD []

def start (c : Call) : Option Nat := c.capture.map (·.2)

def apply (b : Bindings) (c : Call) : Bindings := c.element.bind c.capture b

end Call

def afterCalls (calls : List Call) : Bindings := calls.foldl Call.apply .empty

/-! ## The ledger -/

/-- A value with the call that has recorded it. -/
structure Record where
  value : Option Text
  call : Call
  deriving DecidableEq, Repr

/-- The ledger after a call: what a variable records is added, what an operator records takes the
place of what stood under the name. -/
def Call.enter (l : Multimap Record) (c : Call) : Multimap Record :=
  match c.element with
  | .literal _ => l
  | .variable v => l.add v.name ⟨c.capture.map (·.1), c⟩
  | .operator o => (o.puts c.text).foldl (fun l p => l.put p.1 (p.2.map fun v => ⟨v, c⟩)) l

def ledger (calls : List Call) : Multimap Record := calls.foldl Call.enter .empty

/-- Values and starts as a ledger has them: the start of a value is that of its call. -/
def ofLedger (l : Multimap Record) : Bindings :=
  ⟨l.mapValues Record.value, l.mapValues fun r => r.call.start⟩

theorem ofLedger_put (l : Multimap Record) (name : Text) (values : List (Option Text)) (c : Call) :
    ofLedger (l.put name (values.map fun v => ⟨v, c⟩)) = (ofLedger l).putAll name values c.start := by
  rw [ofLedger, Multimap.mapValues_put, Multimap.mapValues_put, List.map_map, List.map_map]
  exact congrArg (fun vs => mk (Multimap.put _ name vs) _) (List.map_id values)

theorem ofLedger_foldl_put (c : Call) (puts : List (Text × List (Option Text)))
    (l : Multimap Record) :
    ofLedger (puts.foldl (fun l p => l.put p.1 (p.2.map fun v => ⟨v, c⟩)) l) =
      puts.foldl (fun b p => b.putAll p.1 p.2 c.start) (ofLedger l) := by
  induction puts generalizing l with
  | nil => rfl
  | cons p puts ih => rw [List.foldl_cons, List.foldl_cons, ih, ofLedger_put]

/-- A call does to values and starts what it does to the ledger. -/
theorem ofLedger_enter (l : Multimap Record) (c : Call) :
    ofLedger (c.enter l) = c.apply (ofLedger l) := by
  rcases c with ⟨e, capture⟩
  cases e with
  | literal t => rfl
  | «variable» v =>
      rw [Call.enter, ofLedger, Multimap.mapValues_add, Multimap.mapValues_add]
      rfl
  -- An operator sets names one after the other, in the ledger as in both maps.
  | operator o => exact (ofLedger_foldl_put _ _ l).trans (o.bind_eq_foldl capture _).symm

/-- After any calls, values and starts are those of the ledger. -/
theorem afterCalls_eq (calls : List Call) : afterCalls calls = ofLedger (ledger calls) := by
  induction calls using List.reverseRecOn with
  | nil => rfl
  | append_singleton calls c ih =>
      rw [afterCalls, ledger, List.foldl_concat, List.foldl_concat, ofLedger_enter]
      exact congrArg (Call.apply · c) ih

/-! ## The calls in the ledger -/

theorem mem_get_foldl_put {c : Call} {puts : List (Text × List (Option Text))}
    {l : Multimap Record} {name : Text} {r : Record}
    (h : r ∈ (puts.foldl (fun l p => l.put p.1 (p.2.map fun v => ⟨v, c⟩)) l).get name) :
    r ∈ l.get name ∨ r.call = c := by
  induction puts generalizing l with
  | nil => exact .inl h
  | cons p puts ih =>
      rcases ih h with h | h
      · rw [Multimap.get_put] at h
        split at h
        · obtain ⟨v, -, rfl⟩ := List.mem_map.mp h
          exact .inr rfl
        · exact .inl h
      · exact .inr h

/-- What a ledger holds after a call it held before, or the call has recorded it. -/
theorem mem_get_enter {l : Multimap Record} {c : Call} {name : Text} {r : Record}
    (h : r ∈ (c.enter l).get name) : r ∈ l.get name ∨ r.call = c := by
  rcases c with ⟨e, capture⟩
  cases e with
  | literal t => exact .inl h
  | «variable» v =>
      rw [Call.enter, Multimap.get_add] at h
      rcases List.mem_append.mp h with h | h
      · exact .inl h
      · split at h
        · exact .inr (by rw [List.mem_singleton.mp h])
        · cases h
  | operator o => exact mem_get_foldl_put h

theorem call_mem_of_mem_ledger {calls : List Call} {name : Text} {r : Record}
    (h : r ∈ (ledger calls).get name) : r.call ∈ calls := by
  induction calls using List.reverseRecOn with
  | nil => cases h
  | append_singleton calls c ih =>
      rw [ledger, List.foldl_concat] at h
      rcases mem_get_enter h with h | h
      · exact List.mem_append_left _ (ih h)
      · exact List.mem_append_right _ (List.mem_singleton.mpr h)

/-- After any calls of any elements with any captures, values and starts have the same names in the
same order and for each name as many values as starts.  Both are as the ledger has them, so a value
that was recorded by a call with a captured text has the start of this text. -/
theorem values_and_starts_agree (calls : List Call) :
    (afterCalls calls).values.keys = (afterCalls calls).starts.keys ∧
    (∀ name, ((afterCalls calls).values.get? name).map List.length =
      ((afterCalls calls).starts.get? name).map List.length) ∧
    afterCalls calls = ofLedger (ledger calls) ∧
    ∀ name (i : Nat) v, ((afterCalls calls).values.get name)[i]? = some (some v) →
      ∃ c ∈ calls, ((ledger calls).get name)[i]? = some ⟨some v, c⟩ ∧
        ∀ text start, c.capture = some (text, start) →
          ((afterCalls calls).starts.get name)[i]? = some (some start) := by
  rw [afterCalls_eq]
  refine ⟨?_, fun name => ?_, rfl, fun name i v hv => ?_⟩
  · rw [ofLedger, Multimap.keys_mapValues, Multimap.keys_mapValues]
  · rw [ofLedger, Multimap.get?_mapValues, Multimap.get?_mapValues]
    cases (ledger calls).get? name with
    | none => rfl
    | some rs => simp
  · rw [ofLedger, Multimap.get_mapValues, List.getElem?_map] at hv
    obtain ⟨⟨_, c⟩, hr, rfl⟩ := Option.map_eq_some_iff.mp hv
    refine ⟨c, call_mem_of_mem_ledger (List.mem_of_getElem? hr), hr, fun text start hc => ?_⟩
    rw [ofLedger, Multimap.get_mapValues, List.getElem?_map, hr, Option.map_some, Call.start, hc]
    rfl

theorem values_and_starts_agree_replaced :
    ((afterCalls [⟨.variable ⟨['x'], none, none, 0⟩, some (['q'], 0)⟩,
      ⟨.operator ⟨.list, [','], [(['x'], none)], 1⟩, some (['a', ',', 'b'], 3)⟩,
      ⟨.variable ⟨['x'], none, none, 2⟩, none⟩]).starts.get ['x'])[1]? = some (some 3) := by
  obtain ⟨c, -, hrecord, hstart⟩ := (values_and_starts_agree
    [⟨.variable ⟨['x'], none, none, 0⟩, some (['q'], 0)⟩,
      ⟨.operator ⟨.list, [','], [(['x'], none)], 1⟩, some (['a', ',', 'b'], 3)⟩,
      ⟨.variable ⟨['x'], none, none, 2⟩, none⟩]).2.2.2 ['x'] 1 ['b'] (by decide)
  have hcall : some c.capture = some (some (['a', ',', 'b'], 3)) := by
    have hledger := congrArg (Option.map fun r => r.call.capture) hrecord
    rw [Option.map_some] at hledger
    rw [← hledger]
    decide
  exact hstart ['a', ',', 'b'] 3 (Option.some.inj hcall)

end Bindings
end PathTemplate
