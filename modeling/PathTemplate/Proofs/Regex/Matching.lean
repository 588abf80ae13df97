import PathTemplate.Regex.Search

/-!
# Matching — what an expression matches, and what it records

`Regex.search` is a machine.  This module says independently of it what a match is.

- `Cut`           : a text cut in two at a gap
- `Cut.Passes`    : the characters between two gaps of one text
- `Regex.Matches` : an expression leads from one gap to another and records boundaries

The relation does not say which of several matches is preferred, and a repetition may go round
without taking a character.  So it is the widest reading of an expression, of which the machine
picks one outcome.
-/

namespace PathTemplate

/-! ## Gaps of a text -/

/-- A text cut in two at a gap.  What stands before the gap is given nearest first. -/
structure Cut where
  before : Text
  after : Text

namespace Cut

def index (c : Cut) : Nat := c.before.length

def gap (c : Cut) : Gap := ⟨c.before.length, c.before.head?, c.after.head?⟩

def whole (c : Cut) : Text := c.before.reverse ++ c.after

/-- The text `u` stands between the gaps `c` and `d` of one text. -/
def Passes (c : Cut) (u : Text) (d : Cut) : Prop :=
  c.after = u ++ d.after ∧ d.before = u.reverse ++ c.before

variable {c d e : Cut} {u v : Text}

theorem Passes.refl (c : Cut) : c.Passes [] c := ⟨rfl, rfl⟩

theorem Passes.single (x : Char) (b a : Text) : Cut.Passes ⟨b, x :: a⟩ [x] ⟨x :: b, a⟩ :=
  ⟨rfl, rfl⟩

theorem Passes.trans (h : c.Passes u d) (h' : d.Passes v e) : c.Passes (u ++ v) e := by
  rcases h with ⟨hafter, hbefore⟩
  rcases h' with ⟨hafter', hbefore'⟩
  constructor
  · rw [hafter, hafter', List.append_assoc]
  · rw [hbefore', hbefore, List.reverse_append, List.append_assoc]

/-- The text between two gaps splits where the text does. -/
theorem Passes.split (h : c.Passes (u ++ v) e) :
    c.Passes u ⟨u.reverse ++ c.before, v ++ e.after⟩ ∧
      Cut.Passes ⟨u.reverse ++ c.before, v ++ e.after⟩ v e := by
  rcases h with ⟨hafter, hbefore⟩
  refine ⟨⟨by rw [hafter, List.append_assoc], rfl⟩, ⟨rfl, ?_⟩⟩
  rw [hbefore, List.reverse_append, List.append_assoc]

/-- The text between two gaps determines the second one. -/
theorem Passes.unique (h : c.Passes u d) (h' : c.Passes u e) : d = e := by
  rcases h with ⟨hafter, hbefore⟩
  rcases h' with ⟨hafter', hbefore'⟩
  -- What stands before the second gap is given; what stands after it is what the text leaves.
  have ha : d.after = e.after := List.append_cancel_left (hafter.symm.trans hafter')
  have hb : d.before = e.before := hbefore.trans hbefore'.symm
  cases d
  cases e
  simp_all

theorem Passes.index_eq (h : c.Passes u d) : d.index = c.index + u.length := by
  rw [index, h.2, List.length_append, List.length_reverse, Nat.add_comm]
  rfl

theorem Passes.index_of_start {t : Text} (h : Passes ⟨[], t⟩ u d) : d.index = u.length :=
  h.index_eq.trans (Nat.zero_add u.length)

end Cut

/-! ## Matches -/

namespace Regex

/-- The expression matches the text from the first gap to the second, and records the boundaries. -/
inductive Matches : Regex → Cut → Trace → Cut → Prop
  | empty (c : Cut) : Matches .empty c [] c
  | chars {cls : CharClass} {x : Char} (b a : Text) (hx : cls.has x = true) :
      Matches (.chars cls) ⟨b, x :: a⟩ [] ⟨x :: b, a⟩
  | look {l : Look} {c : Cut} (hl : l.holds c.gap = true) : Matches (.look l) c [] c
  | group (k : Nat) {r : Regex} {c d : Cut} {t : Trace} (h : Matches r c t d) :
      Matches (.group k r) c (.opens k c.index :: (t ++ [.closes k d.index])) d
  | seq {a b : Regex} {c d e : Cut} {t t' : Trace} (h : Matches a c t d) (h' : Matches b d t' e) :
      Matches (.seq a b) c (t ++ t') e
  | first {a : Regex} (b : Regex) {c d : Cut} {t : Trace} (h : Matches a c t d) :
      Matches (.alt a b) c t d
  | second (a : Regex) {b : Regex} {c d : Cut} {t : Trace} (h : Matches b c t d) :
      Matches (.alt a b) c t d
  | once (greedy : Bool) {r : Regex} {c d : Cut} {t : Trace} (h : Matches r c t d) :
      Matches (.more greedy r) c t d
  | again {greedy : Bool} {r : Regex} {c d e : Cut} {t t' : Trace} (h : Matches r c t d)
      (h' : Matches (.more greedy r) d t' e) : Matches (.more greedy r) c (t ++ t') e

variable {r a b : Regex} {c d : Cut} {t : Trace}

/-- A match takes a piece of the text. -/
theorem Matches.passes (h : Matches r c t d) : ∃ u, c.Passes u d := by
  induction h with
  | empty c => exact ⟨[], Cut.Passes.refl c⟩
  | chars b a hx => exact ⟨_, Cut.Passes.single _ b a⟩
  | look hl => exact ⟨[], Cut.Passes.refl _⟩
  | group k h ih => exact ih
  | seq h h' ih ih' =>
      rcases ih with ⟨u, hu⟩
      rcases ih' with ⟨v, hv⟩
      exact ⟨u ++ v, hu.trans hv⟩
  | first b h ih => exact ih
  | second a h ih => exact ih
  | once greedy h ih => exact ih
  | again h h' ih ih' =>
      rcases ih with ⟨u, hu⟩
      rcases ih' with ⟨v, hv⟩
      exact ⟨u ++ v, hu.trans hv⟩

/-! ### One constructor at a time -/

theorem matches_empty_iff : Matches .empty c t d ↔ t = [] ∧ d = c := by
  constructor
  · intro h
    cases h
    exact ⟨rfl, rfl⟩
  · rintro ⟨rfl, rfl⟩
    exact .empty d

theorem matches_chars_iff {cls : CharClass} :
    Matches (.chars cls) c t d ↔ t = [] ∧ ∃ x, cls.has x = true ∧ c.Passes [x] d := by
  constructor
  · intro h
    cases h with
    | chars b a hx => exact ⟨rfl, _, hx, Cut.Passes.single _ b a⟩
  · -- Both gaps are taken apart, since the constructor speaks of their texts.
    rintro ⟨rfl, x, hx, hafter, hbefore⟩
    rcases c with ⟨b, a⟩
    rcases d with ⟨b', a'⟩
    have ha : a = x :: a' := hafter
    have hb : b' = x :: b := hbefore
    subst ha hb
    exact .chars b a' hx

theorem matches_look_iff {l : Look} :
    Matches (.look l) c t d ↔ t = [] ∧ d = c ∧ l.holds c.gap = true := by
  constructor
  · intro h
    cases h with
    | look hl => exact ⟨rfl, rfl, hl⟩
  · rintro ⟨rfl, rfl, hl⟩
    exact .look hl

theorem matches_group_iff {k : Nat} :
    Matches (.group k r) c t d ↔
      ∃ t', Matches r c t' d ∧ t = .opens k c.index :: (t' ++ [.closes k d.index]) := by
  constructor
  · intro h
    cases h with
    | group k h => exact ⟨_, h, rfl⟩
  · rintro ⟨t', h, rfl⟩
    exact .group k h

theorem matches_seq_iff :
    Matches (.seq a b) c t d ↔
      ∃ e t₁ t₂, Matches a c t₁ e ∧ Matches b e t₂ d ∧ t = t₁ ++ t₂ := by
  constructor
  · intro h
    cases h with
    | seq h h' => exact ⟨_, _, _, h, h', rfl⟩
  · rintro ⟨e, t₁, t₂, h, h', rfl⟩
    exact .seq h h'

theorem matches_alt_iff : Matches (.alt a b) c t d ↔ Matches a c t d ∨ Matches b c t d := by
  constructor
  · intro h
    cases h with
    | first b h => exact .inl h
    | second a h => exact .inr h
  · rintro (h | h)
    · exact .first b h
    · exact .second a h

theorem matches_optional_iff {greedy : Bool} :
    Matches (optional greedy r) c t d ↔ (t = [] ∧ d = c) ∨ Matches r c t d := by
  cases greedy with
  | true => simp [optional, matches_alt_iff, matches_empty_iff, or_comm]
  | false => simp [optional, matches_alt_iff, matches_empty_iff]

end Regex
end PathTemplate
