import PathTemplate.Proofs.Regex.Groups
import PathTemplate.Regex.Search

/-!
# Erasure — patterns without their groups

To take the groups away from a pattern, and to keep what stands in them, changes what a match
records and nothing else: not where a match is found, and not what repetitions and limits depend on.

- `Pattern.erase`   : the pattern with each group as what stands in it
- `Pattern.erase_seqs`, `erase_alts`, `erase_repetition` : composed patterns
- `Pattern.weight_erase_le` : no more storage is needed
- `Pattern.regex_erase`     : written out
- `Regex.search_erase`      : the search finds a match where it did, and records nothing
- `Pattern.accepts`         : whole texts that match
-/

namespace PathTemplate

/-! ## Patterns -/

namespace Pattern

/-- The pattern with each group as what stands in it. -/
def erase : Pattern → Pattern
  | empty => empty
  | chars cls => chars cls
  | look l => look l
  | group _ p => p.erase
  | seq a b => seq a.erase b.erase
  | alt a b => alt a.erase b.erase
  | times least most greedy p => times least most greedy p.erase

theorem groupFree_erase (p : Pattern) : p.erase.GroupFree := by
  induction p with
  | empty | chars | look => trivial
  | group k p ih => exact ih
  | seq a b iha ihb => exact ⟨iha, ihb⟩
  | alt a b iha ihb => exact ⟨iha, ihb⟩
  | times least most greedy p ih => exact ih

theorem GroupFree.erase_eq {p : Pattern} (hp : p.GroupFree) : p.erase = p := by
  induction p with
  | empty | chars | look => rfl
  | group k p ih => exact hp.elim
  | seq a b iha ihb => rw [erase, iha hp.1, ihb hp.2]
  | alt a b iha ihb => rw [erase, iha hp.1, ihb hp.2]
  | times least most greedy p ih => rw [erase, ih hp]

theorem erase_seqs (ps : List Pattern) : (seqs ps).erase = seqs (ps.map erase) := by
  induction ps with
  | nil => rfl
  | cons p ps ih =>
      cases ps with
      | nil => rfl
      | cons q ps => exact congrArg (seq _) ih

theorem erase_alts (ps : List Pattern) : (alts ps).erase = alts (ps.map erase) := by
  induction ps with
  | nil => rfl
  | cons p ps ih =>
      cases ps with
      | nil => rfl
      | cons q ps => exact congrArg (alt _) ih

theorem matchesOnlyEmpty_erase (p : Pattern) : p.erase.matchesOnlyEmpty = p.matchesOnlyEmpty := by
  induction p with
  | empty | chars | look => rfl
  | group k p ih => exact ih
  | seq a b iha ihb => simp only [erase, matchesOnlyEmpty, iha, ihb]
  | alt a b iha ihb => simp only [erase, matchesOnlyEmpty, iha, ihb]
  | times least most greedy p ih => exact ih

/-- Repetition is simplified by what can match, whatever is recorded. -/
theorem erase_repetition (least : Nat) (most : Option Nat) (greedy : Bool) (p : Pattern) :
    (p.repetition least most greedy).erase = p.erase.repetition least most greedy := by
  unfold Pattern.repetition
  rw [matchesOnlyEmpty_erase]
  generalize (if p.matchesOnlyEmpty then (min least 1, some (min (most.getD 1) 1))
    else (least, most)) = counts
  dsimp only
  split
  · rfl
  · split
    · rfl
    · rfl

theorem weight_erase_le (p : Pattern) : p.erase.weight ≤ p.weight := by
  induction p with
  | empty | chars | look => exact Nat.le_refl _
  | group k p ih => exact Nat.le_add_left_of_le ih
  | seq a b iha ihb => exact Nat.add_le_add iha ihb
  | alt a b iha ihb => exact Nat.add_le_add (Nat.add_le_add_left iha 40) ihb
  | times least most greedy p ih =>
      -- As many copies are needed, and none of them is larger.
      cases most with
      | none => exact Nat.add_le_add_left (Nat.mul_le_mul_left _ ih) 80
      | some most =>
          exact Nat.add_le_add_left (Nat.mul_le_mul_left _ (Nat.add_le_add_left ih 40)) 32

end Pattern

/-! ## Expressions -/

namespace Regex

def erase : Regex → Regex
  | empty => empty
  | chars cls => chars cls
  | look l => look l
  | group _ r => r.erase
  | seq a b => seq a.erase b.erase
  | alt a b => alt a.erase b.erase
  | more greedy r => more greedy r.erase

theorem nullable_erase (r : Regex) : r.erase.nullable = r.nullable := by
  induction r with
  | empty | chars | look => rfl
  | group k r ih => exact ih
  | seq a b iha ihb => simp only [erase, nullable, iha, ihb]
  | alt a b iha ihb => simp only [erase, nullable, iha, ihb]
  | more greedy r ih => exact ih

theorem erase_optional (greedy : Bool) (r : Regex) :
    (r.optional greedy).erase = r.erase.optional greedy := by
  cases greedy with
  | true => rfl
  | false => rfl

theorem erase_many (greedy : Bool) (r : Regex) : (r.many greedy).erase = r.erase.many greedy :=
  erase_optional greedy (more greedy r)

theorem erase_copies (r : Regex) (n : Nat) : (r.copies n).erase = r.erase.copies n := by
  -- Copies are made by halving.
  induction n using Nat.strongRecOn with
  | ind n ih =>
      rw [copies.eq_def r, copies.eq_def r.erase]
      split
      · rfl
      · split
        · rfl
        · have hhalf := ih (n / 2) (by omega)
          dsimp only
          split
          · rw [erase, hhalf]
          · rw [erase, erase, hhalf]

theorem erase_upTo (greedy : Bool) (r : Regex) (n : Nat) :
    (r.upTo greedy n).erase = r.erase.upTo greedy n := by
  fun_induction upTo greedy r n with
  | case1 => rfl
  | case2 => exact erase_optional greedy r
  | case3 n ih => rw [erase_optional, erase, ih, upTo]

end Regex

/-- Written out, the pattern without groups is the expression without groups. -/
theorem Pattern.regex_erase (p : Pattern) : p.erase.regex = p.regex.erase := by
  induction p with
  | empty | chars | look => rfl
  | group k p ih => exact ih
  | seq a b iha ihb => rw [erase, regex, regex, Regex.erase, iha, ihb]
  | alt a b iha ihb => rw [erase, regex, regex, Regex.erase, iha, ihb]
  | times least most greedy p ih =>
      rw [erase]
      unfold Pattern.regex
      rw [ih]
      split
      · rw [Regex.erase_many]
      · rfl
      · rw [Regex.erase, Regex.erase_copies, Regex.erase]
      · split
        · rw [Regex.erase_upTo]
        · split
          · rw [Regex.erase, Regex.erase_copies, Regex.erase_upTo]
          · rw [Regex.erase_copies]

/-! ## Searching -/

namespace Marked

/-- An outcome without the boundaries of groups. -/
def bare (o : Option Trace) : Option Trace := o.map fun _ => []

def bareWalk (w : Walk) : Walk := (bare w.1, w.2)

def erase : Marked → Marked
  | empty => empty
  | chars cls mark => chars cls (bare mark)
  | look l => look l
  | group _ m => m.erase
  | seq a b => seq a.erase b.erase
  | alt id a b => alt id a.erase b.erase
  | more id greedy tame m => more id greedy tame m.erase

variable {g : Gap} {p : Passed}

theorem bare_map (f : Trace → Trace) (o : Option Trace) : bare (o.map f) = bare o := by
  cases o with
  | none => rfl
  | some t => rfl

theorem bareWalk_mapWalk (f : Trace → Trace) (w : Walk) : bareWalk (mapWalk f w) = bareWalk w :=
  congrArg (·, w.2) (bare_map f w.1)

theorem bareWalk_orWalk (w : Walk) (next : Passed → Walk) :
    bareWalk (orWalk w next) = orWalk (bareWalk w) fun p => bareWalk (next p) := by
  match w with
  | (some t, p) => rfl
  | (none, p) => rfl

theorem bareWalk_goRound (id : Nat) (greedy : Bool) (again goOn : Passed → Walk) (p : Passed) :
    bareWalk (goRound id greedy again goOn p) =
      goRound id greedy (fun p => bareWalk (again p)) (fun p => bareWalk (goOn p)) p := by
  unfold goRound
  split
  · rfl
  · split
    · exact bareWalk_orWalk _ _
    · exact bareWalk_orWalk _ _

theorem bare_orOutcome (x y : Option Trace) :
    bare (orOutcome x y) = orOutcome (bare x) (bare y) := by
  cases x with
  | none => rfl
  | some t => rfl

theorem bare_afterRound (greedy : Bool) (again goOn : Option Trace) :
    bare (afterRound greedy again goOn) = afterRound greedy (bare again) (bare goOn) := by
  cases greedy with
  | true => exact bare_orOutcome again goOn
  | false => exact bare_orOutcome goOn again

theorem bare_mark (cls : CharClass) (mark : Option Trace) :
    bare (if g.after.any cls.has then mark else none) =
      if g.after.any cls.has then bare mark else none := by
  split
  · rfl
  · rfl

theorem erase_ofRegex (r : Regex) (n : Nat) :
    ofRegex n r.erase = ((ofRegex n r).1.erase, (ofRegex n r).2) := by
  induction r generalizing n with
  | empty | chars | look => rfl
  | group k r ih => exact ih n
  | seq a b iha ihb => simp only [Regex.erase, ofRegex, iha, ihb, erase]
  | alt a b iha ihb => simp only [Regex.erase, ofRegex, iha, ihb, erase]
  | more greedy r ih => simp only [Regex.erase, ofRegex, ih, Regex.nullable_erase, erase]

/-- A walk through the expression without groups passes the same branchings. -/
theorem explore_erase (m : Marked) (p : Passed) (k : Passed → Walk) :
    explore g m.erase p (fun p => bareWalk (k p)) = bareWalk (explore g m p k) := by
  -- What follows a part of the expression is itself a walk, so that it changes along the way.
  induction m generalizing p k with
  | empty => rfl
  | chars cls mark => exact congrArg (·, p) (bare_mark cls mark).symm
  | look l =>
      simp only [erase, explore]
      split
      · rfl
      · rfl
  | group i m ih =>
      have hclose := ih p fun p => mapWalk (.closes i g.index :: ·) (k p)
      simp only [bareWalk_mapWalk] at hclose
      rw [explore, bareWalk_mapWalk, ← hclose, erase]
  | seq a b iha ihb =>
      have hfirst := iha p fun p => explore g b p k
      simp only [← ihb] at hfirst
      rw [explore, ← hfirst, erase, explore]
  | alt id a b iha ihb =>
      simp only [erase, explore]
      split
      · rfl
      · simp only [bareWalk_orWalk, iha, ihb]
  | more id greedy tame m ih =>
      have hagain : ∀ p, explore g m.erase p stuck = bareWalk (explore g m p stuck) := fun p =>
        ih p stuck
      have hround := ih p (goRound id greedy (fun p => explore g m p stuck) k)
      simp only [bareWalk_goRound, ← hagain] at hround
      rw [explore, ← hround, erase, explore]

theorem remark_erase (m : Marked) (k : Passed → Walk) :
    remark g m.erase (fun p => bareWalk (k p)) = (remark g m k).erase := by
  induction m generalizing k with
  | empty | chars | look => rfl
  | group i m ih =>
      have hclose := ih fun p => mapWalk (.closes i g.index :: ·) (k p)
      simp only [bareWalk_mapWalk] at hclose
      rw [erase, hclose, remark, erase]
  | seq a b iha ihb =>
      have hfirst := iha fun p => explore g b p k
      simp only [← explore_erase] at hfirst
      rw [erase, remark, hfirst, ihb, remark, erase]
  | alt id a b iha ihb => rw [erase, remark, iha, ihb, remark, erase]
  | more id greedy tame m ih =>
      have hround := ih (goRound id greedy (fun p => explore g m p stuck) k)
      have hagain : ∀ p, explore g m.erase p stuck = bareWalk (explore g m p stuck) := fun p =>
        explore_erase m p stuck
      simp only [bareWalk_goRound, ← hagain] at hround
      rw [erase, remark, hround, remark, erase]

/-- Without groups there is an outcome at the same gaps. -/
theorem outcome_erase (m : Marked) (k : Option Trace) :
    outcome g m.erase (bare k) = bare (outcome g m k) := by
  -- A group adds a boundary to what follows it, so that what follows is any outcome.
  induction m generalizing k with
  | empty => rfl
  | chars cls mark => exact (bare_mark cls mark).symm
  | look l =>
      simp only [erase, outcome]
      split
      · rfl
      · rfl
  | group i m ih =>
      have hclose := ih (k.map (.closes i g.index :: ·))
      rw [bare_map] at hclose
      rw [outcome, bare_map, ← hclose, erase]
  | seq a b iha ihb => rw [erase, outcome, outcome, ihb, iha]
  | alt id a b iha ihb => rw [erase, outcome, outcome, bare_orOutcome, iha, ihb]
  | more id greedy tame m ih =>
      cases tame with
      | true => exact ih none
      | false =>
          exact congrArg Prod.fst (explore_erase (more id greedy false m) [] fun p => (k, p))

/-- A step without groups has the same outcome, without boundaries, and leaves the same marks. -/
theorem step_erase (m : Marked) (k : Option Trace) :
    step g m.erase (bare k) = (bare (step g m k).1, (step g m k).2.erase) := by
  induction m generalizing k with
  | empty => rfl
  | chars cls mark => exact congrArg (·, chars cls (bare k)) (bare_mark cls mark).symm
  | look l =>
      simp only [erase, step]
      split
      · rfl
      · rfl
  | group i m ih =>
      have hclose := ih (k.map (.closes i g.index :: ·))
      rw [bare_map] at hclose
      rw [erase, hclose]
      simp only [step, bare_map, erase]
  | seq a b iha ihb => simp only [erase, step, ihb, iha]
  | alt id a b iha ihb => simp only [erase, step, iha, ihb, bare_orOutcome]
  -- A tame body is stepped by itself, any other one is explored together with what follows.
  | more id greedy tame m ih =>
      cases tame with
      | true =>
          have hagain : outcome g m.erase none = bare (outcome g m none) := outcome_erase m none
          simp only [erase, step, hagain, ← bare_afterRound, ih]
      | false =>
          have houtcome := congrArg Prod.fst
            (explore_erase (g := g) (more id greedy false m) [] fun p => (k, p))
          have hmarks := remark_erase (g := g) (more id greedy false m) fun p => (k, p)
          exact Prod.ext houtcome hmarks

theorem searchBefore_erase (m : Marked) (found : Option Trace) (after : Option Char) (index : Nat)
    (before : Text) :
    m.erase.searchBefore (bare found) after index before =
      bare (m.searchBefore found after index before) := by
  have hstep (m : Marked) (g : Gap) :
      step g m.erase (some []) = (bare (step g m (some [])).1, (step g m (some [])).2.erase) :=
    step_erase m (some [])
  induction before generalizing m found after index with
  | nil =>
      unfold searchBefore
      rw [hstep]
      exact (bare_orOutcome _ found).symm
  | cons c before ih =>
      unfold searchBefore
      rw [hstep]
      dsimp only
      rw [← bare_orOutcome, ih]

end Marked

/-- Without groups a match is found where one is found with them, and it records nothing. -/
theorem Regex.search_erase (r : Regex) (t : Text) :
    r.erase.search t = (r.search t).map fun _ => [] := by
  rw [search, Marked.erase_ofRegex]
  exact Marked.searchBefore_erase _ none none t.length t.reverse

/-! ## Whole texts -/

namespace Pattern

/-- Whether the pattern matches the whole of a text. -/
def accepts (p : Pattern) (t : Text) : Bool :=
  ((seqs [look .textStart, p, look .textEnd]).regex.search t).isSome

/-- The same texts match without groups. -/
theorem accepts_erase (p : Pattern) (t : Text) : p.erase.accepts t = p.accepts t := by
  have hanchored : seqs [look .textStart, p.erase, look .textEnd] =
      (seqs [look .textStart, p, look .textEnd]).erase :=
    rfl
  rw [accepts, hanchored, regex_erase, Regex.search_erase, Option.isSome_map, accepts]

end Pattern
end PathTemplate
