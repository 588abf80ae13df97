import PathTemplate.Proofs.Regex.Matching
import PathTemplate.Regex.Pattern

/-!
# Groups — which groups a pattern has

- `Pattern.GroupFree`     : a pattern without groups
- `Pattern.groupFree_seqs_iff`, `groupFree_alts_iff`, `GroupFree.repetition` : composed patterns
- `Pattern.renumber`      : the pattern with larger numbers for its groups
- `Regex.GroupFree`       : an expression without groups
- `Pattern.GroupFree.regex` : written out, a pattern without groups has none
- `Matches.trace_eq_nil`  : a match of an expression without groups records nothing
-/

namespace PathTemplate

/-! ## Patterns without groups -/

namespace Pattern

def GroupFree : Pattern → Prop
  | empty => True
  | chars _ => True
  | look _ => True
  | group _ _ => False
  | seq a b => a.GroupFree ∧ b.GroupFree
  | alt a b => a.GroupFree ∧ b.GroupFree
  | times _ _ _ p => p.GroupFree

theorem groupFree_seqs_iff {ps : List Pattern} : (seqs ps).GroupFree ↔ ∀ p ∈ ps, p.GroupFree := by
  induction ps with
  | nil => simp [seqs, GroupFree]
  | cons p ps ih =>
      cases ps with
      | nil => simp [seqs]
      | cons q ps =>
          rw [List.forall_mem_cons, ← ih]
          rfl

theorem groupFree_alts_iff {ps : List Pattern} : (alts ps).GroupFree ↔ ∀ p ∈ ps, p.GroupFree := by
  induction ps with
  | nil => simp [alts, GroupFree]
  | cons p ps ih =>
      cases ps with
      | nil => simp [alts]
      | cons q ps =>
          rw [List.forall_mem_cons, ← ih]
          rfl

theorem GroupFree.groupBound_eq {p : Pattern} (hp : p.GroupFree) : p.groupBound = 1 := by
  induction p with
  | empty => rfl
  | chars => rfl
  | look => rfl
  | group => exact hp.elim
  | seq a b iha ihb => rw [groupBound, iha hp.1, ihb hp.2, Nat.max_self]
  | alt a b iha ihb => rw [groupBound, iha hp.1, ihb hp.2, Nat.max_self]
  | times _ _ _ _ ih => exact ih hp

theorem GroupFree.repetition {p : Pattern} (hp : p.GroupFree) (least : Nat) (most : Option Nat)
    (greedy : Bool) : (p.repetition least most greedy).GroupFree := by
  unfold Pattern.repetition
  -- Whatever the counts become, the pattern under them is the same.
  generalize (if p.matchesOnlyEmpty then (min least 1, some (min (most.getD 1) 1))
    else (least, most)) = counts
  dsimp only
  split
  · trivial
  · split
    · exact hp
    · exact hp

/-! ## Renumbered patterns -/

/-- The pattern with the numbers of its groups larger by `n`. -/
def renumber (n : Nat) : Pattern → Pattern
  | empty => empty
  | chars cls => chars cls
  | look l => look l
  | group k p => group (k + n) (p.renumber n)
  | seq a b => seq (a.renumber n) (b.renumber n)
  | alt a b => alt (a.renumber n) (b.renumber n)
  | times least most greedy p => times least most greedy (p.renumber n)

theorem GroupFree.renumber_eq {p : Pattern} (hp : p.GroupFree) (n : Nat) : p.renumber n = p := by
  induction p with
  | empty | chars | look => rfl
  | group k p ih => exact hp.elim
  | seq a b iha ihb => rw [renumber, iha hp.1, ihb hp.2]
  | alt a b iha ihb => rw [renumber, iha hp.1, ihb hp.2]
  | times least most greedy p ih => rw [renumber, ih hp]

theorem renumber_seqs (n : Nat) (ps : List Pattern) :
    (seqs ps).renumber n = seqs (ps.map (renumber n)) := by
  induction ps with
  | nil => rfl
  | cons p ps ih =>
      cases ps with
      | nil => rfl
      | cons q ps => exact congrArg (seq _) ih

theorem renumber_alts (n : Nat) (ps : List Pattern) :
    (alts ps).renumber n = alts (ps.map (renumber n)) := by
  induction ps with
  | nil => rfl
  | cons p ps ih =>
      cases ps with
      | nil => rfl
      | cons q ps => exact congrArg (alt _) ih

theorem matchesOnlyEmpty_renumber (n : Nat) (p : Pattern) :
    (p.renumber n).matchesOnlyEmpty = p.matchesOnlyEmpty := by
  induction p with
  | empty | chars | look => rfl
  | group k p ih => exact ih
  | seq a b iha ihb => simp only [renumber, matchesOnlyEmpty, iha, ihb]
  | alt a b iha ihb => simp only [renumber, matchesOnlyEmpty, iha, ihb]
  | times least most greedy p ih => exact ih

theorem renumber_repetition (n least : Nat) (most : Option Nat) (greedy : Bool) (p : Pattern) :
    (p.repetition least most greedy).renumber n =
      (p.renumber n).repetition least most greedy := by
  unfold Pattern.repetition
  rw [matchesOnlyEmpty_renumber]
  generalize (if p.matchesOnlyEmpty then (min least 1, some (min (most.getD 1) 1))
    else (least, most)) = counts
  dsimp only
  split
  · rfl
  · split
    · rfl
    · rfl

end Pattern

/-! ## Expressions without groups -/

namespace Regex

def GroupFree : Regex → Prop
  | empty => True
  | chars _ => True
  | look _ => True
  | group _ _ => False
  | seq a b => a.GroupFree ∧ b.GroupFree
  | alt a b => a.GroupFree ∧ b.GroupFree
  | more _ r => r.GroupFree

variable {r : Regex} {c d : Cut} {t : Trace}

/-- An expression without groups records nothing. -/
theorem Matches.trace_eq_nil (h : r.Matches c t d) (hr : r.GroupFree) : t = [] := by
  induction h with
  | empty | chars | look => rfl
  | group k h ih => exact hr.elim
  | seq h h' ih ih' => rw [ih hr.1, ih' hr.2, List.append_nil]
  | first b h ih => exact ih hr.1
  | second a h ih => exact ih hr.2
  | once greedy h ih => exact ih hr
  | again h h' ih ih' => rw [ih hr, ih' hr, List.append_nil]

theorem groupFree_optional (greedy : Bool) (hr : r.GroupFree) : (r.optional greedy).GroupFree := by
  cases greedy with
  | true => exact ⟨hr, trivial⟩
  | false => exact ⟨trivial, hr⟩

theorem groupFree_many (greedy : Bool) (hr : r.GroupFree) : (r.many greedy).GroupFree :=
  groupFree_optional greedy (show (Regex.more greedy r).GroupFree from hr)

theorem groupFree_copies (hr : r.GroupFree) (n : Nat) : (r.copies n).GroupFree := by
  -- Copies are made by halving.
  induction n using Nat.strongRecOn with
  | ind n ih =>
      rw [copies]
      split
      · trivial
      · split
        · exact hr
        · have hhalf := ih (n / 2) (by omega)
          dsimp only
          split
          · exact ⟨hhalf, hhalf⟩
          · exact ⟨hr, hhalf, hhalf⟩

theorem groupFree_upTo (greedy : Bool) (hr : r.GroupFree) (n : Nat) :
    (r.upTo greedy n).GroupFree := by
  fun_induction upTo greedy r n with
  | case1 => trivial
  | case2 => exact groupFree_optional greedy hr
  | case3 n ih => exact groupFree_optional greedy ⟨hr, ih⟩

end Regex

/-- Written out, a pattern without groups has none. -/
theorem Pattern.GroupFree.regex {p : Pattern} (hp : p.GroupFree) : p.regex.GroupFree := by
  induction p with
  | empty | chars | look => trivial
  | group k p ih => exact hp.elim
  | seq a b iha ihb => exact ⟨iha hp.1, ihb hp.2⟩
  | alt a b iha ihb => exact ⟨iha hp.1, ihb hp.2⟩
  | times least most greedy p ih =>
      have hr := ih hp
      unfold Pattern.regex
      split
      · exact Regex.groupFree_many greedy hr
      · exact hr
      · exact ⟨Regex.groupFree_copies hr _, hr⟩
      · split
        · exact Regex.groupFree_upTo greedy hr _
        · split
          · exact ⟨Regex.groupFree_copies hr _, Regex.groupFree_upTo greedy hr _⟩
          · exact Regex.groupFree_copies hr _

end PathTemplate
