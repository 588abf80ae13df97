import PathTemplate.Proofs.Regex.Spelling

/-!
# Priority — what the preferred outcome says about the match

- `Regex.then_of_prefer`       : a preferred outcome is the trace of a match, and of what follows it
- `Pattern.prefer_seqs_append` : the preference of patterns in a row is that of one after the other
- `Regex.exists_shortest`      : a lazy repetition ends at the first gap where the rest succeeds
- `Regex.prefer_fewest`        : it skips the gaps where the rest fails
- `Regex.search_eq_prefer`     : the search of an expression that matches at the start only
-/

namespace PathTemplate

open Marked (orOutcome afterRound)

/-- A text passes a character if that is its first one, and the rest of it passes on. -/
theorem Cut.passes_cons_iff {x y : Char} {b a v : Text} {e : Cut} :
    Cut.Passes ⟨b, x :: a⟩ (y :: v) e ↔ y = x ∧ Cut.Passes ⟨x :: b, a⟩ v e := by
  constructor
  · rintro ⟨hafter, hbefore⟩
    obtain ⟨rfl, rfl⟩ := List.cons.inj hafter
    exact ⟨rfl, rfl, by rw [hbefore, List.reverse_cons, List.append_assoc]; rfl⟩
  · rintro ⟨rfl, hpass⟩
    exact (Cut.Passes.single y b a).trans hpass

namespace Regex

variable {r : Regex} {K K' : Rest} {k : Continuation} {c : Cut} {s t : Trace} {cls : CharClass}

/-! ## Preferred outcomes are matches -/

/-- A match stays one if more may follow. -/
theorem Then.mono (hK : ∀ d s, K d s → K' d s) (h : r.Then K c t) : r.Then K' c t := by
  rcases h with ⟨d, t₁, t₂, hmatch, hrest, rfl⟩
  exact ⟨d, t₁, t₂, hmatch, hK d t₂ hrest, rfl⟩

theorem eq_some_of_orOutcome {x y : Option Trace} (h : orOutcome x y = some t) :
    x = some t ∨ y = some t := by
  cases x with
  | none => exact .inr h
  | some s => exact .inl h

/-- After a round the repetition has gone round again, or it has ended. -/
theorem eq_some_of_afterRound {greedy : Bool} {again goOn : Option Trace}
    (h : afterRound greedy again goOn = some t) : again = some t ∨ goOn = some t := by
  cases greedy with
  | true => exact eq_some_of_orOutcome h
  | false => exact (eq_some_of_orOutcome h).symm

/-- What follows with the trace `t`. -/
def Rest.of (k : Continuation) : Rest := fun c t => k c = some t

/-- A preferred outcome is the trace of a match, and of what follows where the match ends. -/
theorem then_of_prefer (h : r.prefer k c = some t) : r.Then (Rest.of k) c t := by
  induction r generalizing k c t with
  | empty => exact .of_empty h
  | chars cls =>
      rcases c with ⟨b, _ | ⟨x, a⟩⟩
      · cases h
      · simp only [prefer] at h
        split at h
        case isTrue hx => exact .of_chars hx h
        case isFalse => cases h
  | look l =>
      simp only [prefer] at h
      split at h
      case isTrue hl => exact .of_look hl h
      case isFalse => cases h
  | group i r ih =>
      rcases Option.map_eq_some_iff.mp h with ⟨t', ht', rfl⟩
      refine .of_group ((ih ht').mono fun d s hs => ?_)
      rcases Option.map_eq_some_iff.mp hs with ⟨s', hs', rfl⟩
      exact ⟨s', hs', rfl⟩
  | seq a b iha ihb => exact .of_seq ((iha h).mono fun d s hs => ihb hs)
  | alt a b iha ihb =>
      rcases eq_some_of_orOutcome h with ha | hb
      · exact .of_first b (iha ha)
      · exact .of_second a (ihb hb)
  | more greedy r ih =>
      -- Each round begins further right than the one before.
      obtain ⟨n, hn⟩ : ∃ n, c.after.length = n := ⟨_, rfl⟩
      induction n using Nat.strongRecOn generalizing c t with
      | ind n ihn =>
          simp only [prefer] at h
          rw [rounds] at h
          refine .of_more ((ih h).mono fun d s hs => ?_)
          rcases eq_some_of_afterRound hs with hagain | hgoOn
          · split at hagain
            case isTrue hlater => exact .inl (ihn _ (hn ▸ hlater) hagain rfl)
            case isFalse => cases hagain
          · exact .inr hgoOn

/-- Of an expression that spells a language, a preferred outcome passes a text of it. -/
theorem Spells.passes_of_prefer {L : Language Char} (hr : r.Spells L) (h : r.prefer k c = some t) :
    ∃ u ∈ L, ∃ d, c.Passes u d ∧ k d = some t := by
  rcases then_of_prefer h with ⟨d, t₁, t₂, hmatch, hrest, rfl⟩
  rcases (hr c t₁ d).mp hmatch with ⟨rfl, u, hu, hpass⟩
  exact ⟨u, hu, d, hpass, hrest⟩

/-! ## Lazy repetition -/

/-- One or more characters of a set, as few as possible: after a character the rest is tried
first. -/
theorem prefer_lazily_cons {x : Char} {b a : Text} (hx : cls.has x = true) :
    (more false (chars cls)).prefer k ⟨b, x :: a⟩ =
      orOutcome (k ⟨x :: b, a⟩) ((more false (chars cls)).prefer k ⟨x :: b, a⟩) := by
  rw [prefer_more rfl]
  simp only [prefer, hx, if_true, afterRound, Bool.false_eq_true, if_false]

/-- A lazy repetition ends at the first gap after which the rest succeeds. -/
theorem exists_shortest (h : (more false (chars cls)).prefer k c = some t) :
    ∃ u d, u ≠ [] ∧ (∀ x ∈ u, cls.has x = true) ∧ c.Passes u d ∧ k d = some t ∧
      ∀ v e, v ≠ [] → v.length < u.length → c.Passes v e → k e = none := by
  rcases c with ⟨b, a⟩
  induction a generalizing b with
  | nil =>
      rw [prefer_more rfl] at h
      cases h
  | cons x a ih =>
      by_cases hx : cls.has x = true
      · rw [prefer_lazily_cons hx] at h
        cases hk : k ⟨x :: b, a⟩ with
        | some s =>
            -- One character is enough, and no text is shorter.
            rw [hk] at h
            refine ⟨[x], _, List.cons_ne_nil x [], by simpa using hx, Cut.Passes.single x b a,
              hk.trans h, ?_⟩
            intro v e hne hlength
            exact absurd (List.length_pos_iff.mpr hne) (Nat.not_lt.mpr (Nat.le_of_lt_succ hlength))
        | none =>
            rw [hk] at h
            rcases ih (x :: b) h with ⟨u, d, hne, hu, hpass, hd, hshorter⟩
            refine ⟨x :: u, d, List.cons_ne_nil x u, List.forall_mem_cons.mpr ⟨hx, hu⟩,
              (Cut.Passes.single x b a).trans hpass, hd, ?_⟩
            intro v e hnev hlength hpassv
            obtain ⟨y, v, rfl⟩ := List.exists_cons_of_ne_nil hnev
            obtain ⟨-, hrest⟩ := Cut.passes_cons_iff.mp hpassv
            -- What is shorter ends after this character, or it is shorter further right.
            by_cases hv : v = []
            · subst hv
              rw [hrest.unique (Cut.Passes.refl _)]
              exact hk
            · exact hshorter v e hv (Nat.lt_of_succ_lt_succ hlength) hrest
      · rw [prefer_more rfl] at h
        simp [prefer, hx] at h

/-- Any number of times as few as possible: before the first time the rest is tried. -/
theorem prefer_many_lazily :
    (r.many false).prefer k c = orOutcome (k c) ((more false r).prefer k c) := rfl

/-- Any number of characters of a set, as few as possible, if the rest fails in front of such a
character and succeeds in one way everywhere else: they are passed all. -/
theorem prefer_fewest
    (hk : ∀ u d, c.Passes u d → k d = if d.after.head?.any cls.has = true then none else some s) :
    ((chars cls).many false).prefer k c = some s := by
  have hhere := hk [] c (Cut.Passes.refl c)
  rw [prefer_many_lazily]
  rcases c with ⟨b, a⟩
  induction a generalizing b with
  | nil =>
      rw [hhere]
      rfl
  | cons x a ih =>
      by_cases hx : cls.has x = true
      · have hrest : ∀ u d, Cut.Passes ⟨x :: b, a⟩ u d →
            k d = if d.after.head?.any cls.has = true then none else some s :=
          fun u d hpass => hk (x :: u) d (Cut.passes_cons_iff.mpr ⟨rfl, hpass⟩)
        -- After the character the choice is the same as in front of it.
        have hnone : k ⟨b, x :: a⟩ = none := by simp [hhere, hx]
        rw [hnone, prefer_lazily_cons hx]
        exact ih (x :: b) hrest (hrest [] _ (Cut.Passes.refl _))
      · have hsome : k ⟨b, x :: a⟩ = some s := by simp [hhere, hx]
        rw [hsome]
        rfl

/-! ## Expressions that match at the start -/

/-- The search of an expression that matches at the start of the text only. -/
theorem search_eq_prefer (hr : r.Tame)
    (hstart : ∀ c : Cut, c.before ≠ [] → r.prefer .done c = none) (text : Text) :
    r.search text = r.prefer .done ⟨[], text⟩ := by
  have hfirst : ∀ b a : Text, (Cut.upTo b a).findSome? (r.prefer .done) =
      r.prefer .done ⟨[], b.reverse ++ a⟩ := by
    intro b
    induction b with
    | nil => exact fun a => List.findSome?_singleton
    | cons x b ih =>
        intro a
        have hnone : r.prefer .done ⟨x :: b, a⟩ = none := hstart _ (List.cons_ne_nil x b)
        rw [Cut.upTo, List.findSome?_append, ih, List.findSome?_singleton, hnone, Option.or_none,
          List.reverse_cons, List.append_assoc]
        rfl
  rw [search_eq hr, hfirst]
  simp

end Regex

namespace Pattern

variable {p : Pattern} {ps qs : List Pattern} {k : Continuation}

/-! ## Patterns in a row -/

theorem prefer_seqs_cons :
    (seqs (p :: ps)).regex.prefer k = p.regex.prefer ((seqs ps).regex.prefer k) := by
  cases ps with
  | nil => rfl
  | cons q ps => rfl

theorem prefer_seqs_append :
    (seqs (ps ++ qs)).regex.prefer k = (seqs ps).regex.prefer ((seqs qs).regex.prefer k) := by
  induction ps with
  | nil => rfl
  | cons p ps ih => rw [List.cons_append, prefer_seqs_cons, ih, prefer_seqs_cons]

end Pattern
end PathTemplate
