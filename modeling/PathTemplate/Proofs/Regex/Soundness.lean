import PathTemplate.Proofs.Regex.Matching

/-!
# Soundness — what the search finds is a match

- `Marked.regex`      : the expression under the marks; no step changes it
- `Marked.Justified`  : each mark at a gap is a trace of some match of the rest
- `Marked.justified_step` : a step to the gap before justifies the new marks
- `Regex.found_of_search`   : what the search finds is the trace of a match

Nothing is assumed of the expression: the body of a repetition may match the empty text.
-/

namespace PathTemplate

/-! ## What may follow -/

/-- The traces that may follow at a gap. -/
abbrev Rest := Cut → Trace → Prop

def Regex.Then (r : Regex) (K : Rest) : Rest := fun c t =>
  ∃ d t₁ t₂, r.Matches c t₁ d ∧ K d t₂ ∧ t = t₁ ++ t₂

def Rest.closing (k : Nat) (K : Rest) : Rest := fun c t =>
  ∃ t', K c t' ∧ t = .closes k c.index :: t'

/-- What may follow a round of a repetition: another match of it, or what follows the repetition. -/
def Rest.round (greedy : Bool) (r : Regex) (K : Rest) : Rest := fun c t =>
  Regex.Then (.more greedy r) K c t ∨ K c t

namespace Regex

variable {K : Rest} {c : Cut} {t : Trace}

theorem Then.of_empty (h : K c t) : Then .empty K c t := ⟨c, [], t, .empty c, h, rfl⟩

theorem Then.of_look {l : Look} (hl : l.holds c.gap = true) (h : K c t) : Then (.look l) K c t :=
  ⟨c, [], t, .look hl, h, rfl⟩

theorem Then.of_chars {cls : CharClass} {x : Char} {b a : Text} (hx : cls.has x = true)
    (h : K ⟨x :: b, a⟩ t) : Then (.chars cls) K ⟨b, x :: a⟩ t :=
  ⟨_, [], t, .chars b a hx, h, rfl⟩

theorem Then.of_group {k : Nat} {r : Regex} (h : Then r (K.closing k) c t) :
    Then (.group k r) K c (.opens k c.index :: t) := by
  rcases h with ⟨d, t₁, _, hr, ⟨t₂, hK, rfl⟩, rfl⟩
  exact ⟨d, _, t₂, .group k hr, hK, by simp⟩

theorem Then.of_seq {a b : Regex} (h : Then a (Then b K) c t) : Then (.seq a b) K c t := by
  rcases h with ⟨d, t₁, _, ha, ⟨e, t₂, t₃, hb, hK, rfl⟩, rfl⟩
  exact ⟨e, t₁ ++ t₂, t₃, .seq ha hb, hK, by simp⟩

theorem Then.of_first {a : Regex} (b : Regex) (h : Then a K c t) : Then (.alt a b) K c t := by
  rcases h with ⟨d, t₁, t₂, ha, hK, rfl⟩
  exact ⟨d, t₁, t₂, .first b ha, hK, rfl⟩

theorem Then.of_second (a : Regex) {b : Regex} (h : Then b K c t) : Then (.alt a b) K c t := by
  rcases h with ⟨d, t₁, t₂, hb, hK, rfl⟩
  exact ⟨d, t₁, t₂, .second a hb, hK, rfl⟩

theorem Then.of_more {greedy : Bool} {r : Regex} (h : Then r (K.round greedy r) c t) :
    Then (.more greedy r) K c t := by
  rcases h with ⟨d, t₁, t', hr, h | h, rfl⟩
  · -- The rounds after this one are one match of the repetition, so this one is put before it.
    rcases h with ⟨e, t₂, t₃, hm, hK, rfl⟩
    exact ⟨e, t₁ ++ t₂, t₃, .again hr hm, hK, by simp⟩
  · exact ⟨d, t₁, t', .once greedy hr, h, rfl⟩

end Regex

namespace Marked

/-! ## The expression under the marks -/

def regex : Marked → Regex
  | empty => .empty
  | chars cls _ => .chars cls
  | look l => .look l
  | group k m => .group k m.regex
  | seq a b => .seq a.regex b.regex
  | alt _ a b => .alt a.regex b.regex
  | more _ greedy _ m => .more greedy m.regex

theorem regex_ofRegex (r : Regex) (n : Nat) : (ofRegex n r).1.regex = r := by
  induction r generalizing n with
  | empty | chars | look => rfl
  | group k r ih => simp [ofRegex, regex, ih]
  | seq a b iha ihb => simp [ofRegex, regex, iha, ihb]
  | alt a b iha ihb => simp [ofRegex, regex, iha, ihb]
  | more greedy r ih => simp [ofRegex, regex, ih]

theorem regex_remark (g : Gap) (m : Marked) (k : Passed → Walk) :
    (remark g m k).regex = m.regex := by
  induction m generalizing k with
  | empty | chars | look => rfl
  | group i m ih => simp [remark, regex, ih]
  | seq a b iha ihb => simp [remark, regex, iha, ihb]
  | alt id a b iha ihb => simp [remark, regex, iha, ihb]
  | more id greedy tame m ih => simp [remark, regex, ih]

theorem regex_step (g : Gap) (m : Marked) (k : Option Trace) : (step g m k).2.regex = m.regex := by
  induction m generalizing k with
  | empty | chars | look => rfl
  | group i m ih => simp [step, regex, ih]
  | seq a b iha ihb => simp [step, regex, iha, ihb]
  | alt id a b iha ihb => simp [step, regex, iha, ihb]
  | more id greedy tame m ih =>
      cases tame with
      | true => simp [step, regex, ih]
      -- A body that may match the empty text is walked through instead of stepped.
      | false => simp [step, remark, regex, regex_remark]

/-- A step gives the outcome along with the new marks. -/
theorem step_fst (g : Gap) (m : Marked) (k : Option Trace) : (step g m k).1 = outcome g m k := by
  induction m generalizing k with
  | empty | chars | look => rfl
  | group i m ih => simp [step, outcome, ih]
  | seq a b iha ihb => simp [step, outcome, iha, ihb]
  | alt id a b iha ihb => simp [step, outcome, iha, ihb]
  | more id greedy tame m ih =>
      cases tame with
      | true => simp [step, outcome]
      | false => simp [step, outcome]

/-! ## Justified marks -/

/-- Each mark, for the gap `c`, is a trace of some match of the rest from there on, where `K` may
follow the whole expression. -/
def Justified : Marked → Rest → Cut → Prop
  | empty, _, _ => True
  | chars _ mark, K, c => ∀ t, mark = some t → K c t
  | look _, _, _ => True
  | group k m, K, c => m.Justified (K.closing k) c
  | seq a b, K, c => a.Justified (b.regex.Then K) c ∧ b.Justified K c
  | alt _ a b, K, c => a.Justified K c ∧ b.Justified K c
  | more _ greedy _ m, K, c => m.Justified (K.round greedy m.regex) c

/-- The marks are justified for the gap after the next character, if there is one. -/
def Ready (m : Marked) (K : Rest) (c : Cut) : Prop :=
  ∀ x a, c.after = x :: a → m.Justified K ⟨x :: c.before, a⟩

def Allowed (K : Rest) (c : Cut) (o : Option Trace) : Prop := ∀ t, o = some t → K c t

variable {K : Rest} {c : Cut} {m : Marked}

theorem Allowed.none : Allowed K c none := fun _ h => nomatch h

theorem Allowed.orOutcome {x y : Option Trace} (hx : Allowed K c x) (hy : Allowed K c y) :
    Allowed K c (orOutcome x y) := by
  intro t h
  cases x with
  | none => exact hy t h
  | some s => exact hx t h

theorem Allowed.closing {k : Nat} {o : Option Trace} (ho : Allowed K c o) :
    Allowed (K.closing k) c (o.map (.closes k c.index :: ·)) := by
  intro t h
  rcases Option.map_eq_some_iff.mp h with ⟨t', ht', rfl⟩
  exact ⟨t', ho t' ht', rfl⟩

/-- What a mark says at the gap before its character. -/
theorem allowed_mark {cls : CharClass} {mark : Option Trace} (h : (chars cls mark).Ready K c) :
    Allowed ((Regex.chars cls).Then K) c (if c.gap.after.any cls.has then mark else none) := by
  intro t ht
  rcases c with ⟨b, _ | ⟨x, a⟩⟩
  · simp [Cut.gap] at ht
  · -- The mark says what follows the character, which is there and is in the class.
    by_cases hx : cls.has x = true
    · exact .of_chars hx (h x a rfl t (by simpa [Cut.gap, hx] using ht))
    · simp [Cut.gap, hx] at ht

/-! ### Walks -/

/-- A walk ends in what may follow, whatever branchings it has passed. -/
def AllowedWalk (K : Rest) (c : Cut) (k : Passed → Walk) : Prop := ∀ p, Allowed K c (k p).1

theorem AllowedWalk.stuck : AllowedWalk K c stuck := fun _ => Allowed.none

theorem allowed_orWalk {w : Walk} {next : Passed → Walk} (hw : Allowed K c w.1)
    (hnext : AllowedWalk K c next) : Allowed K c (orWalk w next).1 := by
  rcases w with ⟨_ | t, p⟩
  · exact hnext p
  · exact hw

theorem AllowedWalk.goRound {id : Nat} {greedy : Bool} {again goOn : Passed → Walk}
    (hagain : AllowedWalk K c again) (hgoOn : AllowedWalk K c goOn) :
    AllowedWalk K c (goRound id greedy again goOn) := by
  intro p
  simp only [Marked.goRound]
  split
  · exact Allowed.none
  · split
    · exact allowed_orWalk (hagain _) hgoOn
    · exact allowed_orWalk (hgoOn _) hagain

theorem allowed_explore {k : Passed → Walk} (h : m.Ready K c) (hk : AllowedWalk K c k) :
    AllowedWalk (m.regex.Then K) c fun p => explore c.gap m p k := by
  -- What may follow grows on the way inwards: an end of a group, a second part, another round.
  induction m generalizing K k with
  | empty => exact fun p t ht => .of_empty (hk p t ht)
  | chars cls mark => exact fun p => allowed_mark h
  | look l =>
      intro p t ht
      simp only [explore] at ht
      split at ht
      case isTrue hl => exact .of_look hl (hk p t ht)
      case isFalse => cases ht
  | group i m ih =>
      intro p t ht
      rcases Option.map_eq_some_iff.mp ht with ⟨t', ht', rfl⟩
      have hclosing : AllowedWalk (K.closing i) c
          fun p => mapWalk (.closes i c.gap.index :: ·) (k p) := fun p => (hk p).closing
      exact .of_group (ih h hclosing p t' ht')
  | seq a b iha ihb =>
      have hb := ihb (fun x a hx => (h x a hx).2) hk
      have ha := iha (fun x a hx => (h x a hx).1) hb
      exact fun p t ht => .of_seq (ha p t ht)
  | alt id a b iha ihb =>
      have ha := iha (fun x a hx => (h x a hx).1) hk
      have hb := ihb (fun x a hx => (h x a hx).2) hk
      intro p t ht
      simp only [explore] at ht
      split at ht
      · cases ht
      · refine allowed_orWalk (K := (Regex.alt a.regex b.regex).Then K) ?_ ?_ t ht
        · exact fun t ht => .of_first _ (ha _ t ht)
        · exact fun p t ht => .of_second _ (hb p t ht)
  | more id greedy tame m ih =>
      -- A walk that goes round again without a character is stuck, so the hypothesis is used twice.
      have hagain := ih h (AllowedWalk.stuck (K := K.round greedy m.regex))
      have hround : AllowedWalk (K.round greedy m.regex) c
          (goRound id greedy (fun p => explore c.gap m p stuck) k) := by
        refine AllowedWalk.goRound ?_ ?_
        · exact fun p t ht => .inl (.of_more (hagain p t ht))
        · exact fun p t ht => .inr (hk p t ht)
      exact fun p t ht => .of_more (ih h hround p t ht)

theorem justified_remark {k : Passed → Walk} (h : m.Ready K c) (hk : AllowedWalk K c k) :
    (remark c.gap m k).Justified K c := by
  induction m generalizing K k with
  | empty | look => trivial
  | chars cls mark => exact hk []
  | group i m ih => exact ih h fun p => (hk p).closing
  | seq a b iha ihb =>
      refine ⟨?_, ihb (fun x a hx => (h x a hx).2) hk⟩
      rw [regex_remark]
      exact iha (fun x a hx => (h x a hx).1) (allowed_explore (fun x a hx => (h x a hx).2) hk)
  | alt id a b iha ihb =>
      exact ⟨iha (fun x a hx => (h x a hx).1) hk, ihb (fun x a hx => (h x a hx).2) hk⟩
  | more id greedy tame m ih =>
      have hagain := allowed_explore (m := m) h (AllowedWalk.stuck (K := K.round greedy m.regex))
      simp only [remark, Justified, regex_remark]
      refine ih h (AllowedWalk.goRound ?_ ?_)
      · exact fun p t ht => .inl (.of_more (hagain p t ht))
      · exact fun p t ht => .inr (hk p t ht)

/-! ### Steps -/

theorem allowed_outcome {k : Option Trace} (h : m.Ready K c) (hk : Allowed K c k) :
    Allowed (m.regex.Then K) c (outcome c.gap m k) := by
  induction m generalizing K k with
  | empty => exact fun t ht => .of_empty (hk t ht)
  | chars cls mark => exact allowed_mark h
  | look l =>
      intro t ht
      simp only [outcome] at ht
      split at ht
      case isTrue hl => exact .of_look hl (hk t ht)
      case isFalse => cases ht
  | group i m ih =>
      intro t ht
      rcases Option.map_eq_some_iff.mp ht with ⟨t', ht', rfl⟩
      exact .of_group (ih h hk.closing t' ht')
  | seq a b iha ihb =>
      have hb := ihb (fun x a hx => (h x a hx).2) hk
      have ha := iha (fun x a hx => (h x a hx).1) hb
      exact fun t ht => .of_seq (ha t ht)
  | alt id a b iha ihb =>
      have ha := iha (fun x a hx => (h x a hx).1) hk
      have hb := ihb (fun x a hx => (h x a hx).2) hk
      refine Allowed.orOutcome ?_ ?_
      · exact fun t ht => .of_first _ (ha t ht)
      · exact fun t ht => .of_second _ (hb t ht)
  | more id greedy tame m ih =>
      cases tame with
      -- The body takes a character, so nothing that follows at this gap can follow it.
      | true => exact fun t ht => .of_more (ih h Allowed.none t ht)
      | false =>
          have hk' : AllowedWalk K c fun p => (k, p) := fun _ => hk
          exact allowed_explore (m := .more id greedy false m) h hk' []

/-- A step to the gap before justifies the new marks. -/
theorem justified_step {k : Option Trace} (h : m.Ready K c) (hk : Allowed K c k) :
    (step c.gap m k).2.Justified K c := by
  induction m generalizing K k with
  | empty | look => trivial
  | chars cls mark => exact hk
  | group i m ih => exact ih h hk.closing
  | seq a b iha ihb =>
      simp only [step, Justified, regex_step, step_fst]
      have hb := allowed_outcome (fun x a hx => (h x a hx).2) hk
      exact ⟨iha (fun x a hx => (h x a hx).1) hb, ihb (fun x a hx => (h x a hx).2) hk⟩
  | alt id a b iha ihb =>
      exact ⟨iha (fun x a hx => (h x a hx).1) hk, ihb (fun x a hx => (h x a hx).2) hk⟩
  | more id greedy tame m ih =>
      have hk' : AllowedWalk K c fun p => (k, p) := fun _ => hk
      cases tame with
      | true =>
          -- What may follow a round is what the repetition or the rest makes of this gap.
          have hagain : Allowed (K.round greedy m.regex) c (outcome c.gap m none) :=
            fun t ht => .inl (.of_more (allowed_outcome (m := m) h Allowed.none t ht))
          have hgoOn : Allowed (K.round greedy m.regex) c k := fun t ht => .inr (hk t ht)
          simp only [step, Justified, regex_step]
          refine ih h ?_
          cases greedy with
          | true => exact hagain.orOutcome hgoOn
          | false => exact hgoOn.orOutcome hagain
      | false => exact justified_remark (m := .more id greedy false m) h hk'

end Marked

/-! ## The search -/

def Rest.done : Rest := fun _ t => t = []

def Regex.Found (r : Regex) (text : Text) (t : Trace) : Prop :=
  ∃ c d, c.whole = text ∧ r.Matches c t d

namespace Marked

variable {m : Marked} {c : Cut} {text : Text} {found : Option Trace}

/-- Of the outcome at a gap and what was found further right, each is the trace of a match. -/
theorem found_orOutcome (hm : m.Ready .done c) (hc : c.whole = text)
    (hfound : ∀ t, found = some t → m.regex.Found text t) {t : Trace}
    (h : orOutcome (outcome c.gap m (some [])) found = some t) : m.regex.Found text t := by
  have hdone : Allowed .done c (some []) := fun t ht => (Option.some.inj ht).symm
  cases ho : outcome c.gap m (some []) with
  | none => exact hfound t (by simpa [ho, orOutcome] using h)
  | some s =>
      obtain rfl : s = t := by simpa [ho, orOutcome] using h
      rcases allowed_outcome hm hdone s ho with ⟨d, t₁, _, hmatch, rfl, rfl⟩
      exact ⟨c, d, hc, by simpa using hmatch⟩

theorem searchBefore_nil (m : Marked) (found : Option Trace) (a : Text) :
    m.searchBefore found a.head? 0 [] =
      orOutcome (outcome (Cut.gap ⟨[], a⟩) m (some [])) found := by
  rw [searchBefore, ← step_fst]
  rfl

theorem searchBefore_cons (m : Marked) (found : Option Trace) (x : Char) (b a : Text) :
    m.searchBefore found a.head? (x :: b).length (x :: b) =
      (step (Cut.gap ⟨x :: b, a⟩) m (some [])).2.searchBefore
        (orOutcome (outcome (Cut.gap ⟨x :: b, a⟩) m (some [])) found) (some x) b.length b := by
  rw [searchBefore, ← step_fst]
  rfl

theorem found_of_searchBefore {b a : Text} (hm : m.Ready .done ⟨b, a⟩)
    (hc : b.reverse ++ a = text) (hfound : ∀ t, found = some t → m.regex.Found text t) {t : Trace}
    (h : m.searchBefore found a.head? b.length b = some t) : m.regex.Found text t := by
  -- The search goes left, and with each gap the marks are those of the gap to its right.
  induction b generalizing m found a with
  | nil => exact found_orOutcome hm hc hfound (searchBefore_nil m found a ▸ h)
  | cons x b ih =>
      have hdone : Allowed .done ⟨x :: b, a⟩ (some []) := fun t ht => (Option.some.inj ht).symm
      have hregex := regex_step (Cut.gap ⟨x :: b, a⟩) m (some [])
      have hmarks := justified_step hm hdone
      rw [searchBefore_cons] at h
      rw [← hregex]
      refine ih (a := x :: a) ?_ ?_ ?_ h
      · intro y a' ha
        cases ha
        exact hmarks
      · simpa using hc
      · rw [hregex]
        exact fun t ht => found_orOutcome hm hc hfound ht

end Marked

/-- What the search finds is the trace of a match. -/
theorem Regex.found_of_search {r : Regex} {text : Text} {t : Trace} (h : r.search text = some t) :
    r.Found text t := by
  -- At the end of the text no mark is looked at.
  have hm : (Marked.ofRegex 0 r).1.Ready .done ⟨text.reverse, []⟩ := by
    intro x a ha
    simp at ha
  have hnone : ∀ t, (none : Option Trace) = some t → (Marked.ofRegex 0 r).1.regex.Found text t := by
    intro t ht
    cases ht
  have hfound := Marked.found_of_searchBefore hm (by simp) hnone (t := t)
  rw [Marked.regex_ofRegex] at hfound
  exact hfound (by simpa [Regex.search] using h)

end PathTemplate
