import PathTemplate.Proofs.Regex.Soundness

/-!
# Preference — which match the search finds

A match is preferred by the choices on its way: the first of two alternatives, another round of a
greedy repetition, the end of one that is not.  `Regex.prefer` tries the choices in this order and
goes back where the rest fails.

- `Regex.Tame`          : no repetition has a body that can match the empty text
- `Regex.prefer`        : the first outcome in order of preference, by going back
- `Regex.search_eq`     : the search of a tame expression finds what going back would find
- `Regex.isSome_search` : the search of a tame expression finds a match if there is one
-/

namespace PathTemplate

open Marked (orOutcome afterRound)

/-- What follows at a gap: the trace of the rest, if the rest can succeed. -/
abbrev Continuation := Cut → Option Trace

namespace Regex

/-! ## Going back -/

/-- The rounds of a repetition.  A round that takes no character is the last one. -/
def rounds (body : Continuation → Continuation) (greedy : Bool) (k : Continuation) (c : Cut) :
    Option Trace :=
  body (fun d => afterRound greedy
    (if _h : d.after.length < c.after.length then rounds body greedy k d else none) (k d)) c
termination_by c.after.length

/-- The preferred outcome of an expression at a gap, given what follows. -/
def prefer : Regex → Continuation → Continuation
  | empty, k, c => k c
  | chars cls, k, c =>
      match c.after with
      | [] => none
      | x :: a => if cls.has x then k ⟨x :: c.before, a⟩ else none
  | look l, k, c => if l.holds c.gap then k c else none
  | group i r, k, c =>
      (r.prefer (fun d => (k d).map (.closes i d.index :: ·)) c).map (.opens i c.index :: ·)
  | seq a b, k, c => a.prefer (b.prefer k) c
  | alt a b, k, c => orOutcome (a.prefer k c) (b.prefer k c)
  | more greedy r, k, c => rounds r.prefer greedy k c

/-- No repetition has a body that can match the empty text. -/
def Tame : Regex → Prop
  | empty | chars _ | look _ => True
  | group _ r => r.Tame
  | seq a b | alt a b => a.Tame ∧ b.Tame
  | more _ r => r.nullable = false ∧ r.Tame

variable {r : Regex} {k k' : Continuation} {c d : Cut} {t : Trace}

/-- What follows matters only at later gaps, and at the same one if the expression is nullable. -/
theorem prefer_congr (hlater : ∀ d, d.after.length < c.after.length → k d = k' d)
    (hhere : r.nullable = true → k c = k' c) : r.prefer k c = r.prefer k' c := by
  induction r generalizing c k k' with
  | empty => exact hhere rfl
  | chars cls =>
      rcases c with ⟨b, _ | ⟨x, a⟩⟩
      · rfl
      · simp only [prefer, hlater ⟨x :: b, a⟩ (Nat.lt_succ_self _)]
  | look l => simp only [prefer, hhere rfl]
  | group i r ih =>
      have hbody : r.prefer (fun d => (k d).map (.closes i d.index :: ·)) c =
          r.prefer (fun d => (k' d).map (.closes i d.index :: ·)) c :=
        ih (fun d hd => by rw [hlater d hd]) (fun hn => by rw [hhere hn])
      simp only [prefer, hbody]
  -- The second part stands at a later gap, or at this one if the first is nullable.
  | seq a b iha ihb =>
      refine iha (fun d hd => ?_) (fun ha => ?_)
      · exact ihb (fun e he => hlater e (Nat.lt_trans he hd)) fun _ => hlater d hd
      · exact ihb hlater fun hb => hhere (by simp [nullable, ha, hb])
  | alt a b iha ihb =>
      have ha := iha hlater fun hn => hhere (by simp [nullable, hn])
      have hb := ihb hlater fun hn => hhere (by simp [nullable, hn])
      simp only [prefer, ha, hb]
  | more greedy r ih =>
      -- The rounds start at later and later gaps.
      obtain ⟨n, hn⟩ : ∃ n, c.after.length = n := ⟨_, rfl⟩
      induction n using Nat.strongRecOn generalizing c with
      | ind n ihn =>
          simp only [prefer]
          rw [rounds, rounds]
          refine ih (fun d hd => ?_) (fun hr => ?_)
          · have hd' : d.after.length < n := hn ▸ hd
            have hround : rounds r.prefer greedy k d = rounds r.prefer greedy k' d :=
              ihn _ hd' (fun e he => hlater e (Nat.lt_trans he hd)) (fun _ => hlater d hd) rfl
            simp only [hround, hlater d hd]
          · simp [hhere hr]

/-- A repetition whose body takes a character: after each round it may go round again. -/
theorem prefer_more {greedy : Bool} (hr : r.nullable = false) :
    (more greedy r).prefer k c =
      r.prefer (fun d => afterRound greedy ((more greedy r).prefer k d) (k d)) c := by
  simp only [prefer]
  rw [rounds]
  refine prefer_congr (fun d hd => ?_) (fun hn => ?_)
  · -- A round that ends later may be followed by another.
    simp only [hd, dite_true]
  · rw [hr] at hn
    cases hn

theorem isSome_afterRound {greedy : Bool} {again goOn : Option Trace}
    (h : again.isSome = true ∨ goOn.isSome = true) :
    (afterRound greedy again goOn).isSome = true := by
  cases greedy <;> cases again <;> cases goOn <;> simp_all [afterRound, orOutcome]

/-- Going back finds an outcome if there is a match after which the rest succeeds. -/
theorem Matches.isSome_prefer (h : r.Matches c t d) (hr : r.Tame) (hk : (k d).isSome = true) :
    (r.prefer k c).isSome = true := by
  -- Each branch that the match takes succeeds; those that are preferred to it may succeed too.
  induction h generalizing k with
  | empty c => exact hk
  | chars b a hx => simpa [prefer, hx] using hk
  | look hl => simpa [prefer, hl] using hk
  | group i h ih =>
      simp only [prefer, Option.isSome_map]
      exact ih hr (by simpa using hk)
  | seq h h' ih ih' => exact ih hr.1 (ih' hr.2 hk)
  | first b h ih =>
      have ha := ih hr.1 hk
      revert ha
      simp only [prefer]
      cases prefer _ k _ <;> simp [orOutcome]
  | @second a b c d t h ih =>
      have hb := ih hr.2 hk
      simp only [prefer]
      cases a.prefer k c with
      | none => exact hb
      | some s => rfl
  | once greedy h ih =>
      rw [prefer_more hr.1]
      exact ih hr.2 (isSome_afterRound (.inr hk))
  | again h h' ih ih' =>
      rw [prefer_more hr.1]
      exact ih hr.2 (isSome_afterRound (.inl (ih' hr hk)))

end Regex

namespace Marked

/-! ## Marks that hold the preferred outcomes -/

/-- No repetition has a body that can match the empty text, and the marks at repetitions say so. -/
def Tame : Marked → Prop
  | empty | chars _ _ | look _ => True
  | group _ m => m.Tame
  | seq a b | alt _ a b => a.Tame ∧ b.Tame
  | more _ _ tame m => tame = true ∧ m.regex.nullable = false ∧ m.Tame

theorem tame_ofRegex {r : Regex} (hr : r.Tame) (n : Nat) : (ofRegex n r).1.Tame := by
  induction r generalizing n with
  | empty | chars | look => trivial
  | group k r ih => exact ih hr n
  | seq a b iha ihb => exact ⟨iha hr.1 n, ihb hr.2 _⟩
  | alt a b iha ihb => exact ⟨iha hr.1 n, ihb hr.2 _⟩
  | more greedy r ih =>
      refine ⟨by simp [hr.1], ?_, ih hr.2 n⟩
      rw [regex_ofRegex]
      exact hr.1

theorem tame_step {m : Marked} (hm : m.Tame) (g : Gap) (k : Option Trace) :
    (step g m k).2.Tame := by
  induction m generalizing k with
  | empty | chars | look => trivial
  | group i m ih => exact ih hm _
  | seq a b iha ihb => exact ⟨iha hm.1 _, ihb hm.2 _⟩
  | alt id a b iha ihb => exact ⟨iha hm.1 _, ihb hm.2 _⟩
  | more id greedy tame m ih =>
      rcases hm with ⟨rfl, hnull, hm⟩
      refine ⟨rfl, ?_, ih hm _⟩
      rw [regex_step]
      exact hnull

/-- Each mark, for the gap `c`, is the preferred outcome of the rest from there on. -/
def Exact : Marked → Continuation → Cut → Prop
  | empty, _, _ => True
  | chars _ mark, k, c => mark = k c
  | look _, _, _ => True
  | group i m, k, c => m.Exact (fun d => (k d).map (.closes i d.index :: ·)) c
  | seq a b, k, c => a.Exact (b.regex.prefer k) c ∧ b.Exact k c
  | alt _ a b, k, c => a.Exact k c ∧ b.Exact k c
  | more _ greedy _ m, k, c =>
      m.Exact (fun d => afterRound greedy ((Regex.more greedy m.regex).prefer k d) (k d)) c

/-- The marks are exact for the gap after the next character, if there is one. -/
def ExactNext (m : Marked) (k : Continuation) (c : Cut) : Prop :=
  ∀ x a, c.after = x :: a → m.Exact k ⟨x :: c.before, a⟩

variable {m : Marked} {k k' : Continuation} {c : Cut}

theorem Exact.congr (h : m.Exact k c) (hk : ∀ d, d.after.length ≤ c.after.length → k d = k' d) :
    m.Exact k' c := by
  -- What follows a part is itself preferred, so both agreements are carried through.
  have hprefer : ∀ r : Regex, ∀ d : Cut, d.after.length ≤ c.after.length →
      r.prefer k d = r.prefer k' d := by
    intro r d hd
    refine Regex.prefer_congr (fun e he => hk e (by omega)) fun _ => hk d hd
  induction m generalizing k k' with
  | empty | look => trivial
  | chars cls mark => exact h.trans (hk c (Nat.le_refl _))
  | group i m ih =>
      have hk' : ∀ d, d.after.length ≤ c.after.length →
          (k d).map (.closes i d.index :: ·) = (k' d).map (.closes i d.index :: ·) :=
        fun d hd => by rw [hk d hd]
      refine ih h hk' fun r d hd => ?_
      exact Regex.prefer_congr (fun e he => hk' e (by omega)) fun _ => hk' d hd
  | seq a b iha ihb =>
      refine ⟨iha h.1 (hprefer _) fun r d hd => ?_, ihb h.2 hk hprefer⟩
      exact Regex.prefer_congr (fun e he => hprefer _ e (by omega)) fun _ => hprefer _ d hd
  | alt id a b iha ihb => exact ⟨iha h.1 hk hprefer, ihb h.2 hk hprefer⟩
  | more id greedy tame m ih =>
      have hk' : ∀ d, d.after.length ≤ c.after.length →
          afterRound greedy ((Regex.more greedy m.regex).prefer k d) (k d) =
            afterRound greedy ((Regex.more greedy m.regex).prefer k' d) (k' d) :=
        fun d hd => by rw [hprefer _ d hd, hk d hd]
      refine ih h hk' fun r d hd => ?_
      exact Regex.prefer_congr (fun e he => hk' e (by omega)) fun _ => hk' d hd

theorem ExactNext.congr (h : m.ExactNext k c)
    (hk : ∀ d, d.after.length < c.after.length → k d = k' d) : m.ExactNext k' c := by
  intro x a ha
  refine (h x a ha).congr fun d hd => hk d ?_
  rw [ha, List.length_cons]
  exact Nat.lt_succ_of_le hd

/-- With exact marks after the next character the outcome is the preferred one. -/
theorem outcome_eq (h : m.ExactNext k c) (hm : m.Tame) :
    outcome c.gap m (k c) = m.regex.prefer k c := by
  induction m generalizing k with
  | empty | look => rfl
  | chars cls mark =>
      rcases c with ⟨b, _ | ⟨x, a⟩⟩
      · rfl
      · have hmark : mark = k ⟨x :: b, a⟩ := h x a rfl
        by_cases hx : cls.has x = true
        · simp [outcome, regex, Regex.prefer, Cut.gap, hx, hmark]
        · simp [outcome, regex, Regex.prefer, Cut.gap, hx]
  | group i m ih =>
      have hbody := ih (k := fun d => (k d).map (.closes i d.index :: ·)) h hm
      simp only [outcome, regex, Regex.prefer, ← hbody]
      rfl
  | seq a b iha ihb =>
      have hb := ihb (fun x a ha => (h x a ha).2) hm.2
      have ha := iha (k := b.regex.prefer k) (fun x a ha => (h x a ha).1) hm.1
      simp only [outcome, regex, Regex.prefer, ← ha, hb]
  | alt id a b iha ihb =>
      have ha := iha (fun x a ha => (h x a ha).1) hm.1
      have hb := ihb (fun x a ha => (h x a ha).2) hm.2
      simp only [outcome, regex, Regex.prefer, ha, hb]
  | more id greedy tame m ih =>
      rcases hm with ⟨rfl, hnull, hm⟩
      -- The body takes a character, so what follows here does not matter to it.
      let round : Continuation := fun d =>
        afterRound greedy ((Regex.more greedy m.regex).prefer k d) (k d)
      let later : Continuation := fun d => if d.after.length < c.after.length then round d else none
      have hlater : ∀ d, d.after.length < c.after.length → round d = later d := by
        intro d hd
        simp [later, hd]
      have hbody := ih (k := later) (ExactNext.congr h hlater) hm
      have hhere : later c = none := by simp [later]
      rw [hhere] at hbody
      rw [outcome, hbody, regex, Regex.prefer_more hnull]
      refine Regex.prefer_congr (fun d hd => (hlater d hd).symm) fun hn => ?_
      rw [hnull] at hn
      cases hn

/-- A step makes the marks exact for the gap before. -/
theorem exact_step (h : m.ExactNext k c) (hm : m.Tame) : (step c.gap m (k c)).2.Exact k c := by
  induction m generalizing k with
  | empty | look => trivial
  | chars cls mark => rfl
  | group i m ih => exact ih (k := fun d => (k d).map (.closes i d.index :: ·)) h hm
  | seq a b iha ihb =>
      have hb : outcome c.gap b (k c) = b.regex.prefer k c :=
        outcome_eq (fun x a ha => (h x a ha).2) hm.2
      simp only [step, Exact, regex_step, step_fst, hb]
      exact ⟨iha (k := b.regex.prefer k) (fun x a ha => (h x a ha).1) hm.1,
        ihb (fun x a ha => (h x a ha).2) hm.2⟩
  | alt id a b iha ihb =>
      exact ⟨iha (fun x a ha => (h x a ha).1) hm.1, ihb (fun x a ha => (h x a ha).2) hm.2⟩
  | more id greedy tame m ih =>
      -- The next round begins at this gap: its outcome is that of the whole repetition.
      have hagain := outcome_eq (m := .more id greedy tame m) h hm
      rcases hm with ⟨rfl, hnull, hm⟩
      rw [outcome, regex] at hagain
      simp only [step, Exact, regex_step, hagain]
      exact ih (k := fun d => afterRound greedy ((Regex.more greedy m.regex).prefer k d) (k d)) h hm

end Marked

/-! ## The search -/

/-- The gaps of a text up to a given one, from left to right. -/
def Cut.upTo : (before after : Text) → List Cut
  | [], a => [⟨[], a⟩]
  | x :: b, a => Cut.upTo b (x :: a) ++ [⟨x :: b, a⟩]

theorem Cut.mem_upTo {c : Cut} {b a : Text} (h : c.whole = b.reverse ++ a)
    (hle : c.before.length ≤ b.length) : c ∈ Cut.upTo b a := by
  rcases c with ⟨b', a'⟩
  induction b generalizing a with
  | nil =>
      obtain rfl : b' = [] := List.eq_nil_of_length_eq_zero (Nat.le_zero.mp hle)
      obtain rfl : a' = a := by simpa [Cut.whole] using h
      exact List.mem_singleton.mpr rfl
  | cons x b ih =>
      refine List.mem_append.mpr ?_
      -- The gap is further left, or it is this one, since the whole text is the same.
      by_cases hlen : b'.length ≤ b.length
      · exact .inl (ih (by simpa using h) hlen)
      · have hb : b'.reverse.length = (x :: b).reverse.length := by
          simp only [List.length_reverse, List.length_cons] at hle ⊢
          omega
        rcases List.append_inj h hb with ⟨hb, rfl⟩
        obtain rfl : b' = x :: b := List.reverse_inj.mp hb
        exact .inr (List.mem_singleton.mpr rfl)

def Continuation.done : Continuation := fun _ => some []

theorem Marked.orOutcome_findSome? (f : Cut → Option Trace) (cs : List Cut) (c : Cut)
    (found : Option Trace) :
    orOutcome (cs.findSome? f) (orOutcome (f c) found) =
      orOutcome ((cs ++ [c]).findSome? f) found := by
  rw [List.findSome?_append]
  cases cs.findSome? f with
  | some t => rfl
  | none =>
      simp only [List.findSome?_singleton]
      cases f c <;> rfl

theorem Marked.searchBefore_eq {m : Marked} {b a : Text} (h : m.ExactNext .done ⟨b, a⟩)
    (hm : m.Tame) (found : Option Trace) :
    m.searchBefore found a.head? b.length b =
      orOutcome ((Cut.upTo b a).findSome? (m.regex.prefer .done)) found := by
  -- The gaps left of this one are tried after it, but what they find is preferred.
  induction b generalizing m a found with
  | nil =>
      have hhere : outcome (Cut.gap ⟨[], a⟩) m (some []) = m.regex.prefer .done ⟨[], a⟩ :=
        outcome_eq h hm
      simp only [Cut.upTo, List.findSome?_singleton]
      rw [← hhere]
      exact searchBefore_nil m found a
  | cons x b ih =>
      have hhere : outcome (Cut.gap ⟨x :: b, a⟩) m (some []) =
          m.regex.prefer .done ⟨x :: b, a⟩ := outcome_eq h hm
      have hnext : (step (Cut.gap ⟨x :: b, a⟩) m (some [])).2.ExactNext .done ⟨b, x :: a⟩ := by
        intro y a' ha
        cases ha
        exact exact_step h hm
      have hrest := ih hnext (tame_step hm _ _) (orOutcome (m.regex.prefer .done ⟨x :: b, a⟩) found)
      rw [regex_step] at hrest
      rw [searchBefore_cons, hhere, Cut.upTo, ← orOutcome_findSome?]
      exact hrest

namespace Regex

variable {r : Regex}

/-- The search of a tame expression finds, of the leftmost gap at which going back succeeds, its
outcome. -/
theorem search_eq (hr : r.Tame) (text : Text) :
    r.search text = (Cut.upTo text.reverse []).findSome? (r.prefer .done) := by
  have hnext : (Marked.ofRegex 0 r).1.ExactNext .done ⟨text.reverse, []⟩ := by
    intro x a ha
    simp at ha
  have hsearch : (Marked.ofRegex 0 r).1.searchBefore none none _ text.reverse = _ :=
    Marked.searchBefore_eq hnext (Marked.tame_ofRegex hr 0) none
  rw [Marked.regex_ofRegex, List.length_reverse] at hsearch
  rw [search]
  refine hsearch.trans ?_
  cases (Cut.upTo text.reverse []).findSome? (r.prefer .done) <;> rfl

/-- The search of a tame expression finds a match if there is one. -/
theorem isSome_search (hr : r.Tame) {c d : Cut} {t : Trace} (h : r.Matches c t d) :
    (r.search c.whole).isSome = true := by
  rw [search_eq hr, List.findSome?_isSome_iff]
  refine ⟨c, Cut.mem_upTo (by simp) ?_, h.isSome_prefer hr rfl⟩
  simp [Cut.whole]

end Regex
end PathTemplate
