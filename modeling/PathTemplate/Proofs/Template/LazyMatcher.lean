import PathTemplate.Template.LazyMatcher
import Mathlib.Data.List.Induction

/-!
# LazyMatcher — what is kept does not show

A lazy matcher is compared with a plain one, which keeps nothing and works out every answer anew.

- `Matcher.reply`                : the reply to a request, worked out anew
- `Matcher.failsAlike_answer`    : no question is answered while there is no match
- `LazyMatcher.Consistent`       : what is kept is what the last match binds
- `LazyMatcher.Consistent.ask`   : every request leaves a consistent matcher
- `LazyMatcher.Consistent.reply_eq` : a consistent matcher replies as the plain one
- `LazyMatcher.matcher_after`    : only the last request to match counts
- `LazyMatcher.replies_since_lastMatch` : so no reply depends on the requests before that one
-/

namespace PathTemplate

/-! ## Replies worked out anew -/

namespace Matcher

open LazyMatcher (Question Reply Request)

variable {m : Matcher} {path : Text}

def answer (m : Matcher) : Question → Except TemplateError Reply
  | .isExact => m.isExact.map .flag
  | .tail decode => (m.tail decode).map .text
  | .head decode => (m.head decode).map .text
  | .allValues decode => (m.allValues decode).map .values
  | .values name decode => (m.values name decode).map .texts
  | .value name decode => (m.value name decode).map .firstText
  | .spannedSegments segments offset count =>
      (m.spannedSegments segments offset count).map .spans

def reply (m : Matcher) : Request → Except TemplateError Reply × Matcher
  | .run path => (.ok (.flag (m.run path).value.1), (m.run path).value.2)
  | .matchPath path decode =>
      (.ok (.matched (m.matchPath path decode).value.1), (m.matchPath path decode).value.2)
  | .template => (.ok (.template m.template), m)
  | .question q => (m.answer q, m)

theorem matched_eq_error_iff {e : TemplateError} :
    m.matched = .error e ↔ e = .unmatched ∧ m.trace = none := by
  rw [matched]
  cases m.trace with
  | none => simp [eq_comm]
  | some trace => simp

/-- The matcher after a match knows whether it succeeded. -/
theorem trace_run_eq_none_iff :
    (m.run path).value.2.trace = none ↔ (m.run path).value.1 = false := by
  simp [run]

/-- A match forgets the one before. -/
theorem run_snd (m : Matcher) (path : Text) :
    (m.run path).value.2 = (m.template.matcher.run path).value.2 :=
  rfl

/-- The values of a match are read off what it binds. -/
theorem matchPath_eq (m : Matcher) (path : Text) (decode : Bool) :
    (m.matchPath path decode).value.1 =
      (m.run path).value.2.bindings.toOption.map fun b => LazyMatcher.allValuesOf b decode := by
  rw [matchPath, Logged.value_bind, Logged.value_pure, allValues]
  change Except.toOption ((m.run path).value.2.bindings >>= _) = _
  cases (m.run path).value.2.bindings with
  | error e => rfl
  | ok b => rfl

/-! ## Questions without a match -/

section FailsAlike

variable {α β : Type} {x : Except TemplateError α} {f : α → Except TemplateError β}

/-- A result fails exactly while there is no match. -/
def FailsAlike (m : Matcher) (x : Except TemplateError α) : Prop :=
  ∀ e, x = .error e ↔ m.matched = .error e

theorem failsAlike_matched (m : Matcher) : m.FailsAlike m.matched := fun _ => Iff.rfl

theorem FailsAlike.bind (hx : m.FailsAlike x)
    (hf : ∀ a e, f a = .error e → m.matched = .error e) : m.FailsAlike (x >>= f) := by
  intro e
  rw [← hx e]
  cases x with
  | error e' => simp [Bind.bind, Except.bind]
  | ok a =>
      constructor
      · intro h
        exact (hx e).mpr (hf a e h)
      · intro h
        cases h

theorem FailsAlike.read (hx : m.FailsAlike x) (g : α → β) :
    m.FailsAlike (x >>= fun a => .ok (g a)) := by
  apply hx.bind
  intro a e h
  cases h

theorem FailsAlike.map (hx : m.FailsAlike x) (g : α → β) : m.FailsAlike (x.map g) := by
  have hread := hx.read g
  cases x with
  | error e => exact hread
  | ok a => exact hread

end FailsAlike

theorem failsAlike_groupText (m : Matcher) (k : Nat) : m.FailsAlike (m.groupText k) :=
  m.failsAlike_matched.read _

theorem failsAlike_tail (m : Matcher) (decode : Bool) : m.FailsAlike (m.tail decode) :=
  (m.failsAlike_groupText _).read _

theorem failsAlike_head (m : Matcher) (decode : Bool) : m.FailsAlike (m.head decode) := by
  apply (m.failsAlike_groupText _).bind
  intro h e
  exact ((m.failsAlike_tail false).read _ e).mp

theorem failsAlike_bindings (m : Matcher) : m.FailsAlike m.bindings :=
  m.failsAlike_matched.read _

theorem failsAlike_values (m : Matcher) (name : Text) (decode : Bool) :
    m.FailsAlike (m.values name decode) :=
  m.failsAlike_bindings.read _

/-- All questions fail alike. -/
theorem failsAlike_answer (m : Matcher) (q : Question) : m.FailsAlike (m.answer q) := by
  cases q with
  | isExact => exact ((m.failsAlike_tail false).read _).map _
  | tail decode => exact (m.failsAlike_tail decode).map _
  | head decode => exact (m.failsAlike_head decode).map _
  | allValues decode => exact (m.failsAlike_bindings.read _).map _
  | values name decode => exact (m.failsAlike_values name decode).map _
  | value name decode => exact ((m.failsAlike_values name decode).read _).map _
  | spannedSegments segments offset count => exact (m.failsAlike_bindings.read _).map _

end Matcher

namespace LazyMatcher

variable {m : LazyMatcher} {r : Request} {rs : List Request} {path : Text}

/-! ## Consistency -/

/-- What is kept is what the last match binds. -/
def Consistent (m : LazyMatcher) : Prop := ∀ b ∈ m.kept, m.matcher.bindings = .ok b

theorem consistent_of_kept_eq_none (h : m.kept = none) : m.Consistent := by
  intro b hb
  rw [h] at hb
  cases hb

theorem consistent_lazyMatcher (t : Template) : t.lazyMatcher.Consistent :=
  consistent_of_kept_eq_none rfl

theorem consistent_run (m : LazyMatcher) (path : Text) : (m.run path).value.2.Consistent :=
  consistent_of_kept_eq_none rfl

@[simp] theorem bindings_matcher : m.bindings.2.matcher = m.matcher := by
  rw [bindings]
  split
  · rfl
  · split <;> rfl

theorem Consistent.bindings_eq (h : m.Consistent) : m.bindings.1 = m.matcher.bindings := by
  rw [bindings, Matcher.bindings]
  cases hmatched : m.matcher.matched with
  | error e => rfl
  | ok trace =>
      cases hkept : m.kept with
      | none => rfl
      | some b =>
          have hb := h b hkept
          rw [Matcher.bindings, hmatched] at hb
          exact hb.symm

theorem Consistent.bindings (h : m.Consistent) : m.bindings.2.Consistent := by
  intro b hb
  rw [LazyMatcher.bindings] at hb ⊢
  cases hmatched : m.matcher.matched with
  | error e =>
      simp only [hmatched] at hb ⊢
      exact h b hb
  | ok trace =>
      cases hkept : m.kept with
      | none =>
          simp only [hmatched, hkept, Option.mem_some_iff] at hb ⊢
          rw [Matcher.bindings, hmatched, ← hb]
          rfl
      | some kept =>
          simp only [hmatched, hkept] at hb ⊢
          exact h b (hkept ▸ hb)

/-! ## One request -/

/-- A question changes at most what is kept. -/
theorem answer_snd (m : LazyMatcher) (q : Question) :
    (m.answer q).2 = m ∨ (m.answer q).2 = m.bindings.2 := by
  cases q with
  | isExact | tail decode | head decode => exact .inl rfl
  | allValues decode | values name decode | value name decode => exact .inr rfl
  | spannedSegments segments offset count => exact .inr rfl

theorem Consistent.answer_eq (h : m.Consistent) (q : Question) :
    (m.answer q).1 = m.matcher.answer q := by
  cases q with
  | isExact | tail decode | head decode => rfl
  | allValues decode =>
      rw [answer, read, h.bindings_eq, Matcher.answer, Matcher.allValues]
      cases m.matcher.bindings <;> rfl
  | values name decode =>
      rw [answer, read, h.bindings_eq, Matcher.answer, Matcher.values]
      cases m.matcher.bindings <;> rfl
  | value name decode =>
      rw [answer, read, h.bindings_eq, Matcher.answer, Matcher.value, Matcher.values]
      cases m.matcher.bindings <;> rfl
  | spannedSegments segments offset count =>
      rw [answer, read, h.bindings_eq, Matcher.answer, Matcher.spannedSegments]
      cases m.matcher.bindings <;> rfl

theorem ask_question (m : LazyMatcher) (q : Question) : (m.ask (.question q)).value = m.answer q :=
  rfl

/-- A path that does not match binds nothing. -/
theorem ask_matchPath_of_unmatched {decode : Bool} (h : (m.run path).value.1 = false) :
    (m.ask (.matchPath path decode)).value = (.ok (.matched none), (m.run path).value.2) := by
  simp [ask, h]

theorem ask_matchPath_of_matched {decode : Bool} (h : (m.run path).value.1 = true) :
    (m.ask (.matchPath path decode)).value =
      (.ok (.matched ((m.run path).value.2.bindings.1.toOption.map fun b => allValuesOf b decode)),
        (m.run path).value.2.bindings.2) := by
  simp [ask, h]

/-- The two matchers stay in step. -/
theorem ask_matcher (m : LazyMatcher) (r : Request) :
    (m.ask r).value.2.matcher = (m.matcher.reply r).2 := by
  cases r with
  | run path => rfl
  | matchPath path decode =>
      cases hrun : (m.run path).value.1 with
      | false =>
          rw [ask_matchPath_of_unmatched hrun]
          rfl
      | true =>
          rw [ask_matchPath_of_matched hrun]
          exact bindings_matcher
  | template => rfl
  | question q =>
      rw [ask_question]
      rcases m.answer_snd q with h | h
      · rw [h]
        rfl
      · rw [h]
        exact bindings_matcher

/-- Every request leaves a consistent matcher. -/
theorem Consistent.ask (h : m.Consistent) (r : Request) : (m.ask r).value.2.Consistent := by
  cases r with
  | run path => exact consistent_run m path
  | matchPath path decode =>
      cases hrun : (m.run path).value.1 with
      | false =>
          rw [ask_matchPath_of_unmatched hrun]
          exact consistent_run m path
      | true =>
          rw [ask_matchPath_of_matched hrun]
          exact (consistent_run m path).bindings
  | template => exact h
  | question q =>
      rw [ask_question]
      rcases m.answer_snd q with hsnd | hsnd
      · rwa [hsnd]
      · rw [hsnd]
        exact h.bindings

/-- A consistent matcher replies as the plain one. -/
theorem Consistent.reply_eq (h : m.Consistent) (r : Request) :
    (m.ask r).value.1 = (m.matcher.reply r).1 := by
  cases r with
  | run path => rfl
  | matchPath path decode =>
      have hbindings : (m.run path).value.2.bindings.1 = (m.matcher.run path).value.2.bindings :=
        (consistent_run m path).bindings_eq
      rw [Matcher.reply, Matcher.matchPath_eq]
      cases hrun : (m.run path).value.1 with
      | false =>
          have hmatched : (m.matcher.run path).value.2.matched = .error .unmatched :=
            Matcher.matched_eq_error_iff.mpr ⟨rfl, Matcher.trace_run_eq_none_iff.mpr hrun⟩
          have hunbound := (Matcher.failsAlike_bindings _ _).mpr hmatched
          rw [ask_matchPath_of_unmatched hrun, hunbound]
          rfl
      | true => rw [ask_matchPath_of_matched hrun, hbindings]
  | template => rfl
  | question q => exact h.answer_eq q

/-! ## Requests one after the other -/

def Request.path? : Request → Option Text
  | .run path => some path
  | .matchPath path _ => some path
  | .template => none
  | .question _ => none

def lastMatch? (rs : List Request) : Option Request :=
  (rs.filter fun r => r.path?.isSome).getLast?

def lastPath? (rs : List Request) : Option Text := (lastMatch? rs).bind Request.path?

theorem lastMatch?_append_singleton (rs : List Request) (r : Request) :
    lastMatch? (rs ++ [r]) = if r.path?.isSome then some r else lastMatch? rs := by
  rw [lastMatch?, List.filter_append, lastMatch?]
  by_cases h : r.path?.isSome
  · simp [h]
  · simp [h]

theorem lastMatch?_lastMatch? (rs : List Request) :
    lastMatch? (lastMatch? rs).toList = lastMatch? rs := by
  induction rs using List.reverseRecOn with
  | nil => rfl
  | append_singleton rs r ih =>
      rw [lastMatch?_append_singleton]
      split
      · rename_i h
        simp [lastMatch?, h]
      · exact ih

theorem after_append_singleton (m : LazyMatcher) (rs : List Request) (r : Request) :
    m.after (rs ++ [r]) = ((m.after rs).ask r).value.2 := by
  simp [after]

theorem Consistent.after (h : m.Consistent) (rs : List Request) : (m.after rs).Consistent := by
  induction rs using List.reverseRecOn with
  | nil => exact h
  | append_singleton rs r ih =>
      rw [after_append_singleton]
      exact ih.ask r

/-- The reply to a request is that of the matcher after the requests before it. -/
theorem getElem?_replies (m : LazyMatcher) (before after : List Request) (r : Request) :
    (m.replies (before ++ r :: after))[before.length]? =
      some ((m.after before).ask r).value.1 := by
  induction before generalizing m with
  | nil => rfl
  | cons r' before ih => exact ih (m.ask r').value.2

/-- The matcher knows no path but the last one it matched. -/
theorem matcher_after (t : Template) (rs : List Request) :
    (t.lazyMatcher.after rs).matcher =
      ((lastPath? rs).map fun path => (t.matcher.run path).value.2).getD t.matcher := by
  -- The last request either matches a path anew, or leaves the plain matcher alone.
  induction rs using List.reverseRecOn with
  | nil => rfl
  | append_singleton rs r ih =>
      have htemplate : (t.lazyMatcher.after rs).matcher.template = t := by
        rw [ih]
        cases lastPath? rs <;> rfl
      rw [after_append_singleton, ask_matcher, lastPath?, lastMatch?_append_singleton]
      cases r with
      | run path | matchPath path decode =>
          change ((t.lazyMatcher.after rs).matcher.run path).value.2 = (t.matcher.run path).value.2
          rw [Matcher.run_snd, htemplate]
      | template | question q => exact ih

/-- A matcher's history does not show: the reply to a request is the one given by a matcher that
has only been asked the last request before it to match a path.  A question fails exactly if there
is no such request or its path does not match. -/
theorem replies_since_lastMatch (t : Template) (before after : List Request) :
    (∀ r, (t.lazyMatcher.replies (before ++ r :: after))[before.length]? =
      some ((t.lazyMatcher.after (lastMatch? before).toList).ask r).value.1) ∧
    ∀ q e, (t.lazyMatcher.replies (before ++ .question q :: after))[before.length]? =
        some (.error e) ↔
      e = .unmatched ∧ ∀ path ∈ lastPath? before, (t.matcher.run path).value.1 = false := by
  have hreply : ∀ rs r, ((t.lazyMatcher.after rs).ask r).value.1 =
      ((t.lazyMatcher.after rs).matcher.reply r).1 := by
    intro rs r
    exact ((consistent_lazyMatcher t).after rs).reply_eq r
  constructor
  · intro r
    -- Both plain matchers have matched the same path last, and know nothing else.
    have hlast : lastPath? (lastMatch? before).toList = lastPath? before := by
      rw [lastPath?, lastMatch?_lastMatch?, lastPath?]
    rw [getElem?_replies, hreply, hreply, matcher_after, matcher_after, hlast]
  · intro q e
    -- Without a last path the matcher is new, and a new matcher has no match either.
    rw [getElem?_replies, hreply, Option.some_inj, Matcher.reply, Matcher.failsAlike_answer,
      Matcher.matched_eq_error_iff, matcher_after]
    apply and_congr_right
    intro he
    cases lastPath? before with
    | none => simp [Template.matcher]
    | some path => simp [Matcher.trace_run_eq_none_iff]

end LazyMatcher
end PathTemplate
