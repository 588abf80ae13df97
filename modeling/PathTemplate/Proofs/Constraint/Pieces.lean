import PathTemplate.Constraint
import PathTemplate.Proofs.Regex.ActionLocality

/-!
# Pieces — what stays and what changes when groups are made unrecorded

- `neutralizeFrom_plain`, `neutralizeFrom_escaped`, `neutralizeFrom_unclosed` : pieces that stay
- `neutralize_group`, `neutralize_named`, `neutralize_angled`, `neutralize_flags` : groups
- `neutralize_opening` : the opening of a class
- `neutralize_class`   : a class with no class in it
- `skip_neutralize`    : blanks and comments
-/

namespace PathTemplate
namespace Constraint

open RegexReader

variable {f : Flags} {t t₁ u v w : Text} {c : Char} {place : Place}

/-! ## Characters -/

theorem neutralize_cons (hc : c ≠ '\\' ∧ c ≠ '(' ∧ c ≠ '[') (t : Text) :
    neutralize (c :: t) = c :: neutralize t := by
  unfold neutralize
  rw [neutralizeFrom]
  all_goals simp_all

theorem neutralizeFrom_cons (hplace : place ≠ .inName) (hc : IsPlain c) (t : Text) :
    neutralizeFrom place (c :: t) = c :: neutralizeFrom place t := by
  simp only [IsPlain, List.mem_cons, List.not_mem_nil, or_false, not_or] at hc
  cases place with
  | inName => exact absurd rfl hplace
  | outside => exact neutralize_cons ⟨hc.1, hc.2.2.2, hc.2.1⟩ t
  | inBrackets =>
      rw [neutralizeFrom]
      all_goals simp_all

/-- Plain pieces stay. -/
theorem neutralizeFrom_plain (hplace : place ≠ .inName) (hw : Plain w) (t : Text) :
    neutralizeFrom place (w ++ t) = w ++ neutralizeFrom place t := by
  induction w with
  | nil => rfl
  | cons c w ih =>
      rcases List.forall_mem_cons.mp hw with ⟨hc, hw⟩
      rw [List.cons_append, neutralizeFrom_cons hplace hc, ih hw, List.cons_append]

theorem neutralize_plain (hw : Plain w) (t : Text) : neutralize (w ++ t) = w ++ neutralize t :=
  neutralizeFrom_plain (by decide) hw t

theorem neutralizeFrom_escaped (hplace : place ≠ .inName) (c : Char) (t : Text) :
    neutralizeFrom place ('\\' :: c :: t) = '\\' :: c :: neutralizeFrom place t := by
  cases place with
  | inName => exact absurd rfl hplace
  | outside => rfl
  | inBrackets => rfl

/-- What does not close a class stays within it. -/
theorem neutralizeFrom_unclosed (hw : Unclosed w) (t : Text) :
    neutralizeFrom .inBrackets (w ++ t) = w ++ neutralizeFrom .inBrackets t := by
  induction hw with
  | nil => rfl
  | cons hescape hclose _ ih =>
      rw [List.cons_append, neutralizeFrom, ih, List.cons_append]
      all_goals simp_all
  | escaped c _ ih =>
      rw [List.cons_append, List.cons_append, neutralizeFrom_escaped (by decide), ih]
      rfl

/-- The first character of a text stays. -/
theorem sameHead_neutralize (t : Text) : SameHead (neutralize t) t := by
  unfold SameHead neutralize neutralizeFrom
  split
  all_goals
    first
    | rfl
    | contradiction
    | (split <;> rfl)

/-! ## Blanks -/

/-- The text that stands behind blanks and comments is converted as it would be without them. -/
def KeepsBlanks (f : Flags) (t : Text) : Prop := f.skip (neutralize t) = neutralize (f.skip t)

instance (f : Flags) : DecidablePred (KeepsBlanks f) := fun _ =>
  inferInstanceAs (Decidable (_ = _))

theorem KeepsBlanks.of_plainComments (h : f.PlainComments t) : KeepsBlanks f t := by
  rcases f.skips_skip t with ⟨b, ht, hblank, hskip⟩
  have hplain : Plain b := hblank (ht ▸ h).of_append_left
  unfold KeepsBlanks
  conv_lhs => rw [ht, neutralize_plain hplain]
  exact hskip _ (sameHead_neutralize _)

theorem alike_neutralize (h : KeepsBlanks f t.tail) : f.Alike (neutralize t) t := by
  refine ⟨sameHead_neutralize t, fun c hc hhead => ?_⟩
  obtain ⟨s, rfl⟩ := List.head?_eq_some_iff.mp hhead
  have hall : ∀ c ∈ ['\x7b', '-'], c ≠ '\\' ∧ c ≠ '(' ∧ c ≠ '[' := by simp
  rw [neutralize_cons (hall c hc), List.tail_cons, List.tail_cons]
  exact h ▸ sameHead_neutralize _

/-! ## Groups -/

theorem neutralize_group (hu : u.head? ≠ some '?') :
    neutralize ('(' :: u) = '(' :: '?' :: ':' :: neutralize u := by
  have hne : ∀ r, u ≠ '?' :: r := by
    rintro r rfl
    exact hu rfl
  unfold neutralize
  rw [neutralizeFrom]
  · exact fun _ => hne _
  · exact fun _ _ => hne _
  · exact hne

theorem neutralizeFrom_name (hname : '>' ∉ w) (t : Text) :
    neutralizeFrom .inName (w ++ '>' :: t) = neutralize t := by
  induction w with
  | nil => rfl
  | cons c w ih =>
      have hc : c ≠ '>' := fun hc => hname (by simp [hc])
      rw [List.cons_append, neutralizeFrom, if_neg hc]
      exact ih fun hmem => hname (List.mem_cons_of_mem c hmem)

/-- A name is left out with its brackets. -/
theorem neutralize_named (hname : '>' ∉ w) (t : Text) :
    neutralize ('(' :: '?' :: 'P' :: '<' :: (w ++ '>' :: t)) =
      '(' :: '?' :: ':' :: neutralize t := by
  have hclosed : (w ++ '>' :: t).contains '>' = true := by simp
  have hrest := neutralizeFrom_name hname t
  unfold neutralize at hrest ⊢
  rw [neutralizeFrom, if_pos hclosed, hrest]

theorem neutralize_angled (hc : c ≠ '=' ∧ c ≠ '!') (hu : c :: u = w ++ '>' :: t)
    (hname : '>' ∉ w) :
    neutralize ('(' :: '?' :: '<' :: c :: u) = '(' :: '?' :: ':' :: neutralize t := by
  have hclosed : (c :: u).contains '>' = true := by simp [hu]
  have hrest := neutralizeFrom_name hname t
  rw [← hu] at hrest
  unfold neutralize at hrest ⊢
  rw [neutralizeFrom, if_pos ⟨hc.1, hc.2, hclosed⟩, hrest]

/-- Flags stay. -/
theorem neutralize_flags (hc : c ≠ 'P' ∧ c ≠ '<') (u : Text) :
    neutralize ('(' :: '?' :: c :: u) = '(' :: '?' :: neutralize (c :: u) := by
  unfold neutralize
  rw [neutralizeFrom]
  · rintro r heq
    exact hc.1 (List.cons.inj heq).1
  · rintro d r heq
    exact hc.2 (List.cons.inj heq).1

/-! ## Classes -/

theorem neutralize_bracket (hcomplement : t.head? ≠ some '^') (hclose : t.head? ≠ some ']') :
    neutralize ('[' :: t) = '[' :: neutralizeFrom .inBrackets t := by
  have hne {c : Char} (hc : t.head? ≠ some c) : ∀ r, t ≠ c :: r := by
    rintro r rfl
    exact hc rfl
  unfold neutralize
  rw [neutralizeFrom]
  · exact fun _ => hne hcomplement _
  · exact hne hcomplement
  · exact hne hclose

theorem neutralize_complement (hclose : t.head? ≠ some ']') :
    neutralize ('[' :: '^' :: t) = '[' :: '^' :: neutralizeFrom .inBrackets t := by
  unfold neutralize
  rw [neutralizeFrom]
  rintro r rfl
  exact hclose rfl

/-- No blanks stand between the opening of a class and its members. -/
def TightOpening (f : Flags) (t : Text) : Prop :=
  f.skip t = t ∧ (t.head? = some '^' → f.skip t.tail = t.tail)

instance (f : Flags) : DecidablePred (TightOpening f) := fun _ =>
  inferInstanceAs (Decidable (_ ∧ _))

/-- A class begins with a closing bracket that stands for itself, or else the opening goes no
further than its hyphens. -/
theorem openMembers_cases {o o' : OpenClass} (h : openMembers f o t = (o', t₁))
    (ho : o.count = 0) :
    (∃ b, t = ']' :: (b ++ t₁) ∧ (f.PlainComments b → Plain b)) ∨
      t.head? ≠ some ']' ∧ ∃ w, t = w ++ t₁ ∧ (f.PlainComments w → Plain w) := by
  unfold openMembers at h
  by_cases hclose : t.head? = some ']'
  · obtain ⟨r, rfl⟩ := List.head?_eq_some_iff.mp hclose
    have hhyphens : leadingHyphens f (']' :: r).length o (']' :: r) = (o, ']' :: r) := rfl
    rw [hhyphens] at h
    simp only [ho] at h
    cases h
    rcases f.skips_skip r with ⟨b, hr, hblank, _⟩
    exact .inl ⟨b, congrArg _ hr, hblank⟩
  · refine .inr ⟨hclose, ?_⟩
    rcases hhyphens : leadingHyphens f t.length o t with ⟨o₁, s⟩
    rw [hhyphens] at h
    rcases takes_leadingHyphens (Nat.le_refl _) hhyphens with ⟨w, ht, hplain, htake⟩
    clear htake
    dsimp only at h
    split at h
    case h_1 s' hcount =>
      -- Without members before it the bracket would come first.
      have hsame := (eq_of_leadingHyphens hhyphens).2 (ho.trans hcount.symm)
      exact absurd (hsame ▸ rfl) hclose
    case h_2 =>
      cases h
      exact ⟨w, ht, hplain⟩

/-- The opening of a class stays, and the members are within brackets. -/
theorem neutralize_opening {o : OpenClass} (h : openClass f t = (o, t₁))
    (htight : TightOpening f t) :
    ∃ p, t = p ++ t₁ ∧ (f.PlainComments p → ∀ v, SameHead v t₁ →
      neutralize ('[' :: (p ++ v)) = '[' :: (p ++ neutralizeFrom .inBrackets v)) := by
  -- The four ways to open a class, with or without a sign and with or without a bracket first.
  have hplace : Place.inBrackets ≠ .inName := by decide
  rw [openClass_eq, htight.1] at h
  split at h
  case h_1 r =>
    have hskip : f.skip r = r := htight.2 rfl
    rw [hskip] at h
    rcases openMembers_cases h rfl with ⟨b, rfl, hb⟩ | ⟨hclose, w, rfl, hw⟩
    · refine ⟨'^' :: ']' :: b, rfl, fun hall v _ => ?_⟩
      have hplain := hb (hall.of_append (u := ['^', ']']))
      simp only [List.cons_append, ← neutralizeFrom_plain hplace hplain v]
      rfl
    · refine ⟨'^' :: w, rfl, fun hall v hv => ?_⟩
      have hplain := hw (hall.of_append (u := ['^']))
      have hhead : (w ++ v).head? ≠ some ']' := (hv.append w) ▸ hclose
      rw [List.cons_append, neutralize_complement hhead, neutralizeFrom_plain hplace hplain]
      rfl
  case h_2 hcomplement =>
    rcases openMembers_cases h rfl with ⟨b, rfl, hb⟩ | ⟨hclose, w, rfl, hw⟩
    · refine ⟨']' :: b, rfl, fun hall v _ => ?_⟩
      have hplain := hb (hall.of_append (u := [']']))
      simp only [List.cons_append, ← neutralizeFrom_plain hplace hplain v]
      rfl
    · refine ⟨w, rfl, fun hall v hv => ?_⟩
      have hhead : (w ++ v).head? ≠ some ']' := (hv.append w) ▸ hclose
      have hhead' : (w ++ v).head? ≠ some '^' := by
        intro hhead'
        obtain ⟨r, hr⟩ := List.head?_eq_some_iff.mp ((hv.symm.append w).trans hhead')
        exact hcomplement r hr
      rw [neutralize_bracket hhead' hhead, neutralizeFrom_plain hplace (hw hall)]

/-- A class with no class in it stays, and behind it the text is outside of brackets. -/
theorem neutralize_class {a : Action} (h : readBracket f t = some (a, t₁))
    (htight : TightOpening f t) (ht : t = w ++ t₁) (hcomments : f.PlainComments w)
    (hnested : '[' ∉ w) :
    neutralize ('[' :: t) = '[' :: (w ++ neutralize t₁) := by
  rcases readBracket_local h with ⟨o, s, p, cls, depth, x, hopen, hp, ⟨hs, hclosed, hread⟩, _⟩
  rcases neutralize_opening hopen htight with ⟨p', hp', hopening⟩
  -- The opening, the members and the closing bracket are cut at the same places by both.
  obtain rfl : p' = p := List.append_cancel_right (hp' ▸ hp)
  have hwhole : t = (p' ++ (x ++ [']'])) ++ t₁ := by rw [hp, hs]; simp
  obtain rfl : w = p' ++ (x ++ [']']) := List.append_cancel_right (ht ▸ hwhole)
  have hx : Unclosed x := by
    refine hclosed rfl (fun hmem => hnested ?_) hcomments.of_append.of_append_left
    exact List.mem_append_right _ (List.mem_append_left _ hmem)
  have hbegin := hopening hcomments.of_append_left s rfl
  rw [← hp] at hbegin
  rw [hbegin, hs, neutralizeFrom_unclosed hx]
  simp [neutralizeFrom, neutralize]

end Constraint
end PathTemplate
