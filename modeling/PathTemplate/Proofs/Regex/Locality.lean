import PathTemplate.Proofs.Regex.Extension
import PathTemplate.Proofs.Regex.PropertyName

/-!
# Locality — what a reader takes off the front of a text

A reader takes a piece off the front of a text.  It takes the same piece off, and makes the same of
it, where the text goes on in another way behind the piece, unless it can tell so from the little
that it looks at there.  But for the blanks and comments in it the piece is plain.

- `Flags.PlainComments` : comments are plain, too
- `SameHead`, `Flags.Alike` : texts that a reader cannot tell apart behind what it takes off
- `Takes`      : the behaviour of a reader on a text, with lemmas for readers that are composed
- `takes_escape`    : escapes
- `takes_readCount` : the counts of repetitions
-/

namespace PathTemplate
namespace RegexReader

variable {f : Flags} {t t₁ u v w : Text} {c : Char}

/-! ## Plain pieces -/

/-- No comment of a verbose text has a character that is not plain. -/
def Flags.PlainComments (f : Flags) (t : Text) : Prop :=
  f.verbose = true → ∀ u ∈ t.tails, u.head? = some '#' → Plain (u.takeWhile (· != '\n'))

instance (f : Flags) : DecidablePred f.PlainComments := fun _ =>
  inferInstanceAs (Decidable (_ → ∀ u ∈ _, _ → Plain _))

theorem Flags.PlainComments.of_suffix (h : f.PlainComments t) (hu : u <:+ t) : f.PlainComments u :=
  fun hverbose s hs =>
    have hsuffix : s <:+ t := ((List.mem_tails _ _).mp hs).trans hu
    h hverbose s ((List.mem_tails _ _).mpr hsuffix)

theorem Flags.PlainComments.of_append (h : f.PlainComments (u ++ t)) : f.PlainComments t :=
  h.of_suffix (List.suffix_append u t)

/-- A comment that is cut off is as plain as the whole. -/
theorem Flags.PlainComments.of_append_left (h : f.PlainComments (u ++ t)) : f.PlainComments u := by
  intro hverbose s hs hhead c hc
  obtain ⟨x, rfl⟩ := (List.mem_tails _ _).mp hs
  have hsuffix : s ++ t ∈ (x ++ s ++ t).tails :=
    (List.mem_tails _ _).mpr ⟨x, (List.append_assoc x s t).symm⟩
  have hhead' : (s ++ t).head? = some '#' := by
    obtain ⟨r, rfl⟩ := List.head?_eq_some_iff.mp hhead
    rfl
  refine h hverbose _ hsuffix hhead' c ?_
  rw [List.takeWhile_append]
  split
  · exact List.mem_append_left _ ((List.takeWhile_sublist _).subset hc)
  · exact hc

theorem isPlain_of_isSpace (hc : isSpace c = true) : IsPlain c := IsPlain.of_ne hc (by decide)

theorem isPlain_of_hexDigit? {n : Nat} (hc : hexDigit? c = some n) : IsPlain c :=
  IsPlain.of_ne (p := fun c => (hexDigit? c).isSome) (by simp [hc]) (by decide)

theorem isPlain_of_isEdgeNameChar (hc : isEdgeNameChar c = true) : IsPlain c :=
  IsPlain.of_ne hc (by decide)

theorem isPlain_of_isDigit (hc : c.isDigit = true) : IsPlain c := IsPlain.of_ne hc (by decide)

/-! ## What stands behind a piece -/

/-- The texts begin with the same character, or both are empty. -/
def SameHead (v t : Text) : Prop := v.head? = t.head?

/-- The texts begin with the same character, and if that is a brace or a hyphen then the same
character follows behind blanks. -/
def Flags.Alike (f : Flags) (v t : Text) : Prop :=
  SameHead v t ∧
    ∀ c ∈ ['\x7b', '-'], t.head? = some c → SameHead (f.skip v.tail) (f.skip t.tail)

instance (v t : Text) : Decidable (SameHead v t) :=
  inferInstanceAs (Decidable (v.head? = t.head?))

instance (f : Flags) (v t : Text) : Decidable (f.Alike v t) :=
  @instDecidableAnd _ _ inferInstance (List.decidableBAll _ _)

theorem SameHead.symm (h : SameHead v t) : SameHead t v := Eq.symm h

theorem SameHead.append (h : SameHead v t) (w : Text) : SameHead (w ++ v) (w ++ t) := by
  cases w with
  | nil => exact h
  | cons c w => rfl

theorem SameHead.eq_nil (h : SameHead v []) : v = [] := List.head?_eq_none_iff.mp h

theorem SameHead.exists_cons (h : SameHead v (c :: t)) : ∃ s, v = c :: s := by
  obtain ⟨s, hs⟩ := List.head?_eq_some_iff.mp h
  exact ⟨s, hs⟩

theorem Flags.Alike.sameHead (h : f.Alike v t) : SameHead v t := h.1

/-! ## Blanks -/

/-- `g` drops blanks from the front of a text, and does not look further than one character. -/
def Flags.Skips (f : Flags) (g : Text → Text) : Prop :=
  ∀ t, ∃ b, t = b ++ g t ∧ (f.PlainComments b → Plain b) ∧ ∀ v, SameHead v (g t) → g (b ++ v) = v

theorem Flags.Skips.suffix {g : Text → Text} (hg : f.Skips g) (t : Text) : g t <:+ t := by
  rcases hg t with ⟨b, ht, _⟩
  exact ⟨b, ht.symm⟩

theorem skipComments_local (comment : Bool) (t : Text) :
    ∃ b, t = b ++ skipComments comment t ∧
      ((comment = true → Plain (b.takeWhile (· != '\n'))) →
        (∀ u ∈ b.tails, u.head? = some '#' → Plain (u.takeWhile (· != '\n'))) → Plain b) ∧
      ∀ v, SameHead v (skipComments comment t) → skipComments comment (b ++ v) = v := by
  have htail {c : Char} {t : Text}
      (h : ∀ u ∈ (c :: t).tails, u.head? = some '#' → Plain (u.takeWhile (· != '\n'))) :
      ∀ u ∈ t.tails, u.head? = some '#' → Plain (u.takeWhile (· != '\n')) := fun u hu =>
    h u ((List.mem_tails _ _).mpr (((List.mem_tails _ _).mp hu).trans (List.suffix_cons c t)))
  fun_induction skipComments comment t with
  | case1 comment =>
      refine ⟨[], rfl, fun _ _ => Plain.nil, fun v hv => ?_⟩
      rw [SameHead.eq_nil hv, List.append_nil, skipComments]
  | case2 c t ih =>
      rcases ih with ⟨b, ht, hplain, hskip⟩
      refine ⟨c :: b, by rw [List.cons_append, ← ht], fun hline hall => ?_, fun v hv => ?_⟩
      · -- The comment is plain up to the end of its line, and that ends it.
        by_cases hc : c = '\n'
        · subst hc
          exact Plain.cons (by decide) (hplain (by simp) (htail hall))
        · have hline := hline rfl
          rw [List.takeWhile_cons_of_pos (by simpa using hc)] at hline
          rcases List.forall_mem_cons.mp hline with ⟨hfirst, hline⟩
          exact Plain.cons hfirst (hplain (fun _ => hline) (htail hall))
      · rw [List.cons_append, skipComments, hskip v hv]
  | case3 c t hspace ih =>
      rcases ih with ⟨b, ht, hplain, hskip⟩
      refine ⟨c :: b, by rw [List.cons_append, ← ht], fun _ hall => ?_, fun v hv => ?_⟩
      · exact Plain.cons (isPlain_of_isSpace hspace) (hplain (by simp) (htail hall))
      · rw [List.cons_append, skipComments, if_pos hspace, hskip v hv]
  | case4 t hspace ih =>
      rcases ih with ⟨b, ht, hplain, hskip⟩
      refine ⟨'#' :: b, by rw [List.cons_append, ← ht], fun _ hall => ?_, fun v hv => ?_⟩
      · have hcomment := hall _ ((List.mem_tails _ _).mpr List.suffix_rfl) rfl
        refine Plain.cons (by decide) (hplain (fun _ c hc => hcomment c ?_) (htail hall))
        exact List.mem_cons_of_mem _ hc
      · rw [List.cons_append, skipComments, if_neg hspace, if_pos rfl, hskip v hv]
  | case5 c t hspace hhash =>
      -- What stops the skipping is one character, so that a text with the same one stops it, too.
      refine ⟨[], rfl, fun _ _ => Plain.nil, fun v hv => ?_⟩
      rcases hv.exists_cons with ⟨s, rfl⟩
      rw [List.nil_append, skipComments, if_neg hspace, if_neg hhash]

theorem skipComments_skipComments (comment : Bool) (t : Text) :
    skipComments false (skipComments comment t) = skipComments comment t := by
  fun_induction skipComments comment t with
  | case1 => rfl
  | case2 c t ih => exact ih
  | case3 c t _ ih => exact ih
  | case4 t _ ih => exact ih
  | case5 c t hspace hhash => rw [skipComments, if_neg hspace, if_neg hhash]

theorem Flags.skip_skip (f : Flags) (t : Text) : f.skip (f.skip t) = f.skip t := by
  unfold Flags.skip
  cases f.verbose with
  | false => rfl
  | true => exact skipComments_skipComments false t

theorem Flags.skip_cons_eq (f : Flags) (hc : isSpace c = false ∧ c ≠ '#') (t : Text) :
    f.skip (c :: t) = c :: t := by
  have hspace : ¬ isSpace c = true := by simp [hc.1]
  rw [Flags.skip, skipComments, if_neg hspace, if_neg hc.2]
  exact ite_self _

theorem Flags.skips_skip (f : Flags) : f.Skips f.skip := by
  intro t
  unfold Flags.skip Flags.PlainComments
  cases f.verbose with
  | false => exact ⟨[], rfl, fun _ => Plain.nil, fun v _ => rfl⟩
  | true =>
      rcases skipComments_local false t with ⟨b, ht, hplain, hskip⟩
      exact ⟨b, ht, fun hall => hplain (by simp) (hall rfl), hskip⟩

theorem Flags.skips_dropWhile (f : Flags) : f.Skips fun t => t.dropWhile isSpace := by
  intro t
  induction t with
  | nil =>
      refine ⟨[], rfl, fun _ => Plain.nil, fun v hv => ?_⟩
      rw [SameHead.eq_nil hv]
      rfl
  | cons c t ih =>
      cases hc : isSpace c with
      | true =>
          rcases ih with ⟨b, ht, hplain, hdrop⟩
          refine ⟨c :: b, ?_, fun hall => ?_, fun v hv => ?_⟩
          · simp only [List.dropWhile, hc, List.cons_append, ← ht]
          · exact Plain.cons (isPlain_of_isSpace hc) (hplain (hall.of_append (u := [c])))
          · simp only [List.dropWhile, hc] at hv
            simp only [List.cons_append, List.dropWhile, hc, hdrop v hv]
      | false =>
          refine ⟨[], by simp only [List.dropWhile, hc, List.nil_append], fun _ => Plain.nil,
            fun v hv => ?_⟩
          simp only [List.dropWhile, hc] at hv
          rcases hv.exists_cons with ⟨s, rfl⟩
          simp only [List.nil_append, List.dropWhile, hc]

theorem Flags.Skips.comp {g g' : Text → Text} (hg : f.Skips g) (hg' : f.Skips g') :
    f.Skips fun t => g' (g t) := by
  intro t
  rcases hg t with ⟨b, ht, hplain, hskip⟩
  rcases hg' (g t) with ⟨b', ht', hplain', hskip'⟩
  refine ⟨b ++ b', by rw [List.append_assoc, ← ht', ← ht], fun hall => ?_, fun v hv => ?_⟩
  · exact (hplain hall.of_append_left).append (hplain' hall.of_append)
  · have hhead : SameHead (b' ++ v) (g t) := by
      rw [ht']
      exact hv.append b'
    dsimp only
    rw [List.append_assoc, hskip _ hhead, hskip' v hv]

/-! ## Readers -/

section Takes

variable {α β : Type} {alike alike' : Text → Text → Prop}
variable {read read' : Nat → Text → Option (α × Text)} {a : α} {b : β}

/-- Reading `t` gives `a` and leaves `t₁`.  What is taken off is plain if its comments are, and it
is taken off in front of all that is alike.  It takes no more rounds than there are characters. -/
def Takes (f : Flags) (alike : Text → Text → Prop) (read : Nat → Text → Option (α × Text))
    (t : Text) (a : α) (t₁ : Text) : Prop :=
  ∃ w, t = w ++ t₁ ∧ (f.PlainComments w → Plain w) ∧
    ∀ v fuel, alike v t₁ → w.length ≤ fuel → read fuel (w ++ v) = some (a, v)

namespace Takes

theorem nil (h : ∀ v fuel, alike v t → read fuel v = some (a, v)) : Takes f alike read t a t :=
  ⟨[], rfl, fun _ => Plain.nil, fun v fuel hv _ => h v fuel hv⟩

theorem mono (h : Takes f alike read t a t₁) (halike : ∀ v, alike' v t₁ → alike v t₁) :
    Takes f alike' read t a t₁ := by
  rcases h with ⟨w, ht, hplain, hread⟩
  exact ⟨w, ht, hplain, fun v fuel hv => hread v fuel (halike v hv)⟩

/-- The rounds may depend on what is left to read. -/
theorem rounds (h : Takes f alike read t a t₁) {k : Text → Nat} (hk : ∀ s, s.length ≤ k s) :
    Takes f alike (fun _ s => read (k s) s) t a t₁ := by
  rcases h with ⟨w, ht, hplain, hread⟩
  refine ⟨w, ht, hplain, fun v _ hv _ => hread v _ hv (Nat.le_trans ?_ (hk (w ++ v)))⟩
  rw [List.length_append]
  exact Nat.le_add_right _ _

theorem map {read' : Nat → Text → Option (β × Text)} (h : Takes f alike read t a t₁)
    (hread : ∀ fuel s r, read fuel s = some (a, r) → read' fuel s = some (b, r)) :
    Takes f alike read' t b t₁ := by
  rcases h with ⟨w, ht, hplain, hw⟩
  exact ⟨w, ht, hplain, fun v fuel hv hfuel => hread _ _ _ (hw v fuel hv hfuel)⟩

/-- One character and what follows it. -/
theorem cons {read' : Nat → Text → Option (β × Text)} (hc : IsPlain c)
    (h : Takes f alike read t a t₁)
    (hread : ∀ fuel s r, read fuel s = some (a, r) → read' (fuel + 1) (c :: s) = some (b, r)) :
    Takes f alike read' (c :: t) b t₁ := by
  rcases h with ⟨w, rfl, hplain, hw⟩
  refine ⟨c :: w, rfl, fun hall => Plain.cons hc (hplain (hall.of_append (u := [c]))),
    fun v fuel hv hfuel => ?_⟩
  obtain ⟨k, rfl⟩ := Nat.exists_eq_add_one_of_ne_zero (Nat.ne_of_gt (Nat.lt_of_lt_of_le
    (Nat.succ_pos _) hfuel))
  exact hread k _ _ (hw v k hv (Nat.le_of_succ_le_succ hfuel))

/-- Blanks and what follows them. -/
theorem skip {read' : Nat → Text → Option (β × Text)} {g : Text → Text} (hg : f.Skips g)
    (h : Takes f SameHead read (g t) a t₁)
    (hread : ∀ fuel s r, read fuel (g s) = some (a, r) → read' fuel s = some (b, r)) :
    Takes f SameHead read' t b t₁ := by
  rcases hg t with ⟨x, ht, hblank, hskip⟩
  rcases h with ⟨w, hw, hplain, htake⟩
  refine ⟨x ++ w, by rw [List.append_assoc, ← hw, ← ht], fun hall => ?_, fun v fuel hv hfuel => ?_⟩
  · exact (hblank hall.of_append_left).append (hplain hall.of_append)
  · have hhead : SameHead (w ++ v) (g t) := by
      rw [hw]
      exact hv.append w
    have hlength : w.length ≤ fuel := by
      rw [List.length_append] at hfuel
      omega
    refine hread _ _ _ ?_
    rw [List.append_assoc, hskip _ hhead]
    exact htake v fuel hv hlength

/-- Blanks, the character behind them, and what follows it. -/
theorem skip_cons {read' : Nat → Text → Option (β × Text)} (hskip : f.skip t = c :: u)
    (hc : IsPlain c) (h : Takes f alike read u a t₁)
    (hread : ∀ fuel s s' r, f.skip s = c :: s' → read fuel s' = some (a, r) →
      read' (fuel + 1) s = some (b, r)) :
    Takes f alike read' t b t₁ := by
  rcases f.skips_skip t with ⟨x, ht, hblank, hdrop⟩
  rcases h with ⟨w, rfl, hplain, htake⟩
  rw [hskip] at ht hdrop
  refine ⟨x ++ c :: w, by rw [ht, List.append_assoc, List.cons_append], fun hall => ?_,
    fun v fuel hv hfuel => ?_⟩
  · have hrest : f.PlainComments (c :: w) := hall.of_append
    exact (hblank hall.of_append_left).append (Plain.cons hc (hplain (hrest.of_append (u := [c]))))
  · rw [List.length_append, List.length_cons] at hfuel
    obtain ⟨k, rfl⟩ : ∃ k, fuel = k + 1 := ⟨fuel - 1, by omega⟩
    rw [List.append_assoc, List.cons_append]
    exact hread k _ _ _ (hdrop (c :: (w ++ v)) rfl) (htake v k hv (by omega))

/-- One reader after the other. -/
theorem bind {γ : Type} {read₂ : Nat → Text → Option (β × Text)}
    {read' : Nat → Text → Option (γ × Text)} {x : γ} (h : Takes f SameHead read t a u)
    (h' : Takes f SameHead read₂ u b t₁)
    (hread : ∀ fuel s r r', read fuel s = some (a, r) → read₂ fuel r = some (b, r') →
      read' fuel s = some (x, r')) :
    Takes f SameHead read' t x t₁ := by
  rcases h with ⟨w, rfl, hplain, htake⟩
  rcases h' with ⟨w', rfl, hplain', htake'⟩
  refine ⟨w ++ w', (List.append_assoc _ _ _).symm, fun hall => ?_, fun v fuel hv hfuel => ?_⟩
  · exact (hplain hall.of_append_left).append (hplain' hall.of_append)
  · rw [List.length_append] at hfuel
    rw [List.append_assoc]
    exact hread _ _ _ _ (htake (w' ++ v) fuel (hv.append w') (by omega))
      (htake' v fuel hv (by omega))

/-- A piece and the character that ends it. -/
theorem close {read' : Nat → Text → Option (β × Text)} (hc : IsPlain c)
    (h : Takes f SameHead read t a (c :: t₁))
    (hread : ∀ fuel s r, read fuel s = some (a, c :: r) → read' fuel s = some (b, r)) :
    Takes f alike read' t b t₁ := by
  rcases h with ⟨w, ht, hplain, htake⟩
  refine ⟨w ++ [c], by rw [ht, List.append_assoc]; rfl, fun hall => ?_, fun v fuel _ hfuel => ?_⟩
  · exact (hplain hall.of_append_left).append (Plain.cons hc Plain.nil)
  · rw [List.length_append] at hfuel
    rw [List.append_assoc]
    exact hread _ _ _ (htake (c :: v) fuel rfl (by omega))

theorem skipped {g : Text → Text} (hg : f.Skips g) (h : Takes f SameHead read (g t) a t₁) :
    Takes f SameHead (fun fuel s => read fuel (g s)) t a t₁ :=
  skip hg h fun _ _ _ hread => hread

/-- Nothing at all. -/
theorem nothing (t : Text) (a : α) : Takes f alike (fun _ s => some (a, s)) t a t :=
  nil fun _ _ _ => rfl

/-- Nothing but blanks. -/
theorem blanks {g : Text → Text} (hg : f.Skips g) (t : Text) (a : α) :
    Takes f SameHead (fun _ s => some (a, g s)) t a (g t) :=
  skipped hg (nothing (g t) a)

/-- One character. -/
theorem single (hc : IsPlain c) (hread : ∀ fuel s, read (fuel + 1) (c :: s) = some (a, s))
    (t : Text) : Takes f alike read (c :: t) a t := by
  refine cons hc (nothing t ()) fun fuel s r h => ?_
  cases h
  exact hread fuel s

/-- Nothing at the end of the text. -/
theorem atEnd (hread : ∀ fuel, read fuel [] = some (a, [])) : Takes f SameHead read [] a [] := by
  refine nil fun v fuel hv => ?_
  rw [hv.eq_nil]
  exact hread fuel

theorem suffix (h : Takes f alike read t a t₁) : t₁ <:+ t := by
  rcases h with ⟨w, rfl, _, _⟩
  exact List.suffix_append w t₁

end Takes
end Takes

/-! ## Escapes -/

section Escapes

variable {a : Atom}

theorem takes_fixedHex {count n m : Nat} (h : fixedHex f count n t = some (m, t₁)) :
    Takes f SameHead (fun _ => fixedHex f count n) t m t₁ := by
  induction count generalizing n t with
  | zero =>
      cases h
      exact Takes.nil fun _ _ _ => rfl
  | succ count ih =>
      cases t with
      | nil => cases h
      | cons c t =>
          rw [fixedHex] at h
          rcases Option.bind_eq_some_iff.mp h with ⟨v, hv, h⟩
          refine Takes.cons (isPlain_of_hexDigit? hv) ((ih h).skipped f.skips_skip) ?_
          intro k s r hread
          rw [fixedHex, hv]
          exact hread

theorem takes_bracedHex {fuel n m : Nat} {seen : Bool}
    (h : bracedHex f fuel seen n t = some (m, t₁)) :
    Takes f SameHead (fun fuel => bracedHex f fuel seen n) t m t₁ := by
  induction fuel generalizing seen n t with
  | zero => cases h
  | succ fuel ih =>
      rw [bracedHex] at h
      cases hskip : f.skip t with
      | nil => simp [hskip] at h
      | cons c s =>
          simp only [hskip] at h
          split at h
          -- The closing brace ends the digits, if there has been one.
          case isTrue hbrace =>
            subst hbrace
            split at h
            case isFalse => cases h
            case isTrue hseen =>
              cases h
              refine Takes.skip_cons hskip (by decide) (Takes.blanks f.skips_skip s m) ?_
              intro k u u' r hu hread
              simp only [bracedHex, hu, if_true, hseen]
              exact hread
          case isFalse hbrace =>
            rcases Option.bind_eq_some_iff.mp h with ⟨v, hv, h⟩
            refine Takes.skip_cons hskip (isPlain_of_hexDigit? hv) (ih h) ?_
            intro k u u' r hu hread
            simp only [bracedHex, hu, hbrace, if_false, hv]
            exact hread

theorem takes_hexAtom {digits : Nat} (h : hexAtom f (digits + 1) t = some (a, t₁)) :
    Takes f SameHead (fun _ => hexAtom f (digits + 1)) t a t₁ := by
  unfold hexAtom at h
  split at h
  case h_1 s hskip =>
    rcases Option.bind_eq_some_iff.mp h with ⟨⟨n, _⟩, hread, h⟩
    rcases Option.bind_eq_some_iff.mp h with ⟨c, hc, h⟩
    cases h
    refine Takes.skip_cons hskip (by decide)
      ((takes_bracedHex hread).rounds fun u => Nat.le_succ u.length) ?_
    intro k u u' r hu hread
    simp only [hexAtom, hu, hread]
    simp [hc]
  -- A digit comes first, so that there is no brace.
  case h_2 hbrace =>
    rcases Option.bind_eq_some_iff.mp h with ⟨⟨n, _⟩, hread, h⟩
    rcases Option.bind_eq_some_iff.mp h with ⟨c, hc, h⟩
    cases h
    refine Takes.skip f.skips_skip (takes_fixedHex hread) ?_
    intro k u r hread
    unfold hexAtom
    split
    case h_1 heq =>
      rw [heq] at hread
      cases hread
    case h_2 =>
      simp only [hread]
      simp [hc]

theorem takes_bracedName {fuel : Nat} {name : Text} (hname : Plain name)
    (h : bracedName f fuel t = some (name, t₁)) :
    Takes f SameHead (bracedName f) t name t₁ := by
  induction fuel generalizing t name with
  | zero => cases h
  | succ fuel ih =>
      rw [bracedName] at h
      cases hskip : f.skip t with
      | nil => simp [hskip] at h
      | cons c s =>
          simp only [hskip] at h
          split at h
          case isTrue hbrace =>
            subst hbrace
            cases h
            refine Takes.skip_cons hskip (by decide) (Takes.nothing _ ()) ?_
            intro k u u' r hu hread
            cases hread
            simp only [bracedName, hu, if_true]
          case isFalse hbrace =>
            rcases Option.map_eq_some_iff.mp h with ⟨⟨rest, s'⟩, hread, h⟩
            cases h
            rcases List.forall_mem_cons.mp hname with ⟨hc, hrest⟩
            refine Takes.skip_cons hskip hc (ih hrest hread) ?_
            intro k u u' r hu hread
            simp only [bracedName, hu, hbrace, if_false, hread, Option.map_some]

theorem takes_propertyAtom {negated : Bool} (h : propertyAtom f negated t = some (a, t₁)) :
    Takes f SameHead (fun _ => propertyAtom f negated) t a t₁ := by
  unfold propertyAtom at h
  split at h
  case h_1 => cases h
  case h_2 => cases h
  -- The name in braces is that of a property, so all its characters are plain.
  case h_3 s hskip =>
    rcases Option.bind_eq_some_iff.mp h with ⟨⟨name, _⟩, hread, h⟩
    rcases Option.bind_eq_some_iff.mp h with ⟨tables, htables, h⟩
    cases h
    refine Takes.skip_cons hskip (by decide) ((takes_bracedName
      (plain_of_propertyTables? htables) hread).rounds fun u => Nat.le_succ u.length) ?_
    intro k u u' r hu hread
    simp only [propertyAtom, hu, hread]
    simp [htables]
  case h_4 c s hescape hbrace hskip =>
    rcases Option.bind_eq_some_iff.mp h with ⟨tables, htables, h⟩
    cases h
    have hc := Unicode.plain_of_property? htables c (by simp)
    refine Takes.skip_cons hskip hc (Takes.blanks f.skips_skip s ()) ?_
    intro k u u' r hu hread
    cases hread
    unfold propertyAtom
    simp only [hu]
    rw [htables]
    rfl

theorem takes_edgeName {fuel : Nat} {name : Text} (hfuel : t.length ≤ fuel)
    (h : edgeName f fuel t = (name, t₁)) :
    Takes f SameHead (fun fuel s => some (edgeName f fuel s)) t name t₁ := by
  induction fuel generalizing t name with
  | zero =>
      -- With rounds for every character, none are left only at the end of the text.
      obtain rfl := List.eq_nil_of_length_eq_zero (Nat.le_zero.mp hfuel)
      cases h
      exact Takes.atEnd fun fuel => by cases fuel <;> rfl
  | succ fuel ih =>
      cases t with
      | nil =>
          cases h
          exact Takes.atEnd fun fuel => by cases fuel <;> rfl
      | cons c t =>
          simp only [edgeName] at h
          split at h
          case isTrue hedge =>
            have hlength := Nat.le_trans (f.length_skip t) (Nat.le_of_succ_le_succ hfuel)
            rcases hread : edgeName f fuel (f.skip t) with ⟨rest, s⟩
            rw [hread] at h
            cases h
            refine Takes.cons (isPlain_of_isEdgeNameChar hedge)
              ((ih hlength hread).skipped f.skips_skip) fun k s r hread => ?_
            simp only [edgeName, hedge, if_true, Option.some.inj hread]
          case isFalse hedge =>
            cases h
            refine Takes.nil fun v fuel hv => ?_
            rcases hv.exists_cons with ⟨s, rfl⟩
            cases fuel with
            | zero => rfl
            | succ fuel => simp only [edgeName, hedge, Bool.false_eq_true, if_false]

def closedEdge (f : Flags) (t : Text) : Option (Atom × Text) :=
  match edgeName f (t.length + 1) t with
  | (name, '\x7d' :: t) => (wordEdge? name).map fun e => (.look (.word f.unicode e), t)
  | _ => none

theorem takes_closedEdge (h : closedEdge f t = some (a, t₁)) :
    Takes f SameHead (fun _ => closedEdge f) t a t₁ := by
  unfold closedEdge at h
  split at h
  case h_2 => cases h
  case h_1 name r hread =>
    rcases Option.map_eq_some_iff.mp h with ⟨e, he, h⟩
    cases h
    have hname := (takes_edgeName (Nat.le_succ _) hread).rounds fun u => Nat.le_succ u.length
    refine Takes.close (by decide) hname fun _ u r hread => ?_
    simp only [closedEdge, Option.some.inj hread, he, Option.map_some]

theorem boundaryAtom_of_closedEdge {r : Text} (h : closedEdge f (f.skip t) = some (a, r)) :
    boundaryAtom f ('\x7b' :: t) = some (a, r) := by
  cases hskip : f.skip t with
  | nil =>
      rw [hskip] at h
      cases h
  | cons c s =>
      rw [hskip] at h
      simp only [boundaryAtom, hskip]
      cases hedge : isEdgeNameChar c with
      | true => exact h
      | false =>
          -- Without a letter there is no name.
          have hnone : edgeName f (s.length + 2) (c :: s) = ([], c :: s) := by
            simp only [edgeName, hedge, Bool.false_eq_true, if_false]
          simp only [closedEdge, List.length_cons, hnone] at h
          split at h
          case h_1 heq =>
            cases heq
            cases h
          case h_2 => cases h

theorem takes_boundaryAtom (h : boundaryAtom f t = some (a, t₁)) :
    Takes f f.Alike (fun _ => boundaryAtom f) t a t₁ := by
  unfold boundaryAtom at h
  split at h
  case h_1 r =>
    cases hskip : f.skip r with
    | nil => simp [hskip] at h
    | cons c s =>
        simp only [hskip] at h
        split at h
        case isTrue hedge =>
          have hclosed : closedEdge f (f.skip r) = some (a, t₁) := hskip ▸ h
          have hnamed := (takes_closedEdge hclosed).skipped f.skips_skip
          refine (Takes.cons (by decide) hnamed fun _ u r hread => ?_).mono fun _ hv => hv.sameHead
          exact boundaryAtom_of_closedEdge hread
        case isFalse hedge =>
          cases h
          -- The brace is not taken off, and the character behind it is no letter elsewhere either.
          refine Takes.nil fun v fuel hv => ?_
          rcases hv.sameHead.exists_cons with ⟨r', rfl⟩
          have hhead := hv.2 '\x7b' (by simp) rfl
          simp only [List.tail_cons, hskip] at hhead
          rcases hhead.exists_cons with ⟨s', hs'⟩
          simp only [boundaryAtom, hs', hedge]
          rfl
  case h_2 hbrace =>
    cases h
    refine Takes.nil fun v fuel hv => ?_
    unfold boundaryAtom
    split
    case h_1 r =>
      rcases SameHead.exists_cons hv.sameHead.symm with ⟨r', rfl⟩
      exact absurd rfl (hbrace r')
    case h_2 => rfl

/-- What an escape takes off behind the escaped character. -/
theorem takes_escape (h : escape f (c :: t) = some (a, t₁)) :
    Takes f f.Alike (fun _ s => escape f (c :: s)) t a t₁ := by
  have hmono {read : Nat → Text → Option (Atom × Text)} (h : Takes f SameHead read t a t₁) :
      Takes f f.Alike read t a t₁ :=
    h.mono fun _ hv => hv.sameHead
  simp only [escape] at h
  split at h
  case h_1 | h_2 | h_3 => exact hmono (takes_hexAtom h)
  case h_4 | h_5 => exact hmono (takes_propertyAtom h)
  case h_20 => exact takes_boundaryAtom h
  -- What is escaped to itself is one character.
  case h_24 =>
    split at h
    case isFalse => cases h
    case isTrue hescapable =>
      cases h
      refine Takes.nil fun v _ _ => ?_
      simp only [escape, hescapable, if_true]
  all_goals
    cases h
    exact Takes.nil fun v _ _ => rfl

end Escapes

/-! ## Counts -/

theorem takes_countDigits {fuel : Nat} {ds : Text} (hfuel : t.length ≤ fuel)
    (h : countDigits f fuel t = (ds, t₁)) :
    Takes f SameHead (fun fuel s => some (countDigits f fuel s)) t ds t₁ := by
  induction fuel generalizing t ds with
  | zero =>
      obtain rfl := List.eq_nil_of_length_eq_zero (Nat.le_zero.mp hfuel)
      cases h
      exact Takes.atEnd fun fuel => by cases fuel <;> rfl
  | succ fuel ih =>
      cases t with
      | nil =>
          cases h
          exact Takes.atEnd fun fuel => by cases fuel <;> rfl
      | cons c t =>
          simp only [countDigits] at h
          split at h
          case isTrue hdigit =>
            have hlength := Nat.le_trans (f.length_skip t) (Nat.le_of_succ_le_succ hfuel)
            rcases hread : countDigits f fuel (f.skip t) with ⟨rest, s⟩
            rw [hread] at h
            cases h
            refine Takes.cons (isPlain_of_isDigit hdigit)
              ((ih hlength hread).skipped f.skips_skip) fun k s r hread => ?_
            simp only [countDigits, hdigit, if_true, Option.some.inj hread]
          case isFalse hdigit =>
            cases h
            refine Takes.nil fun v fuel hv => ?_
            rcases hv.exists_cons with ⟨s, rfl⟩
            cases fuel with
            | zero => rfl
            | succ fuel => simp only [countDigits, hdigit, Bool.false_eq_true, if_false]

theorem takes_readCount {n : Option Nat} (h : readCount f t = some (n, t₁)) :
    Takes f SameHead (fun _ => readCount f) t n t₁ := by
  rcases hdigits : countDigits f (t.dropWhile isSpace).length (t.dropWhile isSpace) with ⟨ds, s⟩
  rw [readCount_eq hdigits] at h
  rcases Option.map_eq_some_iff.mp h with ⟨k, hvalue, h⟩
  cases h
  have hdrop := (f.skips_dropWhile).comp f.skips_skip
  have htake := (takes_countDigits (Nat.le_refl _) hdigits).rounds fun u => Nat.le_refl u.length
  have hdigits' : Takes f SameHead
      (fun _ u => (countValue? (countDigits f u.length u).1).map fun n =>
        (n, f.skip ((countDigits f u.length u).2.dropWhile isSpace)))
      (t.dropWhile isSpace) n (f.skip (s.dropWhile isSpace)) := by
    refine htake.bind (Takes.blanks hdrop s n) fun fuel u r r' hread hblanks => ?_
    cases hblanks
    simp only [Option.some.inj hread, hvalue, Option.map_some]
  refine Takes.skip f.skips_dropWhile hdigits' fun fuel u r hread => ?_
  rwa [readCount_eq rfl]

end RegexReader
end PathTemplate
