import Mathlib.Data.List.TakeWhile
import PathTemplate.Regex.Reader

/-!
# Extension — reading a text that goes on behind a parenthesis

What is read of a text is read in the same way where the text goes on with a closing parenthesis,
with one exception: a comment that is open at the end of the text swallows the parenthesis.

- `RegexReader.Closes` : a reader behaves so on a text
- `Flags.skip_append`, `Flags.skip_nil` : blanks and comments
- `escape_closes`      : escapes
- `readCount_append`   : the counts of repetitions
-/

namespace PathTemplate
namespace RegexReader

/-- Reading `t` gives `a` and leaves `t₁`.  If a closing parenthesis follows, then it is left as
well, with all that follows it, or a comment at the end of `t` swallows it. -/
def Closes {α : Type} (read : Text → Option (α × Text)) (t : Text) (a : α) (t₁ : Text) : Prop :=
  (∀ v, read (t ++ ')' :: v) = some (a, t₁ ++ ')' :: v)) ∨
    (t₁ = [] ∧ read (t ++ [')']) = some (a, []))

/-- What is left of a text, if anything, is left with all that follows it. -/
theorem Closes.append {α : Type} {read : Text → Option (α × Text)} {t t₁ : Text} {a : α}
    (h : Closes read t a t₁) (hne : t₁ ≠ []) (v : Text) :
    read (t ++ ')' :: v) = some (a, t₁ ++ ')' :: v) := by
  rcases h with h | ⟨hnil, _⟩
  · exact h v
  · exact absurd hnil hne

variable {f : Flags} {t t₁ : Text} {c : Char}

/-! ## Blanks and comments -/

theorem skipComments_cons {comment : Bool} (h : skipComments comment t = c :: t₁) (w : Text) :
    skipComments comment (t ++ w) = c :: (t₁ ++ w) := by
  fun_induction skipComments comment t with
  | case1 => cases h
  | case2 d t ih => exact ih h
  | case3 d t hspace ih =>
      rw [List.cons_append, skipComments, if_pos hspace]
      exact ih h
  | case4 t hspace ih =>
      rw [List.cons_append, skipComments, if_neg hspace, if_pos rfl]
      exact ih h
  -- What is kept comes first here, and nothing behind it is looked at.
  | case5 d t hspace hhash =>
      cases h
      rw [List.cons_append, skipComments, if_neg hspace, if_neg hhash]

/-- Where nothing but blanks and comments has been skipped, skipping goes on, maybe in a comment. -/
theorem skipComments_nil {comment : Bool} (h : skipComments comment t = []) :
    ∃ inside, ∀ w, skipComments comment (t ++ w) = skipComments inside w := by
  fun_induction skipComments comment t with
  | case1 inside => exact ⟨inside, fun w => rfl⟩
  | case2 d t ih =>
      rcases ih h with ⟨inside, hw⟩
      exact ⟨inside, fun w => by rw [List.cons_append, skipComments, hw]⟩
  | case3 d t hspace ih =>
      rcases ih h with ⟨inside, hw⟩
      exact ⟨inside, fun w => by rw [List.cons_append, skipComments, if_pos hspace, hw]⟩
  | case4 t hspace ih =>
      rcases ih h with ⟨inside, hw⟩
      exact ⟨inside, fun w => by rw [List.cons_append, skipComments, if_neg hspace, if_pos rfl, hw]⟩
  | case5 => cases h

theorem length_skipComments (comment : Bool) (t : Text) :
    (skipComments comment t).length ≤ t.length := by
  fun_induction skipComments comment t with
  | case1 => exact Nat.le_refl _
  | case2 d t ih => exact Nat.le_succ_of_le ih
  | case3 d t _ ih => exact Nat.le_succ_of_le ih
  | case4 t _ ih => exact Nat.le_succ_of_le ih
  | case5 => exact Nat.le_refl _

theorem Flags.length_skip (f : Flags) (t : Text) : (f.skip t).length ≤ t.length := by
  rw [Flags.skip]
  split
  · exact length_skipComments false t
  · exact Nat.le_refl _

theorem Flags.skip_cons (h : f.skip t = c :: t₁) (w : Text) : f.skip (t ++ w) = c :: (t₁ ++ w) := by
  rw [Flags.skip] at h ⊢
  split at h
  case isTrue hverbose =>
    rw [if_pos hverbose]
    exact skipComments_cons h w
  case isFalse hverbose => rw [if_neg hverbose, h, List.cons_append]

theorem Flags.skip_append (h : f.skip t ≠ []) (w : Text) : f.skip (t ++ w) = f.skip t ++ w := by
  cases hskip : f.skip t with
  | nil => exact absurd hskip h
  | cons c t₁ => exact Flags.skip_cons hskip w

theorem Flags.skip_parenthesis (f : Flags) (v : Text) : f.skip (')' :: v) = ')' :: v := by
  have hspace : ¬ isSpace ')' = true := by decide
  have hhash : ')' ≠ '#' := by decide
  rw [Flags.skip, skipComments, if_neg hspace, if_neg hhash]
  exact ite_self _

@[simp] theorem Flags.skip_nil_eq (f : Flags) : f.skip [] = [] := by
  rw [Flags.skip, skipComments, ite_self]

/-- Where all of a text is skipped, so is a parenthesis after it, or it stays. -/
theorem Flags.skip_nil (h : f.skip t = []) :
    (∀ v, f.skip (t ++ ')' :: v) = ')' :: v) ∨ f.skip (t ++ [')']) = [] := by
  rw [Flags.skip] at h
  cases hverbose : f.verbose with
  | false =>
      rw [hverbose] at h
      have hnil : t = [] := h
      subst hnil
      exact .inl fun v => Flags.skip_parenthesis f v
  | true =>
      rw [hverbose] at h
      -- A comment that is open at the end takes the parenthesis in.
      rcases skipComments_nil h with ⟨inside, hw⟩
      cases inside with
      | false =>
          refine .inl fun v => ?_
          have hkept := Flags.skip_parenthesis { f with verbose := true } v
          rw [Flags.skip, hverbose, if_pos rfl, hw]
          exact hkept
      | true =>
          refine .inr ?_
          rw [Flags.skip, hverbose, if_pos rfl, hw]
          rfl

/-- What is read after blanks and comments. -/
theorem Closes.skip {α : Type} {read : Text → Option (α × Text)} {a : α}
    (hread : read (f.skip t) = some (a, t₁)) (h : Closes read (f.skip t) a t₁)
    (hnil : ∀ x s, read [] = some (x, s) → s = []) :
    Closes (fun t => read (f.skip t)) t a t₁ := by
  cases hskip : f.skip t with
  | cons c s =>
      rw [hskip] at h
      have happend (w : Text) : f.skip (t ++ w) = c :: s ++ w := Flags.skip_cons hskip w
      simpa only [Closes, happend] using h
  -- Nothing is left to read, so what is read is empty, and so is what it leaves.
  | nil =>
      rw [hskip] at hread h
      have hrest := hnil a t₁ hread
      subst hrest
      rcases Flags.skip_nil hskip with hkept | hswallowed
      · rcases h with h | ⟨_, h⟩
        · exact .inl fun v => by simpa only [hkept, List.nil_append] using h v
        · exact .inr ⟨rfl, by simpa only [hkept, List.nil_append] using h⟩
      · exact .inr ⟨rfl, by simpa only [hswallowed] using hread⟩

/-- What leaves all that follows it, and skips blanks and comments in that. -/
theorem Closes.of_skip {α : Type} {read : Text → Option (α × Text)} {a : α} {s : Text}
    (h : ∀ w, read (t ++ w) = some (a, f.skip (s ++ w))) : Closes read t a (f.skip s) := by
  cases hskip : f.skip s with
  | cons c s' => exact .inl fun v => by rw [h, Flags.skip_cons hskip, List.cons_append]
  | nil =>
      rcases Flags.skip_nil hskip with hkept | hswallowed
      · exact .inl fun v => by rw [h, hkept, List.nil_append]
      · exact .inr ⟨rfl, by rw [h, hswallowed]⟩

/-! ## Escapes -/

/-- The last of several digits is followed by blanks that are skipped. -/
theorem fixedHex_append {count n m : Nat} (h : fixedHex f (count + 1) n t = some (m, t₁)) :
    ∃ s, t₁ = f.skip s ∧ ∀ w, fixedHex f (count + 1) n (t ++ w) = some (m, f.skip (s ++ w)) := by
  -- Blanks are skipped before each digit; only those after the last one may end the text.
  induction count generalizing n t with
  | zero =>
      cases t with
      | nil => cases h
      | cons c t =>
          rw [fixedHex] at h
          rcases Option.bind_eq_some_iff.mp h with ⟨v, hv, h⟩
          cases h
          exact ⟨t, rfl, fun w => by rw [List.cons_append, fixedHex, hv]; rfl⟩
  | succ count ih =>
      cases t with
      | nil => cases h
      | cons c t =>
          rw [fixedHex] at h
          rcases Option.bind_eq_some_iff.mp h with ⟨v, hv, h⟩
          have hne : f.skip t ≠ [] := by
            intro hnil
            rw [hnil] at h
            cases h
          rcases ih h with ⟨s, hs, hw⟩
          refine ⟨s, hs, fun w => ?_⟩
          rw [List.cons_append, fixedHex, hv, ← hw w, ← Flags.skip_append hne]
          rfl

theorem bracedHex_append {fuel n m : Nat} {seen : Bool}
    (h : bracedHex f fuel seen n t = some (m, t₁)) :
    ∃ s, t₁ = f.skip s ∧ ∀ w fuel', fuel ≤ fuel' →
      bracedHex f fuel' seen n (t ++ w) = some (m, f.skip (s ++ w)) := by
  -- The brace ends the number, so fuel is never what ends it.
  induction fuel generalizing seen n t with
  | zero => cases h
  | succ fuel ih =>
      rw [bracedHex] at h
      cases hskip : f.skip t with
      | nil => simp [hskip] at h
      | cons c s =>
          simp only [hskip] at h
          split at h
          case isTrue hbrace =>
            split at h
            case isFalse => cases h
            case isTrue hseen =>
              cases h
              refine ⟨s, rfl, fun w fuel' hle => ?_⟩
              obtain ⟨k, rfl⟩ := Nat.exists_eq_add_of_lt hle
              simp only [bracedHex, Flags.skip_cons hskip, hbrace, if_true, hseen]
          case isFalse hbrace =>
            rcases Option.bind_eq_some_iff.mp h with ⟨v, hv, h⟩
            rcases ih h with ⟨s', hs', hw⟩
            refine ⟨s', hs', fun w fuel' hle => ?_⟩
            obtain ⟨k, rfl⟩ := Nat.exists_eq_add_of_lt hle
            simp only [bracedHex, Flags.skip_cons hskip, hbrace, if_false, hv]
            exact hw w (fuel + k) (Nat.le_add_right fuel k)

theorem hexAtom_closes {digits : Nat} {a : Atom} (h : hexAtom f (digits + 1) t = some (a, t₁)) :
    Closes (hexAtom f (digits + 1)) t a t₁ := by
  rw [hexAtom] at h
  split at h
  case h_1 s hskip =>
    rcases Option.bind_eq_some_iff.mp h with ⟨⟨n, _⟩, hread, h⟩
    rcases Option.bind_eq_some_iff.mp h with ⟨c, hc, h⟩
    cases h
    rcases bracedHex_append hread with ⟨s', rfl, hw⟩
    refine Closes.of_skip fun w => ?_
    have hlength : s.length + 1 ≤ (s ++ w).length + 1 := by simp
    simp only [hexAtom, Flags.skip_cons hskip, hw w _ hlength]
    simp [hc]
  -- A digit comes first, and it is the same digit where the text goes on.
  case h_2 hother =>
    rcases Option.bind_eq_some_iff.mp h with ⟨⟨n, _⟩, hread, h⟩
    rcases Option.bind_eq_some_iff.mp h with ⟨c, hc, h⟩
    cases h
    rcases fixedHex_append hread with ⟨s', rfl, hw⟩
    refine Closes.of_skip fun w => ?_
    cases hskip : f.skip t with
    | nil => simp [hskip, fixedHex] at hread
    | cons d s =>
        rw [hexAtom]
        split
        case h_1 heq =>
          rw [Flags.skip_cons hskip] at heq
          exact absurd (by rw [hskip, (List.cons.inj heq).1]) (hother s)
        case h_2 =>
          have hne : f.skip t ≠ [] := by rw [hskip]; exact List.cons_ne_nil d s
          rw [Flags.skip_append hne, hw w]
          simp [hc]

theorem bracedName_append {fuel : Nat} {name : Text} (h : bracedName f fuel t = some (name, t₁))
    (w : Text) {fuel' : Nat} (hle : fuel ≤ fuel') :
    bracedName f fuel' (t ++ w) = some (name, t₁ ++ w) := by
  induction fuel generalizing t name fuel' with
  | zero => cases h
  | succ fuel ih =>
      obtain ⟨k, rfl⟩ := Nat.exists_eq_add_of_lt hle
      rw [bracedName] at h
      cases hskip : f.skip t with
      | nil => simp [hskip] at h
      | cons c s =>
          simp only [hskip] at h
          simp only [bracedName, Flags.skip_cons hskip]
          split at h
          case isTrue hbrace =>
            cases h
            rw [if_pos hbrace]
          case isFalse hbrace =>
            rcases Option.map_eq_some_iff.mp h with ⟨⟨rest, s'⟩, hread, h⟩
            cases h
            rw [if_neg hbrace, ih hread (Nat.le_add_right fuel k)]
            rfl

theorem propertyAtom_closes {negated : Bool} {a : Atom}
    (h : propertyAtom f negated t = some (a, t₁)) : Closes (propertyAtom f negated) t a t₁ := by
  rw [propertyAtom] at h
  -- The character that names the property is in the text already.
  split at h
  case h_1 => cases h
  case h_2 => cases h
  case h_3 s hskip =>
    rcases Option.bind_eq_some_iff.mp h with ⟨⟨name, _⟩, hread, h⟩
    rcases Option.bind_eq_some_iff.mp h with ⟨tables, htables, h⟩
    cases h
    refine .inl fun v => ?_
    have hlength : s.length + 1 ≤ (s ++ ')' :: v).length + 1 := by simp
    simp only [propertyAtom, Flags.skip_cons hskip, bracedName_append hread _ hlength]
    simp [htables]
  case h_4 c s hescape hbrace hskip =>
    rcases Option.bind_eq_some_iff.mp h with ⟨tables, htables, h⟩
    cases h
    refine Closes.of_skip fun w => ?_
    rw [propertyAtom]
    split
    case h_1 heq => rw [Flags.skip_cons hskip] at heq; cases heq
    case h_2 heq =>
      rw [Flags.skip_cons hskip] at heq
      cases heq
      exact absurd rfl hescape
    case h_3 heq =>
      rw [Flags.skip_cons hskip] at heq
      cases heq
      exact absurd rfl hbrace
    case h_4 heq =>
      rw [Flags.skip_cons hskip] at heq
      cases heq
      simp [htables]

theorem edgeName_append {fuel : Nat} {name : Text} (h : edgeName f fuel t = (name, '\x7d' :: t₁))
    (w : Text) {fuel' : Nat} (hle : fuel ≤ fuel') :
    edgeName f fuel' (t ++ w) = (name, '\x7d' :: (t₁ ++ w)) := by
  have hbrace : isEdgeNameChar '\x7d' = false := by decide
  induction fuel generalizing t name fuel' with
  | zero =>
      cases h
      cases fuel' with
      | zero => rfl
      | succ fuel' => simp [edgeName, hbrace]
  | succ fuel ih =>
      obtain ⟨k, rfl⟩ := Nat.exists_eq_add_of_lt hle
      cases t with
      | nil => cases h
      | cons c t =>
          simp only [edgeName] at h
          simp only [List.cons_append, edgeName]
          split at h
          case isTrue hedge =>
            cases hread : edgeName f fuel (f.skip t) with
            | mk rest s =>
                rw [hread] at h
                cases h
                -- The brace is still to come, so the blanks are not the end.
                have hne : f.skip t ≠ [] := by
                  intro hnil
                  rw [hnil] at hread
                  cases fuel <;> cases hread
                rw [if_pos hedge, Flags.skip_append hne, ih hread (Nat.le_add_right fuel k)]
          case isFalse hedge =>
            cases h
            rw [if_neg hedge]

theorem boundaryAtom_closes {a : Atom} (h : boundaryAtom f t = some (a, t₁)) :
    Closes (boundaryAtom f) t a t₁ := by
  refine .inl fun v => ?_
  unfold boundaryAtom at h
  split at h
  case h_1 r =>
    cases hskip : f.skip r with
    | nil => simp [hskip] at h
    | cons c s =>
        simp only [hskip] at h
        simp only [boundaryAtom, List.cons_append, Flags.skip_cons hskip]
        split at h
        case isFalse hedge =>
          cases h
          rw [if_neg hedge]
          rfl
        case isTrue hedge =>
          rw [if_pos hedge]
          split at h
          case h_1 name s' hread =>
            rcases Option.map_eq_some_iff.mp h with ⟨e, he, h⟩
            cases h
            have hlength : s.length + 2 ≤ (s ++ ')' :: v).length + 2 := by simp
            have hread' := edgeName_append hread (')' :: v) hlength
            rw [List.cons_append] at hread'
            simp only [hread', he]
            rfl
          case h_2 => cases h
  -- Without a brace nothing is read; a parenthesis is no brace either.
  case h_2 hbrace =>
    cases h
    cases t with
    | nil => rfl
    | cons c t =>
        rw [List.cons_append, boundaryAtom]
        rintro r heq
        cases heq
        exact hbrace t rfl

theorem escape_closes {a : Atom} (h : escape f t = some (a, t₁)) : Closes (escape f) t a t₁ := by
  cases t with
  | nil => cases h
  | cons c t =>
      simp only [escape] at h
      split at h
      case h_1 | h_2 | h_3 => exact hexAtom_closes h
      case h_4 | h_5 => exact propertyAtom_closes h
      case h_20 => exact boundaryAtom_closes h
      -- What is escaped to itself is one character.
      case h_24 =>
        split at h
        case isFalse => cases h
        case isTrue hescapable =>
          cases h
          refine .inl fun v => ?_
          simp only [List.cons_append, escape, hescapable, if_true]
      all_goals
        cases h
        exact .inl fun v => rfl

/-! ## Counts -/

theorem takeWhile_append_of_dropWhile {p : Char → Bool} (h : t.dropWhile p ≠ []) (w : Text) :
    (t ++ w).takeWhile p = t.takeWhile p ∧ (t ++ w).dropWhile p = t.dropWhile p ++ w := by
  induction t with
  | nil => exact absurd rfl h
  | cons c t ih =>
      cases hc : p c with
      | false => simp [List.takeWhile, List.dropWhile, hc]
      | true =>
          have hrest := ih (by simpa [List.dropWhile, hc] using h)
          simp [List.takeWhile, List.dropWhile, hc, hrest]

theorem countDigits_append {fuel : Nat} {ds : Text} (hfuel : t.length ≤ fuel)
    (h : countDigits f fuel t = (ds, t₁)) (hne : t₁ ≠ []) (w : Text) {fuel' : Nat}
    (hle : fuel ≤ fuel') : countDigits f fuel' (t ++ w) = (ds, t₁ ++ w) := by
  -- The digits end before the text does, so the same number of rounds is enough.
  induction fuel generalizing t ds fuel' with
  | zero =>
      have hnil := List.eq_nil_of_length_eq_zero (Nat.le_zero.mp hfuel)
      subst hnil
      cases h
      exact absurd rfl hne
  | succ fuel ih =>
      obtain ⟨k, rfl⟩ := Nat.exists_eq_add_of_lt hle
      cases t with
      | nil =>
          cases h
          exact absurd rfl hne
      | cons c t =>
          simp only [countDigits] at h
          simp only [List.cons_append, countDigits]
          split at h
          case isTrue hdigit =>
            cases hread : countDigits f fuel (f.skip t) with
            | mk rest s =>
                rw [hread] at h
                cases h
                have hlength := Nat.le_trans (f.length_skip t) (Nat.le_of_succ_le_succ hfuel)
                have hskip : f.skip t ≠ [] := by
                  intro hnil
                  rw [hnil] at hread
                  cases fuel <;> (cases hread; exact absurd rfl hne)
                rw [if_pos hdigit, Flags.skip_append hskip,
                  ih hlength hread (Nat.le_add_right fuel k)]
          case isFalse hdigit =>
            cases h
            rw [if_neg hdigit]
            rfl

/-- The count that digits stand for; without digits there is none. -/
def countValue? (ds : Text) : Option (Option Nat) :=
  if ds = [] then some none
  else
    let n := ds.foldl (fun n d => 10 * n + (d.toNat - 0x30)) 0
    if n ≤ countLimit then some (some n) else none

theorem readCount_eq {ds s : Text}
    (h : countDigits f (t.dropWhile isSpace).length (t.dropWhile isSpace) = (ds, s)) :
    readCount f t = (countValue? ds).map fun n => (n, f.skip (s.dropWhile isSpace)) := by
  unfold readCount countValue?
  dsimp only
  rw [h]
  dsimp only
  split
  case isTrue => rfl
  case isFalse =>
    split
    case isTrue => rfl
    case isFalse => rfl

theorem readCount_append {n : Option Nat} (h : readCount f t = some (n, t₁)) (hne : t₁ ≠ [])
    (w : Text) : readCount f (t ++ w) = some (n, t₁ ++ w) := by
  rcases hdigits : countDigits f (t.dropWhile isSpace).length (t.dropWhile isSpace) with ⟨ds, s⟩
  rw [readCount_eq hdigits] at h
  rcases Option.map_eq_some_iff.mp h with ⟨k, hvalue, h⟩
  cases h
  -- Something is left behind the count, so that neither its digits nor the blanks end the text.
  have hdrop : s.dropWhile isSpace ≠ [] := by
    intro hnil
    rw [hnil] at hne
    exact hne (Flags.skip_nil_eq f)
  have hs : s ≠ [] := by
    rintro rfl
    exact hdrop rfl
  have ht : t.dropWhile isSpace ≠ [] := by
    intro hnil
    rw [hnil] at hdigits
    cases hdigits
    exact hs rfl
  have hdropped := (takeWhile_append_of_dropWhile ht w).2
  have hlength : (t.dropWhile isSpace).length ≤ ((t ++ w).dropWhile isSpace).length := by
    simp [hdropped]
  have hdigits' := countDigits_append (Nat.le_refl _) hdigits hs w hlength
  rw [← hdropped] at hdigits'
  rw [readCount_eq hdigits', hvalue, (takeWhile_append_of_dropWhile hdrop w).2,
    Flags.skip_append hne]
  rfl

end RegexReader
end PathTemplate
