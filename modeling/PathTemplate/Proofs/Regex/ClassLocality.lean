import PathTemplate.Proofs.Regex.ClassExtension
import PathTemplate.Proofs.Regex.Locality

/-!
# ClassLocality — a class is read from its own text

The text of a class ends with its closing bracket, and nothing behind that bracket has a part in
what the class is.

- `Unclosed`         : no bracket in the text closes a class
- `openClass_local`  : the opening of a class
- `posixClass_local`, `posixClass_none_local` : named classes, and what is none
- `classMember_local` : members
- `readClass_local`  : whole classes, with the classes they contain
-/

namespace PathTemplate
namespace RegexReader

variable {f : Flags} {t t₁ u v w : Text} {c : Char}

/-! ## Texts without a closing bracket -/

/-- A text without a closing bracket, but for those that are escaped. -/
inductive Unclosed : Text → Prop
  | nil : Unclosed []
  | cons {c : Char} {t : Text} (hescape : c ≠ '\\') (hclose : c ≠ ']') (ht : Unclosed t) :
      Unclosed (c :: t)
  | escaped (c : Char) {t : Text} (ht : Unclosed t) : Unclosed ('\\' :: c :: t)

theorem Unclosed.append (hu : Unclosed u) (hv : Unclosed v) : Unclosed (u ++ v) := by
  induction hu with
  | nil => exact hv
  | cons hescape hclose _ ih => exact .cons hescape hclose ih
  | escaped c _ ih => exact .escaped c ih

theorem Plain.unclosed (hw : Plain w) : Unclosed w := by
  induction w with
  | nil => exact .nil
  | cons c w ih =>
      rcases List.forall_mem_cons.mp hw with ⟨hc, hw⟩
      refine .cons ?_ ?_ (ih hw)
      · rintro rfl
        exact hc (by simp)
      · rintro rfl
        exact hc (by simp)

/-! ## Openings -/

theorem takes_leadingHyphens {fuel : Nat} {o o' : OpenClass} (hfuel : t.length ≤ fuel)
    (h : leadingHyphens f fuel o t = (o', t₁)) :
    Takes f SameHead (fun fuel s => some (leadingHyphens f fuel o s)) t o' t₁ := by
  induction fuel generalizing o t with
  | zero =>
      obtain rfl := List.eq_nil_of_length_eq_zero (Nat.le_zero.mp hfuel)
      cases h
      exact Takes.atEnd fun fuel => by cases fuel <;> rfl
  | succ fuel ih =>
      unfold leadingHyphens at h
      split at h
      case h_1 s =>
        have hlength := Nat.le_trans (f.length_skip s) (Nat.le_of_succ_le_succ hfuel)
        exact Takes.cons (by decide) ((ih hlength h).skipped f.skips_skip) fun _ _ _ hread => hread
      case h_2 hhyphen =>
        cases h
        refine Takes.nil fun v fuel hv => ?_
        cases fuel with
        | zero => rfl
        | succ fuel =>
            unfold leadingHyphens
            split
            case h_1 s =>
              rcases SameHead.exists_cons hv.symm with ⟨s', rfl⟩
              exact absurd rfl (hhyphen s')
            case h_2 => rfl

/-- If no member has been read, then there was no hyphen. -/
theorem eq_of_leadingHyphens {fuel : Nat} {o o' : OpenClass}
    (h : leadingHyphens f fuel o t = (o', t₁)) :
    o.count ≤ o'.count ∧ (o.count = o'.count → t₁ = t) := by
  induction fuel generalizing o t with
  | zero =>
      cases h
      exact ⟨Nat.le_refl _, fun _ => rfl⟩
  | succ fuel ih =>
      unfold leadingHyphens at h
      split at h
      case h_1 s =>
        have hle : o.count + 1 ≤ o'.count := (ih h).1
        exact ⟨by omega, fun heq => by omega⟩
      case h_2 =>
        cases h
        exact ⟨Nat.le_refl _, fun _ => rfl⟩

theorem openMembers_local {o o' : OpenClass} (h : openMembers f o t = (o', t₁)) :
    ∃ w, t = w ++ t₁ ∧ ∀ v, SameHead v t₁ → openMembers f o (w ++ v) = (o', v) := by
  unfold openMembers at h
  rcases hhyphens : leadingHyphens f t.length o t with ⟨o₁, s⟩
  rw [hhyphens] at h
  rcases (takes_leadingHyphens (Nat.le_refl _) hhyphens).rounds fun u => Nat.le_refl u.length with
    ⟨w, rfl, hplain, htake⟩
  have hread {v : Text} (hv : SameHead v s) :
      leadingHyphens f (w ++ v).length o (w ++ v) = (o₁, v) :=
    Option.some.inj (htake v _ hv (Nat.le_refl _))
  dsimp only at h
  split at h
  case h_1 s' hcount =>
    cases h
    rcases f.skips_skip s' with ⟨b, hs', hblank, hskip⟩
    refine ⟨w ++ ']' :: b, by simpa using hs', fun v hv => ?_⟩
    have hsame : SameHead (']' :: (b ++ v)) (']' :: s') := rfl
    unfold openMembers
    rw [List.append_assoc, List.cons_append, hread hsame]
    simp only [hcount, hskip v hv]
  -- No bracket comes first in the class, nor does one with another rest behind it.
  case h_2 hother =>
    cases h
    refine ⟨w, rfl, fun v hv => ?_⟩
    unfold openMembers
    rw [hread hv]
    dsimp only
    split
    case h_1 v' hcount =>
      rcases SameHead.exists_cons hv.symm with ⟨s', hs'⟩
      exact (hother s' hcount hs').elim
    case h_2 => rfl

/-- The opening of a class, up to its first member that is not a sign. -/
theorem openClass_local {o : OpenClass} (h : openClass f t = (o, t₁)) :
    ∃ w, t = w ++ t₁ ∧ ∀ v, SameHead v t₁ → openClass f (w ++ v) = (o, v) := by
  rw [openClass_eq] at h
  rcases f.skips_skip t with ⟨b, ht, _, hskip⟩
  split at h
  case h_1 s hsign =>
    rw [hsign] at ht hskip
    rcases f.skips_skip s with ⟨b', hs, _, hskip'⟩
    rcases openMembers_local h with ⟨w, hw, hread⟩
    refine ⟨b ++ '^' :: (b' ++ w), ?_, fun v hv => ?_⟩
    · rw [ht, hs, hw]
      simp
    · have hrest : SameHead (w ++ v) (f.skip s) := by
        rw [hw]
        exact hv.append w
      have hopen : f.skip (b ++ '^' :: (b' ++ (w ++ v))) = '^' :: (b' ++ (w ++ v)) := hskip _ rfl
      rw [List.append_assoc, List.cons_append, List.append_assoc, openClass_eq, hopen]
      change openMembers f { negated := true } (f.skip (b' ++ (w ++ v))) = _
      rw [hskip' _ hrest, hread v hv]
  -- Without a sign of complement, none can come from what follows: its head is the same.
  case h_2 hsign =>
    rcases openMembers_local h with ⟨w, hw, hread⟩
    refine ⟨b ++ w, by rw [List.append_assoc, ← hw, ← ht], fun v hv => ?_⟩
    have hrest : SameHead (w ++ v) (f.skip t) := by
      rw [hw]
      exact hv.append w
    rw [List.append_assoc, openClass_eq, hskip _ hrest]
    split
    case h_1 s heq =>
      rw [heq] at hrest
      rcases SameHead.exists_cons hrest.symm with ⟨s', hs'⟩
      exact absurd hs' (hsign s')
    case h_2 => exact hread v hv

/-! ## Named classes -/

theorem posixSign_of_ne (h : u.head? ≠ some '^') : posixSign u = (false, u) := by
  unfold posixSign
  split
  case h_1 => exact absurd rfl h
  case h_2 => rfl

section Colon

variable {n r : Text} {negated : Bool}

theorem bne_colon_of_not_mem (hn : ':' ∉ n) : ∀ c ∈ n, (c != ':') = true := by
  intro c hc
  rw [bne_iff_ne]
  rintro rfl
  exact hn hc

/-- A named class by the text in front of the second colon and behind it. -/
theorem posixClass_eq (hu : posixSign u = (negated, n ++ ':' :: r)) (hn : ':' ∉ n) :
    posixClass f (':' :: u) = if r.head? = some ']' then
      (CharClass.posix? n).map fun a => (f.complete? negated (f.foldCase a), r.tail)
      else none := by
  have htake : (n ++ ':' :: r).takeWhile (· != ':') = n := by
    rw [List.takeWhile_append_of_pos (bne_colon_of_not_mem hn)]
    simp
  have hdrop : (n ++ ':' :: r).dropWhile (· != ':') = ':' :: r := by
    rw [List.dropWhile_append_of_pos (bne_colon_of_not_mem hn)]
    simp
  rw [posixClass_colon, hu]
  dsimp only
  rw [htake, hdrop]
  cases r with
  | nil => rfl
  | cons d r =>
      by_cases hd : d = ']'
      · subst hd
        cases CharClass.posix? n <;> rfl
      · simp [hd]

/-- Without a second colon there is no named class. -/
theorem posixClass_eq_none (hu : posixSign u = (negated, n)) (hn : ':' ∉ n) :
    posixClass f (':' :: u) = none := by
  have hdrop : n.dropWhile (· != ':') = [] :=
    List.dropWhile_eq_nil_iff.mpr (bne_colon_of_not_mem hn)
  rw [posixClass_colon, hu]
  dsimp only
  rw [hdrop]

end Colon

theorem posixClass_local {a : Option CharClass} (h : posixClass f t = some (a, t₁)) :
    ∃ w, t = w ++ t₁ ∧ ∀ v, posixClass f (w ++ v) = some (a, v) := by
  unfold posixClass at h
  split at h
  case h_2 => cases h
  case h_1 u =>
    change posixClass f (':' :: u) = _ at h
    rcases hsign : posixSign u with ⟨negated, n⟩
    by_cases hcolon : ':' ∈ n
    case neg =>
      rw [posixClass_eq_none hsign hcolon] at h
      cases h
    obtain ⟨n, r, rfl, hn⟩ := List.eq_append_cons_of_mem hcolon
    rw [posixClass_eq hsign hn] at h
    by_cases hhead : r.head? = some ']'
    case neg =>
      rw [if_neg hhead] at h
      cases h
    rw [if_pos hhead] at h
    rcases Option.map_eq_some_iff.mp h with ⟨b, hb, h⟩
    cases h
    obtain ⟨rest, rfl⟩ := List.head?_eq_some_iff.mp hhead
    -- The sign of complement, the name, and the two characters that end it.
    have hname {u v : Text} (hu : posixSign u = (negated, n ++ ':' :: ']' :: v)) :
        posixClass f (':' :: u) = some (f.complete? negated (f.foldCase b), v) := by
      rw [posixClass_eq hu hn]
      simp [hb]
    by_cases hcomplement : u.head? = some '^'
    · obtain ⟨u', rfl⟩ := List.head?_eq_some_iff.mp hcomplement
      cases hsign
      refine ⟨':' :: '^' :: (n ++ [':', ']']), by simp, fun v => ?_⟩
      simpa using hname (u := '^' :: (n ++ ':' :: ']' :: v)) rfl
    · rw [posixSign_of_ne hcomplement] at hsign
      cases hsign
      refine ⟨':' :: (n ++ [':', ']']), by simp, fun v => ?_⟩
      have hother : (n ++ ':' :: ']' :: v).head? ≠ some '^' := by
        cases n with
        | nil => simp
        | cons c n => simpa using hcomplement
      simpa using hname (posixSign_of_ne hother)

/-- The sign of complement, where a bracket follows further on. -/
theorem posixSign_local (w : Text) :
    ∃ negated n, ∀ v, posixSign (w ++ ']' :: v) = (negated, n ++ ']' :: v) := by
  by_cases hhead : w.head? = some '^'
  · obtain ⟨w', rfl⟩ := List.head?_eq_some_iff.mp hhead
    exact ⟨true, w', fun v => rfl⟩
  · refine ⟨false, w, fun v => posixSign_of_ne ?_⟩
    cases w with
    | nil => simp
    | cons c w => simpa using hhead

/-- What is no named class up to a bracket is none, whatever follows the bracket. -/
theorem posixClass_none_local (h : posixClass f (w ++ ']' :: t₁) = none) (v : Text) :
    posixClass f (w ++ ']' :: v) = none := by
  have hother {c : Char} {s : Text} (hc : c ≠ ':') : posixClass f (c :: s) = none := by
    unfold posixClass
    split
    case h_1 heq => exact absurd (List.cons.inj heq).1 hc
    case h_2 => rfl
  cases w with
  | nil => exact hother (by decide)
  | cons c w =>
      by_cases hc : c = ':'
      · subst hc
        rcases posixSign_local w with ⟨negated, n, hsign⟩
        rw [List.cons_append] at h ⊢
        by_cases hcolon : ':' ∈ n
        · -- The name is the same, and it ends in the same way or else it does not end.
          obtain ⟨n, r, rfl, hn⟩ := List.eq_append_cons_of_mem hcolon
          have hu (v : Text) :
              posixSign (w ++ ']' :: v) = (negated, n ++ ':' :: (r ++ ']' :: v)) := by
            rw [hsign, List.append_assoc, List.cons_append]
          rw [posixClass_eq (hu _) hn] at h ⊢
          cases r with
          | nil => simpa using h
          | cons d r => simpa using h
        · by_cases hcolon' : ':' ∈ v
          · -- A name that goes on behind the bracket has the bracket in it.
            obtain ⟨x, r, rfl, hx⟩ := List.eq_append_cons_of_mem hcolon'
            have hn : ':' ∉ n ++ ']' :: x := by simp [hcolon, hx]
            have hu : posixSign (w ++ ']' :: (x ++ ':' :: r)) =
                (negated, (n ++ ']' :: x) ++ ':' :: r) := by
              rw [hsign, List.append_assoc, List.cons_append]
            rw [posixClass_eq hu hn, posix?_of_mem (c := ']') (by decide) (by simp)]
            simp
          · exact posixClass_eq_none (hsign v) (by simp [hcolon, hcolon'])
      · exact hother hc

/-! ## Members -/

/-- What is alike behind blanks is alike in front of them. -/
theorem Flags.Alike.of_skip {b : Text} (ht : t = b ++ f.skip t) (h : f.Alike v (f.skip t)) :
    f.Alike (b ++ v) t := by
  cases b with
  | nil =>
      rw [List.nil_append] at ht ⊢
      exact ht ▸ h
  | cons c b =>
      rw [ht]
      refine ⟨rfl, fun d hd hhead => ?_⟩
      -- Blanks do not begin with a brace or a hyphen.
      obtain rfl : c = d := by simpa using hhead
      have hall : ∀ d ∈ ['\x7b', '-'], isSpace d = false ∧ d ≠ '#' :=
        List.forall_mem_cons.mpr ⟨by decide, List.forall_mem_singleton.mpr (by decide)⟩
      have hkept := f.skip_cons_eq (hall c hd) (b ++ f.skip t)
      rw [← List.cons_append, ← ht] at hkept
      have hlength := congrArg List.length ht
      rw [hkept, List.length_append, List.length_cons] at hlength
      omega

theorem startsRange_hyphen (f : Flags) (t : Text) :
    startsRange f ('-' :: t) =
      decide ((f.skip t).head? ≠ some ']' ∧ (f.skip t).head? ≠ some '-') := by
  simp only [startsRange]
  cases f.skip t with
  | nil => rfl
  | cons d s =>
      by_cases hbracket : d = ']'
      · simp [hbracket]
      · by_cases hhyphen : d = '-'
        · simp [hhyphen]
        · simp [hbracket, hhyphen]

theorem exists_of_startsRange (h : startsRange f t = true) :
    ∃ r, t = '-' :: r ∧ (f.skip r).head? ≠ some ']' := by
  cases t with
  | nil => cases h
  | cons c r =>
      by_cases hc : c = '-'
      · subst hc
        rw [startsRange_hyphen, decide_eq_true_eq] at h
        exact ⟨r, rfl, h.1⟩
      · simp [startsRange, hc] at h

theorem startsRange_alike (h : f.Alike v t) : startsRange f v = startsRange f t := by
  cases t with
  | nil => rw [h.sameHead.eq_nil]
  | cons c t =>
      rcases h.sameHead.exists_cons with ⟨s, rfl⟩
      by_cases hc : c = '-'
      · subst hc
        have hhead : (f.skip s).head? = (f.skip t).head? := h.2 '-' (by simp) rfl
        rw [startsRange_hyphen, startsRange_hyphen, hhead]
      · simp [startsRange, hc]

/-- A character or an escape, without the blanks behind it. -/
theorem classAtom_local {a : Atom} (h : classAtom f t = some (a, t₁)) :
    ∃ w, t = w ++ t₁ ∧ w ≠ [] ∧
      (f.PlainComments w → t.head? ≠ some ']' → Unclosed w) ∧
      ∀ v, f.Alike v t₁ → classAtom f (w ++ v) = some (a, v) := by
  unfold classAtom at h
  split at h
  case h_1 => cases h
  case h_2 s =>
    cases s with
    | nil => cases h
    | cons c s =>
        rcases takes_escape h with ⟨w, rfl, hplain, hread⟩
        refine ⟨'\\' :: c :: w, rfl, List.cons_ne_nil _ _, fun hall _ => ?_, fun v hv => ?_⟩
        · exact .escaped c (hplain (hall.of_append (u := ['\\', c]))).unclosed
        · exact hread v w.length hv (Nat.le_refl _)
  case h_3 c s hescape =>
    cases h
    refine ⟨[c], rfl, List.cons_ne_nil _ _, fun _ hclose => ?_, fun v _ => ?_⟩
    · refine .cons (fun hc => hescape hc) ?_ .nil
      simpa using hclose
    · simp only [List.singleton_append, classAtom]

/-- Behind a character that is not escaped comes what is left. -/
theorem eq_of_classAtom {a : Atom} (h : classAtom f (c :: t) = some (a, t₁)) (hc : c ≠ '\\') :
    t₁ = t := by
  unfold classAtom at h
  split at h
  case h_1 heq => cases heq
  case h_2 heq => exact absurd (List.cons.inj heq).1 hc
  case h_3 heq =>
    cases heq
    cases h
    rfl

/-- A character or an escape, with the blanks behind it. -/
theorem classAtom_blanks_local {a : Atom} {s : Text} (h : classAtom f t = some (a, s)) :
    ∃ w, t = w ++ f.skip s ∧ w ≠ [] ∧
      (f.PlainComments w → t.head? ≠ some ']' → Unclosed w) ∧
      ∀ v, f.Alike v (f.skip s) →
        (∃ s', classAtom f (w ++ v) = some (a, s') ∧ f.skip s' = v) ∧ f.Alike (w ++ v) t := by
  rcases classAtom_local h with ⟨w, rfl, hne, hclosed, hread⟩
  rcases f.skips_skip s with ⟨b, hs, hblank, hskip⟩
  refine ⟨w ++ b, by rw [List.append_assoc, ← hs], by simp [hne], fun hall hhead => ?_,
    fun v hv => ?_⟩
  · exact (hclosed hall.of_append_left hhead).append (hblank hall.of_append).unclosed
  · have hatom := hread (b ++ v) (.of_skip hs hv)
    have hrest := hskip v hv.sameHead
    rw [List.append_assoc]
    refine ⟨⟨b ++ v, hatom, hrest⟩, (SameHead.append (Flags.Alike.of_skip hs hv).sameHead w), ?_⟩
    intro c hc hhead
    obtain ⟨c', w', rfl⟩ := List.exists_cons_of_ne_nil hne
    obtain rfl : c' = c := by simpa using hhead
    have hescape : c' ≠ '\\' := by
      rintro rfl
      simp at hc
    -- The character alone has been read, so that its tail is what is left.
    have htail : b ++ v = w' ++ (b ++ v) := eq_of_classAtom hatom hescape
    have htail' : s = w' ++ s := eq_of_classAtom h hescape
    simp only [List.cons_append, List.tail_cons]
    rw [← htail, ← htail', hrest]
    exact hv.sameHead

/-- A member of a class. -/
theorem classMember_local {a : CharClass} (h : classMember f t = some (a, t₁)) :
    ∃ w, t = w ++ t₁ ∧ w ≠ [] ∧
      (f.PlainComments w → t.head? ≠ some ']' → Unclosed w) ∧
      ∀ v, f.Alike v t₁ → classMember f (w ++ v) = some (a, v) ∧ f.Alike (w ++ v) t := by
  rw [classMember_eq] at h
  rcases Option.bind_eq_some_iff.mp h with ⟨⟨x, s⟩, hatom, h⟩
  rcases classAtom_blanks_local hatom with ⟨w, ht, hne, hclosed, hread⟩
  split at h
  case isFalse hrange =>
    rcases Option.map_eq_some_iff.mp h with ⟨b, hb, h⟩
    cases h
    refine ⟨w, ht, hne, hclosed, fun v hv => ⟨?_, (hread v hv).2⟩⟩
    rcases (hread v hv).1 with ⟨s', hatom', hskip'⟩
    rw [classMember_eq, hatom', Option.bind_some]
    simp only [hskip', startsRange_alike hv, if_neg hrange, hb, Option.map_some]
  case isTrue hrange =>
    rcases Option.bind_eq_some_iff.mp h with ⟨⟨y, rest⟩, hatom', h⟩
    rcases Option.map_eq_some_iff.mp h with ⟨b, hb, h⟩
    cases h
    -- Behind the hyphen and its blanks comes the end of the range.
    obtain ⟨r, hhyphen, hhead⟩ := exists_of_startsRange hrange
    dsimp only at hhyphen
    rw [hhyphen] at hatom'
    change classAtom f (f.skip r) = _ at hatom'
    rcases f.skips_skip r with ⟨x', hr, hblank, hskip⟩
    rcases classAtom_local hatom' with ⟨w', hr', hne', hclosed', hread'⟩
    have hfirst : t = (w ++ ['-']) ++ r := by rw [ht, hhyphen, List.append_cons]
    have hwhole : t = w ++ '-' :: (x' ++ w') ++ rest := by
      rw [hfirst, hr, hr']
      simp
    refine ⟨w ++ '-' :: (x' ++ w'), hwhole, by simp, fun hall hclose => ?_, fun v hv => ?_⟩
    · have hcomments : f.PlainComments (x' ++ w') := hall.of_append.of_append (u := ['-'])
      refine (hclosed hall.of_append_left hclose).append (.cons (by decide) (by decide) ?_)
      exact (hblank hcomments.of_append_left).unclosed.append (hclosed' hcomments.of_append hhead)
    · have hsame : SameHead (w' ++ v) (f.skip r) := by
        rw [hr']
        exact hv.sameHead.append w'
      have hend := hskip _ hsame
      have halike : f.Alike ('-' :: (x' ++ (w' ++ v))) (f.skip s) := by
        rw [hhyphen]
        refine ⟨rfl, fun c _ _ => ?_⟩
        rw [List.tail_cons, List.tail_cons, hend]
        exact hsame
      rcases hread _ halike with ⟨⟨s', hatom'', hskip'⟩, hbegin⟩
      have hpiece : w ++ '-' :: (x' ++ w') ++ v = w ++ '-' :: (x' ++ (w' ++ v)) := by simp
      rw [hpiece]
      refine ⟨?_, hbegin⟩
      have hrange' := (startsRange_alike halike).trans hrange
      rw [classMember_eq, hatom'', Option.bind_some]
      dsimp only
      rw [hskip', if_pos hrange', List.drop_one, List.tail_cons, hend, hread' v hv,
        Option.bind_some, hb, Option.map_some]

/-! ## Whole classes -/

theorem Flags.Alike.of_head {s : Text} (hc : c ≠ '\x7b' ∧ c ≠ '-') (s' : Text) :
    f.Alike (c :: s') (c :: s) := by
  refine ⟨rfl, fun d hd hhead => ?_⟩
  obtain rfl : c = d := by simpa using hhead
  simp [hc] at hd

/-- A sign of a class has at most two characters. -/
theorem IsMember.of_sameHead {s s' : Text} (h : IsMember (c :: s)) (hs : SameHead s' s) :
    IsMember (c :: s') := by
  rcases h with ⟨_, hopen, hclose, hand, hminus, htilde⟩
  have hone {d : Char} (hd : ∀ r, c :: s ≠ d :: r) (r : Text) : c :: s' ≠ d :: r := by
    intro heq
    cases heq
    exact hd s rfl
  have htwo {d : Char} (hd : ∀ r, c :: s ≠ d :: d :: r) (r : Text) : c :: s' ≠ d :: d :: r := by
    intro heq
    cases heq
    rcases SameHead.exists_cons hs.symm with ⟨r', rfl⟩
    exact hd r' rfl
  exact ⟨List.cons_ne_nil _ _, hone hopen, hone hclose, htwo hand, htwo hminus, htwo htilde⟩

/-- What is read of a class: the text up to its closing bracket.  If no class is nested in it then
no other bracket closes it. -/
def ClassText (f : Flags) (top : OpenClass) (below : List OpenClass) (t : Text) (a : CharClass)
    (depth : Nat) (t₁ w : Text) : Prop :=
  t = w ++ ']' :: t₁ ∧ (below = [] → '[' ∉ w → f.PlainComments w → Unclosed w) ∧
    ∀ v, f.Alike (w ++ ']' :: v) t ∧ ∀ fuel, w.length < fuel →
      readClass f fuel top below (w ++ ']' :: v) = some (a, depth, v)

/-- A piece behind blanks, in front of the text of a class. -/
theorem ClassText.prepend {top top' : OpenClass} {below below' : List OpenClass} {a : CharClass}
    {depth : Nat} {s : Text} (h : ClassText f top' below' s a depth t₁ w)
    (hskip : f.skip t = c :: (u ++ s))
    (hclosed : below = [] → '[' ∉ c :: u →
      below' = [] ∧ (f.PlainComments (c :: u) → Unclosed (c :: u)))
    (halike : ∀ v, f.Alike (w ++ ']' :: v) s → f.Alike (c :: (u ++ (w ++ ']' :: v))) (f.skip t))
    (hread : ∀ fuel v x, f.Alike (w ++ ']' :: v) s → f.skip x = c :: (u ++ (w ++ ']' :: v)) →
      readClass f (fuel + 1) top below x = readClass f fuel top' below' (w ++ ']' :: v)) :
    ∃ w, ClassText f top below t a depth t₁ w := by
  rcases h with ⟨rfl, hrest, hw⟩
  rcases f.skips_skip t with ⟨b, ht, hblank, hkept⟩
  refine ⟨b ++ c :: (u ++ w), ?_, fun hbelow hmem hall => ?_, fun v => ⟨?_, fun fuel hfuel => ?_⟩⟩
  · rw [hskip] at ht
    simpa using ht
  · rw [← List.cons_append, List.mem_append, List.mem_append, not_or, not_or] at hmem
    rcases hclosed hbelow hmem.2.1 with ⟨hbelow', hu⟩
    rw [← List.cons_append] at hall ⊢
    have hrest' := hrest hbelow' hmem.2.2 hall.of_append.of_append
    exact (hblank hall.of_append_left).unclosed.append ((hu hall.of_append.of_append_left).append hrest')
  · rw [List.append_assoc, List.cons_append, List.append_assoc]
    exact .of_skip ht (halike v (hw v).1)
  · rw [List.length_append, List.length_cons, List.length_append] at hfuel
    obtain ⟨k, rfl⟩ : ∃ k, fuel = k + 1 := ⟨fuel - 1, by omega⟩
    -- Blanks in front are skipped whatever comes behind, if it begins with the same character.
    have hsame : SameHead (c :: (u ++ (w ++ ']' :: v))) (f.skip t) := by
      rw [hskip]
      rfl
    rw [List.append_assoc, List.cons_append, List.append_assoc,
      hread k v _ (hw v).1 (hkept _ hsame)]
    exact (hw v).2 k (by omega)

/-- A sign of two characters. -/
theorem ClassText.sign {top top' : OpenClass} {below : List OpenClass} {a : CharClass}
    {depth : Nat} {s : Text} (h : ClassText f top' below s a depth t₁ w)
    (hskip : f.skip t = c :: c :: s) (hc : c ∈ ['&', '-', '~'])
    (hread : ∀ fuel x s', f.skip x = c :: c :: s' →
      readClass f (fuel + 1) top below x = readClass f fuel top' below s') :
    ∃ w, ClassText f top below t a depth t₁ w := by
  refine h.prepend (u := [c]) hskip (fun hbelow _ => ⟨hbelow, fun _ => ?_⟩) (fun v _ => ?_)
    fun fuel v x _ hx => hread fuel x _ hx
  · have hkept : c ≠ '\\' ∧ c ≠ ']' := by
      constructor
      · rintro rfl
        simp at hc
      · rintro rfl
        simp at hc
    exact .cons hkept.1 hkept.2 (.cons hkept.1 hkept.2 .nil)
  · -- Of the three signs the hyphens alone matter, and behind one of them comes the other.
    rw [hskip]
    refine ⟨rfl, fun d hd hhead => ?_⟩
    obtain rfl : c = d := by simpa using hhead
    obtain rfl : c = '-' := by
      rcases List.mem_cons.mp hd with rfl | hd
      · simp at hc
      · simpa using hd
    rw [List.tail_cons, List.tail_cons, List.singleton_append, f.skip_cons_eq (by decide),
      f.skip_cons_eq (by decide)]
    rfl

section Pieces

variable {top o : OpenClass} {below : List OpenClass} {a x : CharClass} {depth : Nat}
variable {p s : Text}

theorem ClassText.named (h : ClassText f (top.add x 0) below s a depth t₁ w)
    (hskip : f.skip t = '[' :: (p ++ s)) (hposix : ∀ v, posixClass f (p ++ v) = some (some x, v)) :
    ∃ w, ClassText f top below t a depth t₁ w := by
  refine h.prepend hskip (fun _ hmem => by simp at hmem) (fun v _ => ?_) ?_
  · rw [hskip]
    exact .of_head (by decide) _
  · intro k v y _ hy
    rw [readClass_nested hy, hposix]

theorem ClassText.nested (h : ClassText f o (top :: below) s a depth t₁ w)
    (hskip : f.skip t = '[' :: (p ++ s)) (hposix : posixClass f (p ++ s) = none)
    (hopen : ∀ v, SameHead v s → openClass f (p ++ v) = (o, v)) :
    ∃ w, ClassText f top below t a depth t₁ w := by
  refine h.prepend hskip (fun _ hmem => by simp at hmem) (fun v _ => ?_) ?_
  · rw [hskip]
    exact .of_head (by decide) _
  · intro k v y hv hy
    -- What begins no named class here begins none in front of another text either.
    have hnone : posixClass f (p ++ (w ++ ']' :: v)) = none := by
      rw [h.1, ← List.append_assoc] at hposix
      rw [← List.append_assoc]
      exact posixClass_none_local hposix v
    rw [readClass_nested hy, hnone, hopen _ hv.sameHead]

/-- The bracket that closes a class within another one. -/
theorem ClassText.inner
    (h : ClassText f (o.add x ((top.operand f).2 + 1)) below s a depth t₁ w)
    (hskip : f.skip t = ']' :: s)
    (hx : f.complete? top.negated (f.foldCase (top.operand f).1) = some x) :
    ∃ w, ClassText f top (o :: below) t a depth t₁ w := by
  refine h.prepend (u := []) hskip (fun hbelow => by cases hbelow) (fun v _ => ?_) ?_
  · rw [hskip]
    exact .of_head (by decide) _
  · intro k v y _ hy
    rw [readClass_end hy, hx, Option.bind_some]
    rfl

/-- The bracket that closes the whole class. -/
theorem ClassText.outer (hskip : f.skip t = ']' :: t₁)
    (hx : f.complete? top.negated (f.foldCase (top.operand f).1) = some x) :
    ∃ w, ClassText f top [] t x ((top.operand f).2 + 1) t₁ w := by
  rcases f.skips_skip t with ⟨b, ht, hblank, hkept⟩
  refine ⟨b, hskip ▸ ht, fun _ _ hall => (hblank hall).unclosed, fun v => ⟨?_, fun k hk => ?_⟩⟩
  · refine .of_skip ht ?_
    rw [hskip]
    exact .of_head (by decide) _
  · obtain ⟨k, rfl⟩ : ∃ m, k = m + 1 := ⟨k - 1, by omega⟩
    have hend : f.skip (b ++ ']' :: v) = ']' :: v := hkept _ (by rw [hskip]; rfl)
    rw [readClass_end hend, hx, Option.bind_some]

theorem ClassText.member (h : ClassText f (top.add x 0) below s a depth t₁ w)
    (hsigns : IsMember (f.skip t)) (hmember : classMember f (f.skip t) = some (x, s)) :
    ∃ w, ClassText f top below t a depth t₁ w := by
  rcases classMember_local hmember with ⟨p, hp, hne, hclosed, hlocal⟩
  obtain ⟨c, p, rfl⟩ := List.exists_cons_of_ne_nil hne
  refine h.prepend hp (fun hbelow _ => ⟨hbelow, fun hall => hclosed hall ?_⟩)
    (fun v hv => (hlocal _ hv).2) ?_
  · intro hhead
    obtain ⟨r, hr⟩ := List.head?_eq_some_iff.mp hhead
    exact hsigns.2.2.1 r hr
  · intro k v y hv hy
    have hsigns' : IsMember (f.skip y) := by
      rw [hp] at hsigns
      rw [hy]
      exact hsigns.of_sameHead (hv.sameHead.append p)
    have hmember' : classMember f (f.skip y) = some (x, w ++ ']' :: v) := by
      rw [hy]
      exact (hlocal _ hv).1
    rw [readClass_member hsigns', hmember', Option.bind_some]

end Pieces

/-- A class is read from its own text. -/
theorem readClass_local {fuel depth : Nat} {top : OpenClass} {below : List OpenClass}
    {a : CharClass} (h : readClass f fuel top below t = some (a, depth, t₁)) :
    ∃ w, ClassText f top below t a depth t₁ w := by
  -- Each round takes a piece off, and the induction is about the text of the class behind it.
  induction fuel generalizing t top below with
  | zero => cases h
  | succ fuel ih =>
      have hread := h
      rw [readClass] at h
      split at h
      case h_1 => cases h
      case h_2 s hskip =>
        rw [readClass_nested hskip] at hread
        split at hread
        case h_1 hposix =>
          rcases posixClass_local hposix with ⟨p, rfl, hp⟩
          rcases ih hread with ⟨w, hw⟩
          exact hw.named hskip hp
        case h_2 => cases hread
        case h_3 hposix =>
          rcases hopen : openClass f s with ⟨o, s'⟩
          rw [hopen] at hread
          rcases openClass_local hopen with ⟨p, rfl, hp⟩
          rcases ih hread with ⟨w, hw⟩
          exact hw.nested hskip hposix hp
      case h_3 s hskip =>
        rw [readClass_end hskip] at hread
        rcases Option.bind_eq_some_iff.mp hread with ⟨x, hx, hread⟩
        cases below with
        | nil =>
            cases hread
            exact ClassText.outer hskip hx
        | cons o below =>
            rcases ih hread with ⟨w, hw⟩
            exact hw.inner hskip hx
      case h_4 hskip | h_5 hskip | h_6 hskip =>
        rcases ih h with ⟨w, hw⟩
        refine hw.sign hskip (by decide) fun k x s' hx => ?_
        rw [readClass, hx]
        rfl
      case h_7 hnil hopen hclose hand hminus htilde =>
        rcases Option.bind_eq_some_iff.mp h with ⟨⟨x, s⟩, hmember, h⟩
        rcases ih h with ⟨w, hw⟩
        exact hw.member ⟨hnil, hopen, hclose, hand, hminus, htilde⟩ hmember

end RegexReader
end PathTemplate
