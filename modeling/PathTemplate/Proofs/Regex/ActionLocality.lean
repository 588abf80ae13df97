import PathTemplate.Proofs.Regex.Action
import PathTemplate.Proofs.Regex.ClassLocality

/-!
# ActionLocality — an action is read from its own text

- `takes_readCounted` : counted repetition
- `takes_readAction`  : the actions that begin with a plain character or a closing bracket
- `takes_escaped`     : escapes
- `readBracket_local` : classes
- `readSetting_local`, `exists_of_readName` : the flags and the name of a group
- `suffix_of_readAction` : what is left of the text
-/

namespace PathTemplate
namespace RegexReader

variable {f : Flags} {t t₁ : Text} {c : Char} {a : Action}

/-! ## Repetition -/

theorem takes_readSign {least : Nat} {most : Option Nat} (h : readSign least most t = (a, t₁)) :
    Takes f SameHead (fun _ s => some (readSign least most s)) t a t₁ := by
  have hsign (u : Text) (hu : u.head? ≠ some '?') :
      readSign least most u = (.repeatLast least most true, u) := by
    cases u with
    | nil => rfl
    | cons c u =>
        have hc : c ≠ '?' := by simpa using hu
        simp [readSign, turnSign, hc]
  by_cases ht : t.head? = some '?'
  · obtain ⟨u, rfl⟩ := List.head?_eq_some_iff.mp ht
    cases h
    exact Takes.single (by decide) (fun _ _ => rfl) _
  · rw [hsign t ht] at h
    cases h
    exact Takes.nil fun v _ hv => congrArg some (hsign v (hv ▸ ht))

theorem takes_givenBound {least : Nat} {most : Option Nat}
    (h : givenBound f least t = some (most, t₁)) :
    Takes f SameHead (fun _ => givenBound f least) t most t₁ := by
  rcases Option.bind_eq_some_iff.mp h with ⟨⟨n, s⟩, hcount, h⟩
  rcases Option.bind_eq_some_iff.mp h with ⟨m, hm, h⟩
  cases hm
  dsimp only at h
  split at h
  case h_2 => cases h
  case h_1 r _ =>
    change (if least ≤ m then some (some m, r) else none) = some (most, t₁) at h
    split at h
    case isFalse => cases h
    case isTrue hle =>
      cases h
      refine Takes.close (c := '\x7d') (by decide) (takes_readCount hcount) fun _ u r hread => ?_
      rw [givenBound, hread]
      exact if_pos hle

theorem takes_mostBound {least : Nat} {most : Option Nat}
    (h : mostBound f least t = some (most, t₁)) :
    Takes f SameHead (fun _ => mostBound f least) t most t₁ := by
  unfold mostBound at h
  split at h
  case h_1 r _ =>
    cases h
    exact Takes.single (by decide) (fun _ _ => rfl) _
  case h_2 hbrace =>
    rcases takes_givenBound h with ⟨w, rfl, hplain, htake⟩
    refine ⟨w, rfl, hplain, fun v fuel hv hfuel => ?_⟩
    show mostBound f least (w ++ v) = some (most, v)
    unfold mostBound
    split
    case h_1 r heq =>
      -- A brace would stand in front of the text as well.
      have hsame : SameHead (w ++ t₁) ('\x7d' :: r) := heq ▸ hv.symm.append w
      rcases hsame.exists_cons with ⟨r', hr'⟩
      exact absurd hr' (hbrace r')
    case h_2 => exact htake v fuel hv hfuel

theorem takes_bounds {least : Nat} {most : Option Nat} (h : bounds f t = some (least, most, t₁)) :
    Takes f SameHead (fun _ s => (bounds f s).map fun p => ((p.1, p.2.1), p.2.2)) t (least, most)
      t₁ := by
  rcases Option.bind_eq_some_iff.mp h with ⟨⟨n, s⟩, hcount, h⟩
  rcases Option.bind_eq_some_iff.mp h with ⟨m, hm, h⟩
  cases hm
  dsimp only at h
  have hleast := (takes_readCount hcount).skipped f.skips_skip
  split at h
  case h_3 => cases h
  case h_1 =>
    cases h
    refine Takes.close (by decide) hleast fun _ u r hread => ?_
    simp [bounds, hread]
  case h_2 r _ =>
    rcases Option.map_eq_some_iff.mp h with ⟨⟨most, r'⟩, hmost, h⟩
    cases h
    have hbehind := (takes_mostBound hmost).skipped f.skips_skip
    -- Behind the least count a comma has to come, and then the largest count.
    have hcomma : Takes f SameHead
        (fun _ u => if u.head? = some ',' then mostBound f least (f.skip u.tail) else none)
        (',' :: r) most t₁ :=
      Takes.cons (by decide) hbehind fun _ u r hread => by simpa using hread
    refine hleast.bind hcomma fun _ u r r' hread hread' => ?_
    split at hread'
    case isFalse => cases hread'
    case isTrue hhead =>
      obtain ⟨r, rfl⟩ := List.head?_eq_some_iff.mp hhead
      simp only [List.tail_cons] at hread'
      simp [bounds, hread, hread']

theorem takes_readCounted (h : readCounted f t = some (a, t₁)) :
    Takes f SameHead (fun _ => readCounted f) t a t₁ := by
  rcases Option.map_eq_some_iff.mp h with ⟨⟨least, most, r⟩, hbounds, hsign⟩
  have hbehind := (takes_readSign hsign).skipped f.skips_skip
  refine (takes_bounds hbounds).bind hbehind fun _ u r r' hread hread' => ?_
  rcases Option.map_eq_some_iff.mp hread with ⟨q, hq, heq⟩
  rcases q with ⟨least', most', s⟩
  cases heq
  rw [readCounted, hq]
  exact hread'

/-! ## Groups -/

theorem isPlain_of_set? {on : Bool} {g : Flags} (h : f.set? c on = some g) : IsPlain c := by
  refine IsPlain.of_ne (p := fun c => (f.set? c on).isSome) ?_ (by simp [Flags.set?])
  rw [h]
  rfl

theorem readFlags_local {on afterSign isEmpty : Bool} {seen : List Char} {g : Flags} {last : Char}
    (h : readFlags f on afterSign seen t = some (g, isEmpty, last, t₁)) :
    ∃ w, t = w ++ t₁ ∧ Plain w ∧
      ∀ v, readFlags f on afterSign seen (w ++ v) = some (g, isEmpty, last, v) := by
  induction t generalizing f on afterSign seen with
  | nil => cases h
  | cons c t ih =>
      rw [readFlags] at h
      split at h
      case isTrue hend =>
        split at h
        case isTrue => cases h
        case isFalse hsign =>
          cases h
          have hplain : IsPlain last := by
            rcases (Bool.or_eq_true _ _).mp hend with hc | hc
            · exact of_decide_eq_true hc ▸ by decide
            · exact of_decide_eq_true hc ▸ by decide
          refine ⟨[last], rfl, Plain.cons hplain Plain.nil, fun v => ?_⟩
          rw [List.singleton_append, readFlags, if_pos hend, if_neg hsign]
      case isFalse hend =>
        split at h
        case isTrue => cases h
        case isFalse hseen =>
          split at h
          case isTrue hminus =>
            rcases ih h with ⟨w, rfl, hplain, hread⟩
            refine ⟨c :: w, rfl, Plain.cons (hminus ▸ by decide) hplain, fun v => ?_⟩
            rw [List.cons_append, readFlags, if_neg hend, if_neg hseen, if_pos hminus, hread]
          case isFalse hminus =>
            split at h
            case h_2 => cases h
            case h_1 f' hset =>
              rcases ih h with ⟨w, rfl, hplain, hread⟩
              refine ⟨c :: w, rfl, Plain.cons (isPlain_of_set? hset) hplain, fun v => ?_⟩
              rw [List.cons_append, readFlags, if_neg hend, if_neg hseen, if_neg hminus, hset]
              exact hread v

/-- The flags of a group are plain. -/
theorem readSetting_local (h : readSetting f t = some (a, t₁)) :
    ∃ w, t = w ++ t₁ ∧ Plain w ∧ ∀ v, readSetting f (w ++ v) = some (a, v) := by
  rcases Option.bind_eq_some_iff.mp h with ⟨⟨flags, isEmpty, last, r⟩, hread, h⟩
  rcases readFlags_local hread with ⟨w, ht, hplain, hlocal⟩
  dsimp only at h
  split at h
  case isTrue hcolon =>
    cases h
    refine ⟨w, ht, hplain, fun v => ?_⟩
    simp only [readSetting, hlocal]
    exact if_pos hcolon
  case isFalse hcolon =>
    split at h
    case isTrue => cases h
    case isFalse hset =>
      cases h
      refine ⟨w, ht, hplain, fun v => ?_⟩
      simp only [readSetting, hlocal]
      exact (if_neg hcolon).trans (if_neg hset)

/-- A name goes up to the first angle bracket. -/
theorem exists_of_readName (h : readName t = some (a, t₁)) :
    ∃ name, t = name ++ '>' :: t₁ ∧ '>' ∉ name ∧ a = .enterNumbered (some name) := by
  rcases Option.map_eq_some_iff.mp h with ⟨⟨name, rest⟩, hname, h⟩
  cases h
  unfold groupName? at hname
  split at hname
  case h_2 => cases hname
  case h_1 c n rest htake hdrop =>
    split at hname
    case isFalse => cases hname
    case isTrue =>
      cases hname
      refine ⟨c :: n, ?_, ?_, rfl⟩
      · rw [← htake, ← hdrop, List.takeWhile_append_dropWhile]
      · rw [← htake]
        intro hmem
        simpa using List.mem_takeWhile_imp hmem

/-! ## Classes -/

theorem readBracket_local (h : readBracket f t = some (a, t₁)) :
    ∃ o s p cls depth w, openClass f t = (o, s) ∧ t = p ++ s ∧
      ClassText f o [] s cls depth t₁ w ∧
      ∀ v, readBracket f (p ++ (w ++ ']' :: v)) = some (a, v) := by
  unfold readBracket at h
  rcases hopen : openClass f t with ⟨o, s⟩
  rw [hopen] at h
  rcases Option.map_eq_some_iff.mp h with ⟨⟨cls, depth, r⟩, hclass, h⟩
  cases h
  rcases openClass_local hopen with ⟨p, rfl, hp⟩
  rcases readClass_local hclass with ⟨w, hw⟩
  refine ⟨o, s, p, cls, depth, w, rfl, rfl, hw, fun v => ?_⟩
  have hlength : w.length < (w ++ ']' :: v).length + 1 := by
    rw [List.length_append]
    omega
  have hread := (hw.2.2 v).2 _ hlength
  simp only [readBracket, hp _ (hw.2.2 v).1.sameHead, hread, Option.map_some]

/-! ## All actions -/

/-- An escape, behind the escaped character. -/
theorem takes_escaped (h : readAction f '\\' (c :: t) = some (a, t₁)) :
    Takes f f.Alike (fun _ s => readAction f '\\' (c :: s)) t a t₁ := by
  rcases Option.bind_eq_some_iff.mp h with ⟨⟨x, r⟩, hescape, h⟩
  rcases Option.map_eq_some_iff.mp h with ⟨item, hitem, h⟩
  cases h
  refine (takes_escape hescape).map fun _ s r hread => ?_
  simp only [readAction, hread, Option.bind_some, hitem, Option.map_some]

/-- What begins neither an escape nor a group nor a class. -/
theorem takes_readAction (hc : c ≠ '\\' ∧ c ≠ '(' ∧ c ≠ '[') (h : readAction f c t = some (a, t₁)) :
    Takes f SameHead (fun _ => readAction f c) t a t₁ := by
  unfold readAction at h
  split at h
  case h_1 => exact absurd rfl hc.2.1
  case h_4 => exact absurd rfl hc.2.2
  case h_9 => exact absurd rfl hc.1
  case h_5 | h_6 | h_7 => exact takes_readSign (Option.some.inj h)
  case h_8 => exact takes_readCounted h
  -- These read nothing after the first character.
  case h_2 | h_3 | h_11 | h_12 =>
    cases h
    exact Takes.nil fun v _ _ => rfl
  case h_10 =>
    rcases Option.map_eq_some_iff.mp h with ⟨cls, hcls, h⟩
    cases h
    exact Takes.nil fun v _ _ => by simp only [readAction, hcls, Option.map_some]
  case h_13 =>
    rcases Option.map_eq_some_iff.mp h with ⟨cls, hcls, h⟩
    cases h
    refine Takes.nil fun v _ _ => ?_
    rw [readAction]
    · rw [hcls]
      rfl
    all_goals assumption

/-! ## What is left -/

theorem suffix_of_readName (h : readName t = some (a, t₁)) : t₁ <:+ t := by
  rcases exists_of_readName h with ⟨name, rfl, _⟩
  exact ⟨name ++ ['>'], by simp⟩

theorem suffix_of_readOpening (h : readOpening f t = some (a, t₁)) : t₁ <:+ t := by
  cases t with
  | nil =>
      cases h
      exact List.suffix_rfl
  | cons c t =>
      cases Opening.of_readOpening h (List.cons_ne_nil c t) with
      | plain _ hp =>
          cases hp
          exact List.suffix_rfl
      | named hp =>
          exact (suffix_of_readName hp).trans (List.suffix_append ['?', 'P', '<'] _)
      | angled _ hp =>
          exact (suffix_of_readName hp).trans (List.suffix_append ['?', '<'] _)
      | flags _ hp =>
          rcases readSetting_local hp with ⟨w, hw, _⟩
          rw [hw]
          exact ⟨'?' :: w, rfl⟩

/-- An action leaves an end of the text. -/
theorem suffix_of_readAction (h : readAction f c t = some (a, t₁)) : t₁ <:+ t := by
  by_cases hescape : c = '\\'
  · subst hescape
    cases t with
    | nil => cases h
    | cons d t => exact (takes_escaped h).suffix.trans (List.suffix_cons d t)
  by_cases hgroup : c = '('
  · subst hgroup
    exact (suffix_of_readOpening h).trans (f.skips_skip.suffix t)
  by_cases hclass : c = '['
  · subst hclass
    rcases readBracket_local h with ⟨o, s, p, cls, depth, w, _, rfl, hw, _⟩
    rw [hw.1]
    exact ⟨p ++ (w ++ [']']), by simp⟩
  exact (takes_readAction ⟨hescape, hgroup, hclass⟩ h).suffix

end RegexReader
end PathTemplate
