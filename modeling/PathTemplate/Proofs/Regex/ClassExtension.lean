import PathTemplate.Proofs.Regex.Extension

/-!
# ClassExtension — reading a class whose text goes on behind a parenthesis

A class that is read to its end is read in the same way where the text goes on with a closing
parenthesis.

- `openClass_append`   : the opening of a class
- `posixClass_append`, `posixClass_none` : named classes, and what is none
- `classMember_append` : members
- `readClass_append`   : whole classes, with the classes they contain
-/

namespace PathTemplate
namespace RegexReader

variable {f : Flags} {t t₁ : Text} {c : Char}

/-! ## Openings -/

theorem leadingHyphens_append {fuel : Nat} {o o' : OpenClass} (hfuel : t.length ≤ fuel)
    (h : leadingHyphens f fuel o t = (o', t₁)) (hne : t₁ ≠ []) (w : Text) {fuel' : Nat}
    (hle : fuel ≤ fuel') : leadingHyphens f fuel' o (t ++ w) = (o', t₁ ++ w) := by
  induction fuel generalizing o t fuel' with
  | zero =>
      have hnil := List.eq_nil_of_length_eq_zero (Nat.le_zero.mp hfuel)
      subst hnil
      cases h
      exact absurd rfl hne
  | succ fuel ih =>
      obtain ⟨k, rfl⟩ := Nat.exists_eq_add_of_lt hle
      unfold leadingHyphens at h
      split at h
      case h_1 s =>
        have hlength := Nat.le_trans (f.length_skip s) (Nat.le_of_succ_le_succ hfuel)
        -- Otherwise the text would end here, with nothing behind the hyphens.
        have hskip : f.skip s ≠ [] := by
          intro hnil
          rw [hnil] at h
          cases fuel <;> (cases h; exact absurd rfl hne)
        have hrest := ih hlength h (Nat.le_add_right fuel k)
        rw [← Flags.skip_append hskip] at hrest
        exact hrest
      case h_2 hhyphen =>
        cases h
        cases t₁ with
        | nil => exact absurd rfl hne
        | cons c t₁ =>
            rw [List.cons_append, leadingHyphens]
            rintro s heq
            cases heq
            exact hhyphen t₁ rfl

/-- Open a class, after the sign of complement. -/
def openMembers (f : Flags) (o : OpenClass) (t : Text) : OpenClass × Text :=
  let (o, t) := leadingHyphens f t.length o t
  match o.count, t with
  | 0, ']' :: t => (o.add (.single ']') 0, f.skip t)
  | _, t => (o, t)

theorem openClass_eq (f : Flags) (t : Text) :
    openClass f t = match f.skip t with
      | '^' :: t => openMembers f { negated := true } (f.skip t)
      | t => openMembers f { negated := false } t := by
  unfold openClass
  dsimp only
  generalize f.skip t = s
  cases s with
  | nil => rfl
  | cons c s =>
      by_cases hc : c = '^'
      · subst hc
        rfl
      · simp [hc]
        rfl

theorem openMembers_append {o o' : OpenClass} (h : openMembers f o t = (o', t₁)) (hne : t₁ ≠ [])
    (w : Text) : openMembers f o (t ++ w) = (o', t₁ ++ w) := by
  unfold openMembers at h
  cases hhyphens : leadingHyphens f t.length o t with
  | mk o₁ s =>
      rw [hhyphens] at h
      dsimp only at h
      cases s with
      | nil =>
          have hnil : (o₁, []) = (o', t₁) := by simpa using h
          cases hnil
          exact absurd rfl hne
      | cons c s =>
          have hlength : t.length ≤ (t ++ w).length := by simp
          have happend := leadingHyphens_append (Nat.le_refl _) hhyphens (List.cons_ne_nil c s) w
            hlength
          unfold openMembers
          rw [happend]
          dsimp only [List.cons_append]
          -- A bracket that comes first stands for itself, and so it does in the longer text.
          split at h
          case h_1 s' hcount hbracket =>
            cases hbracket
            cases h
            simp only [hcount, Flags.skip_append hne]
          case h_2 hother =>
            cases h
            split
            case h_1 hcount hbracket =>
              cases hbracket
              exact (hother s hcount rfl).elim
            case h_2 => rfl

/-- A class is opened in the same way where its text goes on. -/
theorem openClass_append {o : OpenClass} (h : openClass f t = (o, t₁)) (hne : t₁ ≠ []) (w : Text) :
    openClass f (t ++ w) = (o, t₁ ++ w) := by
  -- Whatever the sign, an opening that ends the text leaves nothing.
  have hnil : ∀ o₀ : OpenClass, openMembers f o₀ [] = (o, t₁) → False := by
    intro o₀ h
    have hempty : (o₀, []) = (o, t₁) := by simpa [openMembers, leadingHyphens] using h
    cases hempty
    exact hne rfl
  rw [openClass_eq] at h ⊢
  cases hskip : f.skip t with
  | nil =>
      rw [hskip] at h
      exact (hnil _ h).elim
  | cons c s =>
      rw [hskip] at h
      rw [Flags.skip_cons hskip]
      split at h
      case h_1 s' heq =>
        cases heq
        have hskip' : f.skip s ≠ [] := by
          intro hempty
          rw [hempty] at h
          exact hnil _ h
        have happend := openMembers_append h hne w
        rw [← Flags.skip_append hskip'] at happend
        exact happend
      case h_2 hother =>
        split
        case h_1 heq =>
          cases heq
          exact (hother s rfl).elim
        case h_2 => exact openMembers_append h hne w

def posixSign : Text → Bool × Text
  | '^' :: t => (true, t)
  | t => (false, t)

theorem posixClass_colon (f : Flags) (t : Text) :
    posixClass f (':' :: t) = match (posixSign t).2.dropWhile (· != ':') with
      | ':' :: ']' :: rest => do
          let a ← CharClass.posix? ((posixSign t).2.takeWhile (· != ':'))
          some (f.complete? (posixSign t).1 (f.foldCase a), rest)
      | _ => none :=
  rfl

/-- The sign of complement does not depend on how the text goes on behind a parenthesis. -/
theorem posixSign_append (t v : Text) :
    posixSign (t ++ ')' :: v) = ((posixSign t).1, (posixSign t).2 ++ ')' :: v) := by
  cases t with
  | nil => rfl
  | cons c t =>
      by_cases hc : c = '^'
      · subst hc
        rfl
      · simp [posixSign, hc]

theorem posixClass_append {a : Option CharClass} (h : posixClass f t = some (a, t₁)) (v : Text) :
    posixClass f (t ++ ')' :: v) = some (a, t₁ ++ ')' :: v) := by
  unfold posixClass at h
  split at h
  case h_2 => cases h
  case h_1 t =>
    change posixClass f (':' :: t) = _ at h
    rw [posixClass_colon] at h
    rw [List.cons_append, posixClass_colon, posixSign_append]
    dsimp only
    split at h
    case h_2 => cases h
    case h_1 rest hrest =>
      have hne : (posixSign t).2.dropWhile (· != ':') ≠ [] := by
        rw [hrest]
        exact List.cons_ne_nil _ _
      rcases takeWhile_append_of_dropWhile hne (')' :: v) with ⟨htake, hdrop⟩
      rcases Option.bind_eq_some_iff.mp h with ⟨b, hb, h⟩
      cases h
      rw [htake, hdrop, hrest]
      simp [hb]

/-- The names of the named classes are small letters. -/
theorem posix?_of_mem {name : Text} (hc : c.isLower = false) (h : c ∈ name) :
    CharClass.posix? name = none := by
  rw [CharClass.posix?, Option.map_eq_none_iff, List.find?_eq_none]
  intro e he heq
  have hname : e.1.toList = name := eq_of_beq heq
  -- There are finitely many names, and they are looked through.
  have hall : ∀ e ∈ CharClass.posix?.named, e.1.toList.all Char.isLower = true := by
    decide +kernel
  have hlower := List.all_eq_true.mp (hall e he) c (hname ▸ h)
  rw [hc] at hlower
  cases hlower

/-- A name that the text leaves open does not become that of a class behind the parenthesis. -/
theorem posixClass_none (h : posixClass f t = none) (v : Text) :
    posixClass f (t ++ ')' :: v) = none := by
  cases t with
  | nil => rfl
  | cons c t =>
      by_cases hc : c = ':'
      · subst hc
        rw [posixClass_colon] at h
        rw [List.cons_append, posixClass_colon, posixSign_append]
        dsimp only
        cases hdrop : (posixSign t).2.dropWhile (· != ':') with
        | nil =>
            -- The name would have the parenthesis.
            have hall := List.dropWhile_eq_nil_iff.mp hdrop
            have hmem : ')' ∈ ((posixSign t).2 ++ ')' :: v).takeWhile (· != ':') := by
              rw [List.takeWhile_append_of_pos hall]
              exact List.mem_append_right _ (by simp [List.takeWhile])
            rw [posix?_of_mem (by decide) hmem]
            split <;> rfl
        | cons d s =>
            have hne : (posixSign t).2.dropWhile (· != ':') ≠ [] := by
              rw [hdrop]
              exact List.cons_ne_nil d s
            rcases takeWhile_append_of_dropWhile hne (')' :: v) with ⟨htake, hdrop'⟩
            rw [htake, hdrop', hdrop]
            rw [hdrop] at h
            split
            case h_2 => rfl
            case h_1 rest heq =>
              cases s with
              | nil => cases heq
              | cons e s =>
                  cases heq
                  simpa using h
      · unfold posixClass
        split
        case h_1 heq => exact absurd (List.cons.inj heq).1 hc
        case h_2 => rfl

/-! ## Members -/

theorem classAtom_closes {a : Atom} (h : classAtom f t = some (a, t₁)) :
    Closes (classAtom f) t a t₁ := by
  unfold classAtom at h
  split at h
  case h_1 => cases h
  case h_2 s => exact escape_closes h
  case h_3 c s hescape =>
    cases h
    refine .inl fun v => ?_
    rw [List.cons_append, classAtom]
    rintro rfl
    exact hescape rfl

theorem startsRange_append (hne : t ≠ []) (hrange : startsRange f t = true → f.skip (t.drop 1) ≠ [])
    (v : Text) : startsRange f (t ++ ')' :: v) = startsRange f t := by
  cases t with
  -- A hyphen at the end of the text begins a range, and the range would need more.
  | nil => exact absurd rfl hne
  | cons c s =>
      by_cases hc : c = '-'
      · subst hc
        cases hskip : f.skip s with
        | nil => exact absurd hskip (hrange (by simp [startsRange, hskip]))
        | cons d s' =>
            simp only [List.cons_append, startsRange, Flags.skip_cons hskip, hskip]
            by_cases hbracket : d = ']'
            · simp [hbracket]
            · by_cases hhyphen : d = '-'
              · simp [hhyphen]
              · simp [hbracket, hhyphen]
      · simp [startsRange, hc]

def Flags.rangeClass? (f : Flags) : Atom → Atom → Option CharClass
  | .char a aOctet, .char b bOctet =>
      if b.toNat < a.toNat then none
      else do
        let lo ← f.classCode? a aOctet
        let hi ← f.classCode? b bOctet
        some (.range lo hi)
  | _, _ => none

theorem classMember_eq (f : Flags) (t : Text) :
    classMember f t = (classAtom f t).bind fun p =>
      if startsRange f (f.skip p.2) then
        (classAtom f (f.skip ((f.skip p.2).drop 1))).bind fun q =>
          (f.rangeClass? p.1 q.1).map fun a => (a, q.2)
      else (f.atomClass? p.1).map fun a => (a, f.skip p.2) := by
  -- The range does not depend on the text that is left.
  have hrange : ∀ (x y : Atom) (s : Text), (match x, y with
      | .char a aOctet, .char b bOctet =>
          if b.toNat < a.toNat then none
          else do
            let lo ← f.classCode? a aOctet
            let hi ← f.classCode? b bOctet
            some (CharClass.range lo hi, s)
      | _, _ => none) = (f.rangeClass? x y).map fun a => (a, s) := by
    intro x y s
    unfold Flags.rangeClass?
    split
    case h_1 a aOctet b bOctet =>
      split
      · rfl
      · cases f.classCode? a aOctet <;> cases f.classCode? b bOctet <;> rfl
    case h_2 => rfl
  unfold classMember
  refine congrArg (Option.bind _) (funext fun p => ?_)
  dsimp only
  split
  · exact congrArg (Option.bind _) (funext fun q => hrange p.1 q.1 q.2)
  · cases f.atomClass? p.1 <;> rfl

theorem classMember_append {a : CharClass} (h : classMember f t = some (a, t₁)) (hne : t₁ ≠ [])
    (v : Text) : classMember f (t ++ ')' :: v) = some (a, t₁ ++ ')' :: v) := by
  rw [classMember_eq] at h ⊢
  rcases Option.bind_eq_some_iff.mp h with ⟨⟨x, s⟩, hatom, h⟩
  dsimp only at h
  -- What follows the first character is not empty, so that it stays what it is.
  have hskip : f.skip s ≠ [] := by
    intro hnil
    split at h
    case isTrue hrange =>
      rw [hnil] at hrange
      cases hrange
    case isFalse =>
      rcases Option.map_eq_some_iff.mp h with ⟨b, _, h⟩
      cases h
      exact hne hnil
  have hs : s ≠ [] := by
    rintro rfl
    exact hskip (Flags.skip_nil_eq f)
  have hatom' := (classAtom_closes hatom).append hs v
  rw [hatom', Option.bind_some]
  dsimp only
  rw [Flags.skip_append hskip]
  split at h
  case isFalse hrange =>
    rcases Option.map_eq_some_iff.mp h with ⟨b, hb, h⟩
    cases h
    rw [startsRange_append hskip (fun h => absurd h hrange), if_neg hrange, hb]
    rfl
  case isTrue hrange =>
    rcases Option.bind_eq_some_iff.mp h with ⟨⟨y, s'⟩, hatom₂, h⟩
    rcases Option.map_eq_some_iff.mp h with ⟨b, hb, h⟩
    cases h
    have hdrop : f.skip ((f.skip s).drop 1) ≠ [] := by
      intro hnil
      rw [hnil] at hatom₂
      cases hatom₂
    have hdrop' : (f.skip s ++ ')' :: v).drop 1 = (f.skip s).drop 1 ++ ')' :: v := by
      cases hc : f.skip s with
      | nil => exact absurd hc hskip
      | cons c s => rfl
    have hatom₂' := (classAtom_closes hatom₂).append hne v
    rw [startsRange_append hskip (fun _ => hdrop), if_pos hrange, hdrop', Flags.skip_append hdrop,
      hatom₂', Option.bind_some, hb]
    rfl

/-! ## Whole classes -/

section Equations

variable {fuel : Nat} {top : OpenClass} {below : List OpenClass} {s : Text}

theorem readClass_nested (h : f.skip t = '[' :: s) :
    readClass f (fuel + 1) top below t = match posixClass f s with
      | some (some a, t) => readClass f fuel (top.add a 0) below t
      | some (none, _) => none
      | none => readClass f fuel (openClass f s).1 (top :: below) (openClass f s).2 := by
  rw [readClass, h]
  rfl

theorem readClass_end (h : f.skip t = ']' :: s) :
    readClass f (fuel + 1) top below t =
      (f.complete? top.negated (f.foldCase (top.operand f).1)).bind fun a =>
        match below with
        | [] => some (a, (top.operand f).2 + 1, s)
        | o :: below => readClass f fuel (o.add a ((top.operand f).2 + 1)) below s := by
  rw [readClass, h]
  rfl

/-- No sign of a class stands at the beginning of a text. -/
def IsMember (t : Text) : Prop :=
  t ≠ [] ∧ (∀ s, t ≠ '[' :: s) ∧ (∀ s, t ≠ ']' :: s) ∧ (∀ s, t ≠ '&' :: '&' :: s) ∧
    (∀ s, t ≠ '-' :: '-' :: s) ∧ ∀ s, t ≠ '~' :: '~' :: s

theorem IsMember.append (h : IsMember t) (v : Text) : IsMember (t ++ ')' :: v) := by
  rcases h with ⟨hnil, hopen, hclose, hand, hminus, htilde⟩
  rcases List.exists_cons_of_ne_nil hnil with ⟨c, r, rfl⟩
  have hone : ∀ {d : Char}, (∀ s, c :: r ≠ d :: s) → ∀ s, c :: r ++ ')' :: v ≠ d :: s := by
    intro d hd s heq
    cases heq
    exact hd r rfl
  -- A sign of two characters cannot be made from one and the parenthesis.
  have htwo : ∀ {d : Char}, d ≠ ')' → (∀ s, c :: r ≠ d :: d :: s) →
      ∀ s, c :: r ++ ')' :: v ≠ d :: d :: s := by
    intro d hparenthesis hd s heq
    cases r with
    | nil =>
        cases heq
        exact hparenthesis rfl
    | cons e r =>
        cases heq
        exact hd r rfl
  exact ⟨List.cons_ne_nil _ _, hone hopen, hone hclose, htwo (by decide) hand,
    htwo (by decide) hminus, htwo (by decide) htilde⟩

theorem readClass_member (h : IsMember (f.skip t)) :
    readClass f (fuel + 1) top below t =
      (classMember f (f.skip t)).bind fun p => readClass f fuel (top.add p.1 0) below p.2 := by
  rcases h with ⟨hnil, hopen, hclose, hand, hminus, htilde⟩
  rw [readClass]
  split
  case h_1 heq => exact absurd heq hnil
  case h_2 heq => exact absurd heq (hopen _)
  case h_3 heq => exact absurd heq (hclose _)
  case h_4 heq => exact absurd heq (hand _)
  case h_5 heq => exact absurd heq (hminus _)
  case h_6 heq => exact absurd heq (htilde _)
  case h_7 => rfl

theorem ne_nil_of_readClass {r : CharClass × Nat × Text}
    (h : readClass f fuel top below t = some r) : t ≠ [] := by
  rintro rfl
  cases fuel with
  | zero => cases h
  | succ fuel =>
      rw [readClass, Flags.skip_nil_eq] at h
      cases h

end Equations

/-- A class is read in the same way where its text goes on with a parenthesis. -/
theorem readClass_append {fuel depth : Nat} {top : OpenClass} {below : List OpenClass}
    {a : CharClass} (h : readClass f fuel top below t = some (a, depth, t₁)) (v : Text)
    {fuel' : Nat} (hle : fuel ≤ fuel') :
    readClass f fuel' top below (t ++ ')' :: v) = some (a, depth, t₁ ++ ')' :: v) := by
  induction fuel generalizing t top below fuel' with
  | zero => cases h
  | succ fuel ih =>
      obtain ⟨k, rfl⟩ := Nat.exists_eq_add_of_lt hle
      have hle' : fuel ≤ fuel + k := Nat.le_add_right fuel k
      -- The cases are those of the first sign; each leaves a shorter run to the hypothesis.
      have hread := h
      rw [readClass] at h
      split at h
      case h_1 => cases h
      case h_2 s hskip =>
        rw [readClass_nested hskip] at hread
        rw [readClass_nested (Flags.skip_cons hskip _)]
        split at hread
        case h_1 b s' hposix =>
          rw [posixClass_append hposix]
          exact ih hread hle'
        case h_2 => cases hread
        case h_3 hposix =>
          rw [posixClass_none hposix, openClass_append rfl (ne_nil_of_readClass hread)]
          exact ih hread hle'
      case h_3 s hskip =>
        rw [readClass_end hskip] at hread
        rcases Option.bind_eq_some_iff.mp hread with ⟨b, hb, hread⟩
        rw [readClass_end (Flags.skip_cons hskip _), hb, Option.bind_some]
        cases below with
        | nil =>
            cases hread
            rfl
        | cons o below => exact ih hread hle'
      case h_4 s hskip =>
        rw [readClass, Flags.skip_cons hskip]
        exact ih h hle'
      case h_5 s hskip =>
        rw [readClass, Flags.skip_cons hskip]
        exact ih h hle'
      case h_6 s hskip =>
        rw [readClass, Flags.skip_cons hskip]
        exact ih h hle'
      case h_7 hnil hopen hclose hand hminus htilde =>
        rcases Option.bind_eq_some_iff.mp h with ⟨⟨b, s⟩, hmember, h⟩
        have hsigns : IsMember (f.skip t) := ⟨hnil, hopen, hclose, hand, hminus, htilde⟩
        have happend := Flags.skip_append hnil (')' :: v)
        rw [readClass_member (happend ▸ hsigns.append v), happend,
          classMember_append hmember (ne_nil_of_readClass h)]
        exact ih h hle'

end RegexReader
end PathTemplate
