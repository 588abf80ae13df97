import PathTemplate.Proofs.Regex.ClassExtension
import PathTemplate.Proofs.Regex.Groups

/-!
# Action — the reader as actions on its state

One round of the reader does two things that do not depend on each other.  It reads an action from
the text, for which it needs only the flags, and it applies the action to its state.

- `Action`        : what one round does to the state
- `State.act?`  : the state after an action
- `readAction`    : the action at the beginning of a text
- `readItem_eq`   : a round reads an action and applies it
- `readAction_closes` : the action where the text goes on behind a parenthesis
- `addsNoGroup_of_readAction` : no action adds a group that the state has not opened
-/

namespace PathTemplate
namespace RegexReader

/-! ## Actions -/

/-- What one round of the reader does to its state. -/
inductive Action
  | enterNumbered (name : Option Text)
  | enter (flags : Flags)
  | setFlags (flags : Flags)
  | leave
  | branch
  | push (item : Item)
  | repeatLast (least : Nat) (most : Option Nat) (greedy : Bool)

def State.act? (s : State) : Action → Option State
  | .enterNumbered none => some s.enterNumbered
  | .enterNumbered (some name) =>
      if s.names.contains name then none
      else some { s.enterNumbered with names := name :: s.names }
  | .enter flags => some (s.enter none flags)
  | .setFlags flags => some ({ s with flags }.push { pattern := .empty, repeatable := false })
  | .leave => s.leave?
  | .branch => some { s with items := [], branches := .row s.items :: s.branches }
  | .push item => some (s.push item)
  | .repeatLast least most greedy =>
      match s.items with
      | [] => none
      | item :: items =>
          if item.repeatable then
            some { s with
              items := { pattern := item.pattern.repetition least most (greedy != s.flags.swapGreed)
                         depth := item.depth + 1 } :: items }
          else none

/-! ## Reading them -/

def readName (t : Text) : Option (Action × Text) :=
  (groupName? t).map fun p => (.enterNumbered (some p.1), p.2)

/-- Flags, for a group that is not recorded or from here on. -/
def readSetting (f : Flags) (t : Text) : Option (Action × Text) := do
  let (flags, isEmpty, last, t) ← readFlags f true false [] t
  if last = ':' then some (.enter flags, t)
  else if isEmpty then none
  else some (.setFlags flags, t)

/-- A group or flags, after the parenthesis and blanks. -/
def readOpening (f : Flags) : Text → Option (Action × Text)
  | '?' :: '=' :: _ | '?' :: '!' :: _ => none
  | '?' :: '<' :: '=' :: _ | '?' :: '<' :: '!' :: _ => none
  | '?' :: 'P' :: '<' :: t => readName t
  | '?' :: '<' :: t => readName t
  | '?' :: t => readSetting f t
  | t => some (.enterNumbered none, t)

/-- Whether a sign of repetition is not turned by a question mark, and the text behind that. -/
def turnSign : Text → Bool × Text
  | '?' :: t => (false, t)
  | t => (true, t)

def readSign (least : Nat) (most : Option Nat) (t : Text) : Action × Text :=
  (.repeatLast least most (turnSign t).1, (turnSign t).2)

/-- A largest count that is given, and the text behind the brace. -/
def givenBound (f : Flags) (least : Nat) (t : Text) : Option (Option Nat × Text) := do
  let (most, t) ← readCount f t
  let most ← most
  match t with
  | '\x7d' :: t => if least ≤ most then some (some most, t) else none
  | _ => none

/-- The largest count of a repetition, behind the comma, and the text behind the brace. -/
def mostBound (f : Flags) (least : Nat) : Text → Option (Option Nat × Text)
  | '\x7d' :: t => some (none, t)
  | t => givenBound f least t

def bounds (f : Flags) (t : Text) : Option (Nat × Option Nat × Text) := do
  let (least, t) ← readCount f (f.skip t)
  let least ← least
  match t with
  | '\x7d' :: t => some (least, some least, t)
  | ',' :: t => (mostBound f least (f.skip t)).map fun p => (least, p)
  | _ => none

def readCounted (f : Flags) (t : Text) : Option (Action × Text) :=
  (bounds f t).map fun p => readSign p.1 p.2.1 (f.skip p.2.2)

def readBracket (f : Flags) (t : Text) : Option (Action × Text) :=
  let (o, t) := openClass f t
  (readClass f (t.length + 1) o [] t).map fun p =>
    (.push { pattern := .chars p.1, depth := p.2.1 }, p.2.2)

def readAction (f : Flags) (c : Char) (t : Text) : Option (Action × Text) :=
  match c with
  | '(' => readOpening f (f.skip t)
  | ')' => some (.leave, t)
  | '|' => some (.branch, t)
  | '[' => readBracket f t
  | '?' => some (readSign 0 (some 1) t)
  | '*' => some (readSign 0 none t)
  | '+' => some (readSign 1 none t)
  | '\x7b' => readCounted f t
  | '\\' => (escape f t).bind fun p => (f.atomItem? p.1).map fun item => (.push item, p.2)
  | '.' => f.dot?.map fun a => (.push { pattern := .chars a }, t)
  | '^' =>
      let l := if f.multiLine then .lineStart f.crlf else .textStart
      some (.push { pattern := .look l }, t)
  | '$' =>
      let l := if f.multiLine then .lineEnd f.crlf else .textEnd
      some (.push { pattern := .look l }, t)
  | c => (f.charClass? c false).map fun a => (.push { pattern := .chars a }, t)

def State.perform (s : State) (r : Option (Action × Text)) : Option (State × Text) :=
  r.bind fun p => (s.act? p.1).map fun s => (s, p.2)

/-! ### A round of the reader -/

variable {f : Flags} {s s' : State} {t t₁ : Text} {c : Char} {a : Action}

theorem openNamed_eq (s : State) (t : Text) : openNamed s t = s.perform (readName t) := by
  unfold openNamed readName
  cases groupName? t with
  | none => rfl
  | some p =>
      simp only [bind, Option.bind_some, Option.map_some, State.perform, State.act?]
      split
      · rfl
      · rfl

theorem setFlags_eq (s : State) (t : Text) :
    (do let (flags, isEmpty, last, t) ← readFlags s.flags true false [] t
        if last = ':' then some (s.enter none flags, t)
        else if isEmpty then none
        else some ({ s with flags }.push { pattern := .empty, repeatable := false }, t)) =
      s.perform (readSetting s.flags t) := by
  unfold readSetting
  rcases readFlags s.flags true false [] t with _ | ⟨flags, isEmpty, last, r⟩
  · rfl
  · simp only [bind, Option.bind_some]
    split
    · rfl
    · split
      · rfl
      · rfl

theorem openGroup_eq (s : State) (t : Text) :
    openGroup s t = s.perform (readOpening s.flags (s.flags.skip t)) := by
  unfold openGroup
  generalize s.flags.skip t = x
  split
  case h_1 | h_2 | h_3 | h_4 => rfl
  case h_5 => exact openNamed_eq s _
  -- The equations of the later cases need that the earlier ones do not apply.
  case h_6 r hequals hnot =>
    rw [readOpening]
    · exact openNamed_eq s r
    · exact hequals
    · exact hnot
  case h_7 r hequals hnot hbehind hbehind' hnamed hangled =>
    rw [readOpening]
    · exact setFlags_eq s r
    all_goals assumption
  case h_8 =>
    rw [readOpening]
    · rfl
    all_goals assumption

theorem repeatLast?_eq (s : State) (least : Nat) (most : Option Nat) (t : Text) :
    s.repeatLast? least most t = s.perform (some (readSign least most t)) := by
  unfold State.repeatLast? readSign State.perform
  rw [Option.bind_some, State.act?]
  cases s.items with
  | nil => rfl
  | cons item items =>
      cases hrepeatable : item.repeatable with
      | false => simp [hrepeatable]
      | true =>
          simp only [hrepeatable, Bool.not_true, Bool.false_eq_true, if_false, if_true,
            Option.map_some]
          rfl

theorem givenBound_eq (s : State) (least : Nat) (t : Text) :
    (do let (most, t) ← readCount s.flags t
        let most ← most
        match t with
        | '\x7d' :: t =>
            if least ≤ most then s.repeatLast? least (some most) (s.flags.skip t) else none
        | _ => none) =
      (givenBound s.flags least t).bind fun p => s.repeatLast? least p.1 (s.flags.skip p.2) := by
  unfold givenBound
  -- No count, a count left out, a count at the end, and a count with something after it.
  rcases readCount s.flags t with _ | ⟨_ | most, _ | ⟨c, r⟩⟩
  · rfl
  · rfl
  · rfl
  · rfl
  · by_cases hc : c = '\x7d'
    · subst hc
      by_cases hle : least ≤ most
      · simp [hle]
      · simp [hle]
    · simp [hc]

theorem mostBound_eq (s : State) (least : Nat) (t : Text) :
    (match t with
      | '\x7d' :: t => s.repeatLast? least none (s.flags.skip t)
      | t => do
          let (most, t) ← readCount s.flags t
          let most ← most
          match t with
          | '\x7d' :: t =>
              if least ≤ most then s.repeatLast? least (some most) (s.flags.skip t) else none
          | _ => none) =
      (mostBound s.flags least t).bind fun p => s.repeatLast? least p.1 (s.flags.skip p.2) := by
  cases t with
  | nil => exact givenBound_eq s least []
  | cons c r =>
      have hgiven := givenBound_eq s least (c :: r)
      by_cases hc : c = '\x7d'
      · subst hc
        rfl
      · simpa [mostBound, hc] using hgiven

theorem countedRepetition_eq (s : State) (t : Text) :
    countedRepetition s t = s.perform (readCounted s.flags t) := by
  -- The counts are read in the same order, only the repetition itself is put off.
  have hbounds : countedRepetition s t =
      (bounds s.flags t).bind fun p => s.repeatLast? p.1 p.2.1 (s.flags.skip p.2.2) := by
    unfold countedRepetition bounds
    dsimp only
    rcases readCount s.flags (s.flags.skip t) with _ | ⟨_ | least, _ | ⟨c, r⟩⟩
    · rfl
    · rfl
    · rfl
    · rfl
    · by_cases hbrace : c = '\x7d'
      · subst hbrace
        rfl
      · by_cases hcomma : c = ','
        · subst hcomma
          have hmost := mostBound_eq s least (s.flags.skip r)
          simp only [bind, Option.bind_some, Option.bind_map] at hmost ⊢
          exact hmost
        · simp [hbrace, hcomma]
  rw [hbounds, readCounted]
  cases bounds s.flags t with
  | none => rfl
  | some p => exact repeatLast?_eq s p.1 p.2.1 _

/-- A round of the reader reads an action and applies it. -/
theorem readItem_eq (s : State) (c : Char) (t : Text) :
    readItem s c t = s.perform (readAction s.flags c t) := by
  unfold readItem
  split
  case h_1 => exact openGroup_eq s t
  case h_2 => rfl
  case h_3 => rfl
  -- A class is opened and then read, and only the class itself is pushed.
  case h_4 =>
    show _ = s.perform (readBracket s.flags t)
    rcases hopen : openClass s.flags t with ⟨o, r⟩
    simp only [readBracket, hopen]
    rcases readClass s.flags (r.length + 1) o [] r with _ | ⟨a, depth, r'⟩
    · rfl
    · rfl
  case h_5 => exact repeatLast?_eq s _ _ t
  case h_6 => exact repeatLast?_eq s _ _ t
  case h_7 => exact repeatLast?_eq s _ _ t
  case h_8 => exact countedRepetition_eq s t
  case h_9 =>
    show _ = s.perform ((escape s.flags t).bind fun p =>
      (s.flags.atomItem? p.1).map fun item => (.push item, p.2))
    cases escape s.flags t with
    | none => rfl
    | some p => cases hitem : s.flags.atomItem? p.1 <;> simp [State.perform, State.act?, hitem]
  case h_10 =>
    show _ = s.perform (s.flags.dot?.map fun a => (.push { pattern := .chars a }, t))
    cases s.flags.dot? <;> rfl
  case h_11 => rfl
  case h_12 => rfl
  case h_13 =>
    rw [readAction]
    · cases s.flags.charClass? c false <;> rfl
    all_goals assumption

/-! ## Where the text goes on -/

theorem readFlags_append {on afterSign isEmpty : Bool} {seen : List Char} {g : Flags} {last : Char}
    (h : readFlags f on afterSign seen t = some (g, isEmpty, last, t₁)) (w : Text) :
    readFlags f on afterSign seen (t ++ w) = some (g, isEmpty, last, t₁ ++ w) := by
  -- One flag after the other, up to the colon or parenthesis that ends them.
  induction t generalizing f on afterSign seen with
  | nil => cases h
  | cons c t ih =>
      rw [readFlags] at h
      rw [List.cons_append, readFlags]
      split at h
      case isTrue hend =>
        rw [if_pos hend]
        split at h
        case isTrue => cases h
        case isFalse hsign =>
          cases h
          rw [if_neg hsign]
      case isFalse hend =>
        rw [if_neg hend]
        split at h
        case isTrue => cases h
        case isFalse hseen =>
          rw [if_neg hseen]
          split at h
          case isTrue hminus =>
            rw [if_pos hminus]
            exact ih h
          case isFalse hminus =>
            rw [if_neg hminus]
            split at h
            case h_1 f' hset => exact ih h
            case h_2 => cases h

theorem readSetting_append (h : readSetting f t = some (a, t₁)) (w : Text) :
    readSetting f (t ++ w) = some (a, t₁ ++ w) := by
  rcases Option.bind_eq_some_iff.mp h with ⟨⟨flags, isEmpty, last, r⟩, hread, h⟩
  simp only [readSetting, readFlags_append hread]
  dsimp only at h
  split at h
  case isTrue hcolon =>
    cases h
    exact if_pos hcolon
  case isFalse hcolon =>
    split at h
    case isTrue => cases h
    case isFalse hset =>
      cases h
      exact (if_neg hcolon).trans (if_neg hset)

theorem groupName?_append {name : Text} (h : groupName? t = some (name, t₁)) (w : Text) :
    groupName? (t ++ w) = some (name, t₁ ++ w) := by
  unfold groupName? at h
  split at h
  case h_2 => cases h
  case h_1 c n rest htake hdrop =>
    have hne : t.dropWhile (· != '>') ≠ [] := by
      rw [hdrop]
      exact List.cons_ne_nil _ _
    rcases takeWhile_append_of_dropWhile hne w with ⟨htake', hdrop'⟩
    split at h
    case isFalse => cases h
    case isTrue hname =>
      cases h
      simp only [groupName?, htake', htake, hdrop', hdrop, List.cons_append, hname, if_true]

theorem readName_append (h : readName t = some (a, t₁)) (w : Text) :
    readName (t ++ w) = some (a, t₁ ++ w) := by
  rcases Option.map_eq_some_iff.mp h with ⟨⟨name, r⟩, hname, h⟩
  cases h
  rw [readName, groupName?_append hname]
  rfl

/-- The ways to open a group or to set flags, by the text behind the parenthesis and its blanks. -/
inductive Opening (f : Flags) (p : Action × Text) : Text → Prop
  | plain {c : Char} {r : Text} (hc : c ≠ '?') (hp : (.enterNumbered none, c :: r) = p) :
      Opening f p (c :: r)
  | named {r : Text} (hp : readName r = some p) : Opening f p ('?' :: 'P' :: '<' :: r)
  | angled {e : Char} {r : Text} (he : e ≠ '=' ∧ e ≠ '!') (hp : readName (e :: r) = some p) :
      Opening f p ('?' :: '<' :: e :: r)
  | flags {e : Char} {r : Text} (he : e ≠ '=' ∧ e ≠ '!' ∧ e ≠ '<' ∧ e ≠ 'P')
      (hp : readSetting f (e :: r) = some p) : Opening f p ('?' :: e :: r)

namespace Opening

variable {p : Action × Text}

theorem readOpening_eq (h : Opening f p t) : readOpening f t = some p := by
  unfold readOpening
  cases h with
  | plain hc hp => simp [hc, hp]
  | named hp => exact hp
  | angled he hp => simpa [he] using hp
  | flags he hp => simpa [he] using hp

theorem of_readOpening (h : readOpening f t = some p) (hne : t ≠ []) : Opening f p t := by
  unfold readOpening at h
  split at h
  case h_1 | h_2 | h_3 | h_4 => cases h
  case h_5 r => exact .named h
  case h_6 r hequals hnot =>
    cases r with
    -- A question mark alone sets no flags, so a character follows it.
    | nil => cases h
    | cons e r =>
        refine .angled ⟨?_, ?_⟩ h
        · rintro rfl
          exact hequals r rfl
        · rintro rfl
          exact hnot r rfl
  case h_7 r hequals hnot hbehind hbehind' hnamed hangled =>
    cases r with
    | nil => cases h
    | cons e r =>
        refine .flags ⟨?_, ?_, ?_, ?_⟩ h
        · rintro rfl
          exact hequals r rfl
        · rintro rfl
          exact hnot r rfl
        · rintro rfl
          exact hangled r rfl
        · rintro rfl
          cases h
  case h_8 hflags =>
    rcases List.exists_cons_of_ne_nil hne with ⟨c, r, rfl⟩
    refine .plain ?_ (Option.some.inj h)
    rintro rfl
    exact hflags r rfl

theorem append (h : Opening f (a, t₁) t) (w : Text) : Opening f (a, t₁ ++ w) (t ++ w) := by
  cases h with
  | plain hc hp =>
      cases hp
      exact .plain hc rfl
  | named hp => exact .named (readName_append hp w)
  | angled he hp => exact .angled he (readName_append hp w)
  | flags he hp => exact .flags he (readSetting_append hp w)

end Opening

theorem readOpening_closes (h : readOpening f t = some (a, t₁)) :
    Closes (readOpening f) t a t₁ := by
  refine .inl fun v => ?_
  cases t with
  | nil =>
      cases h
      rfl
  | cons c t => exact ((Opening.of_readOpening h (List.cons_ne_nil c t)).append _).readOpening_eq

/-! ### Repetition -/

theorem readSign_append (least : Nat) (most : Option Nat) (t v : Text) :
    readSign least most (t ++ ')' :: v) =
      ((readSign least most t).1, (readSign least most t).2 ++ ')' :: v) := by
  cases t with
  | nil => rfl
  | cons c t =>
      by_cases hc : c = '?'
      · subst hc
        rfl
      · simp [readSign, turnSign, hc]

theorem readSign_closes {least : Nat} {most : Option Nat} (h : readSign least most t = (a, t₁)) :
    Closes (fun t => some (readSign least most t)) t a t₁ := by
  refine .inl fun v => congrArg some ?_
  rw [readSign_append, h]

theorem givenBound_append {least : Nat} {most : Option Nat}
    (h : givenBound f least t = some (most, t₁)) (w : Text) :
    givenBound f least (t ++ w) = some (most, t₁ ++ w) := by
  rcases Option.bind_eq_some_iff.mp h with ⟨⟨n, s⟩, hcount, h⟩
  rcases Option.bind_eq_some_iff.mp h with ⟨m, hm, h⟩
  cases hm
  dsimp only at h
  split at h
  case h_2 => cases h
  case h_1 r _ =>
    rw [givenBound, readCount_append hcount (List.cons_ne_nil _ _) w]
    change (if least ≤ m then some (some m, r) else none) = some (most, t₁) at h
    split at h
    case isFalse => cases h
    case isTrue hle =>
      cases h
      exact if_pos hle

theorem mostBound_append {least : Nat} {most : Option Nat}
    (h : mostBound f least t = some (most, t₁)) (w : Text) :
    mostBound f least (t ++ w) = some (most, t₁ ++ w) := by
  unfold mostBound at h
  split at h
  case h_1 r _ =>
    cases h
    rfl
  case h_2 hbrace =>
    have happend := givenBound_append h w
    have ht : t ≠ [] := by
      rintro rfl
      cases h
    rcases List.exists_cons_of_ne_nil ht with ⟨c, t, rfl⟩
    unfold mostBound
    split
    case h_1 heq =>
      cases heq
      exact absurd rfl (hbrace t)
    case h_2 => exact happend

theorem bounds_append {least : Nat} {most : Option Nat} (h : bounds f t = some (least, most, t₁))
    (w : Text) : bounds f (t ++ w) = some (least, most, t₁ ++ w) := by
  rcases Option.bind_eq_some_iff.mp h with ⟨⟨n, s⟩, hcount, h⟩
  rcases Option.bind_eq_some_iff.mp h with ⟨m, hm, h⟩
  cases hm
  dsimp only at h
  -- The brace is still to come after each count.
  have hs : s ≠ [] := by
    rintro rfl
    cases h
  have hskip : f.skip t ≠ [] := by
    intro hnil
    rw [hnil] at hcount
    cases hcount
  unfold bounds
  rw [Flags.skip_append hskip, readCount_append hcount hs w]
  split at h
  case h_3 => cases h
  case h_1 =>
    cases h
    rfl
  case h_2 r _ =>
    rcases Option.map_eq_some_iff.mp h with ⟨⟨most', r'⟩, hmost, h⟩
    cases h
    have hskip' : f.skip r ≠ [] := by
      intro hnil
      rw [hnil] at hmost
      cases hmost
    have hmost' := mostBound_append hmost w
    rw [← Flags.skip_append hskip'] at hmost'
    exact congrArg (Option.map _) hmost'

theorem readCounted_closes (h : readCounted f t = some (a, t₁)) :
    Closes (readCounted f) t a t₁ := by
  rcases Option.map_eq_some_iff.mp h with ⟨⟨least, most, r⟩, hbounds, hsign⟩
  have happend (w : Text) :
      readCounted f (t ++ w) = some (readSign least most (f.skip (r ++ w))) := by
    rw [readCounted, bounds_append hbounds]
    rfl
  have hnil : ∀ x u, some (readSign least most []) = some (x, u) → u = [] := by
    intro x u hx
    cases hx
    rfl
  have hclosed := Closes.skip (congrArg some hsign) (readSign_closes hsign) hnil
  simpa only [Closes, happend] using hclosed

/-! ### All actions -/

theorem readBracket_append (h : readBracket f t = some (a, t₁)) (v : Text) :
    readBracket f (t ++ ')' :: v) = some (a, t₁ ++ ')' :: v) := by
  unfold readBracket at h
  cases hopen : openClass f t with
  | mk o r =>
      rw [hopen] at h
      rcases Option.map_eq_some_iff.mp h with ⟨⟨cls, depth, r'⟩, hclass, h⟩
      cases h
      have hne : r ≠ [] := by
        rintro rfl
        simp [readClass] at hclass
      have hfuel : r.length + 1 ≤ (r ++ ')' :: v).length + 1 := by simp
      unfold readBracket
      rw [openClass_append hopen hne]
      dsimp only
      rw [readClass_append hclass v hfuel]
      rfl

/-- An action is read in the same way where the text goes on behind a parenthesis. -/
theorem readAction_closes (h : readAction f c t = some (a, t₁)) :
    Closes (readAction f c) t a t₁ := by
  unfold readAction at h
  split at h
  case h_1 =>
    refine Closes.skip h (readOpening_closes h) ?_
    intro x s hx
    cases hx
    rfl
  case h_4 => exact .inl fun v => readBracket_append h v
  case h_5 | h_6 | h_7 => exact readSign_closes (Option.some.inj h)
  case h_8 => exact readCounted_closes h
  case h_9 =>
    rcases Option.bind_eq_some_iff.mp h with ⟨⟨x, r⟩, hescape, h⟩
    rcases Option.map_eq_some_iff.mp h with ⟨item, hitem, h⟩
    cases h
    rcases escape_closes hescape with hclosed | ⟨hnil, hclosed⟩
    · refine .inl fun v => ?_
      simp only [readAction, hclosed v, Option.bind_some, hitem, Option.map_some]
    · refine .inr ⟨hnil, ?_⟩
      simp only [readAction, hclosed, Option.bind_some, hitem, Option.map_some]
  -- These read nothing after the first character.
  case h_2 | h_3 | h_11 | h_12 =>
    cases h
    exact .inl fun v => rfl
  case h_10 =>
    rcases Option.map_eq_some_iff.mp h with ⟨cls, hcls, h⟩
    cases h
    exact .inl fun v => by simp only [readAction, hcls, Option.map_some]
  case h_13 =>
    rcases Option.map_eq_some_iff.mp h with ⟨cls, hcls, h⟩
    cases h
    refine .inl fun v => ?_
    rw [readAction]
    · rw [hcls]
      rfl
    all_goals assumption

/-! ## Without groups -/

/-- The action adds no item with a group in it. -/
def Action.AddsNoGroup : Action → Prop
  | .push item => item.pattern.GroupFree
  | _ => True

theorem addsNoGroup_of_readName (h : readName t = some (a, t₁)) : a.AddsNoGroup := by
  rcases Option.map_eq_some_iff.mp h with ⟨p, _, h⟩
  cases h
  trivial

theorem addsNoGroup_of_readOpening (h : readOpening f t = some (a, t₁)) : a.AddsNoGroup := by
  unfold readOpening at h
  split at h
  case h_1 | h_2 | h_3 | h_4 => cases h
  case h_5 | h_6 => exact addsNoGroup_of_readName h
  case h_7 =>
    rcases Option.bind_eq_some_iff.mp h with ⟨⟨flags, isEmpty, last, r⟩, _, h⟩
    dsimp only at h
    split at h
    · cases h
      trivial
    · split at h
      · cases h
      · cases h
        trivial
  case h_8 =>
    cases h
    trivial

theorem groupFree_of_atomItem? {x : Atom} {item : Item} (h : f.atomItem? x = some item) :
    item.pattern.GroupFree := by
  unfold Flags.atomItem? at h
  split at h
  case h_1 =>
    rcases Option.map_eq_some_iff.mp h with ⟨cls, _, rfl⟩
    trivial
  case h_2 =>
    cases h
    trivial
  case h_3 =>
    rcases Option.map_eq_some_iff.mp h with ⟨cls, _, rfl⟩
    trivial

/-- What is read in one round has no group in it. -/
theorem addsNoGroup_of_readAction (h : readAction f c t = some (a, t₁)) : a.AddsNoGroup := by
  unfold readAction at h
  split at h
  case h_1 => exact addsNoGroup_of_readOpening h
  case h_9 =>
    rcases Option.bind_eq_some_iff.mp h with ⟨p, _, h⟩
    rcases Option.map_eq_some_iff.mp h with ⟨item, hitem, h⟩
    cases h
    exact groupFree_of_atomItem? hitem
  case h_2 | h_3 | h_5 | h_6 | h_7 | h_11 | h_12 =>
    cases h
    trivial
  case h_4 | h_8 | h_10 | h_13 =>
    rcases Option.map_eq_some_iff.mp h with ⟨p, _, h⟩
    cases h
    trivial

end RegexReader
end PathTemplate
