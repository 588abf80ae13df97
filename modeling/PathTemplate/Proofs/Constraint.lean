import PathTemplate.Proofs.Constraint.Pieces
import PathTemplate.Proofs.Regex.Unrecorded

/-!
# Making the groups of a constraint unrecorded

`Constraint.neutralize` goes through a regular expression with less of an eye for it than the reader
has: it takes brackets not to nest, and it knows no comments.  Where it follows the reader all the
same, the expression that it makes has no groups and matches the same texts.

- `stops`    : where the reader stops between two rounds
- `Follows`  : what the conversion takes for granted at such a place
- `Follows.of_plainComments`, `follows_iff_of_not_verbose` : where it can be taken for granted
- `readItems_neutralize` : the run of the reader on the converted text
- `ofText?_neutralize`   : the converted expression
-/

namespace PathTemplate
namespace Constraint

open RegexReader

variable {f : Flags} {s s₁ : State} {t t₁ u w : Text} {c : Char} {a : Action}

/-! ## What the conversion takes for granted -/

/-- The rest of the text in front of each round of the reader and at its end, with the flags that
hold there. -/
def stops : (fuel : Nat) → State → Text → List (Flags × Text)
  | 0, _, _ => []
  | fuel + 1, s, t =>
      (s.flags, t) :: match s.flags.skip t with
        | [] => []
        | c :: r => match readItem s c r with
            | none => []
            | some (s, t) => stops fuel s t

/-- What is read of a text whose rest is `t₁`. -/
def piece (t t₁ : Text) : Text := t.take (t.length - t₁.length)

theorem piece_append (w t₁ : Text) : piece (w ++ t₁) t₁ = w := by
  rw [piece, List.length_append, Nat.add_sub_cancel, List.take_left]

/-- A group, behind its parenthesis: where it has flags or a name, the question mark is seen. -/
def KeepsGroup (f : Flags) (t : Text) : Prop :=
  KeepsBlanks f t ∧ ((f.skip t).head? = some '?' → t.head? = some '?')

/-- A class, behind its bracket, that stays as it is, with the text behind it outside of brackets.
So it is if no bracket is opened in it, unless blanks or comments make a difference. -/
def KeepsClass (f : Flags) (t : Text) : Prop :=
  ∀ p ∈ readBracket f t,
    ('[' ∉ piece t p.2 ∧ TightOpening f t ∧ f.PlainComments (piece t p.2)) ∨
      neutralize ('[' :: t) = '[' :: (piece t p.2 ++ neutralize p.2)

/-- Any other action, behind its first character: it has plain comments only, and cannot tell what
follows it from what that is converted to. -/
def KeepsOther (f : Flags) (c : Char) (t : Text) : Prop :=
  ∀ p ∈ readAction f c t, f.PlainComments (piece t p.2) ∧ f.Alike (neutralize p.2) p.2

/-- The action that begins the text stays in step with its conversion. -/
def KeepsAction (f : Flags) : Text → Prop
  | [] => True
  | c :: t =>
      if c = '(' then KeepsGroup f t else if c = '[' then KeepsClass f t else KeepsOther f c t

/-- What the conversion takes for granted at a stop of the reader.  Without verbose reading it is
only that the classes stay that have a bracket opened in them. -/
structure Follows (f : Flags) (t : Text) : Prop where
  blanks : KeepsBlanks f t
  action : KeepsAction f (f.skip t)

instance (f : Flags) : DecidablePred (KeepsGroup f) := fun _ =>
  inferInstanceAs (Decidable (_ ∧ _))

instance (f : Flags) : DecidablePred (KeepsClass f) := fun _ =>
  inferInstanceAs (Decidable (∀ p ∈ readBracket _ _, _))

instance (f : Flags) (c : Char) : DecidablePred (KeepsOther f c) := fun _ =>
  inferInstanceAs (Decidable (∀ p ∈ readAction _ _ _, _))

instance (f : Flags) : DecidablePred (KeepsAction f)
  | [] => inferInstanceAs (Decidable True)
  | _ :: _ => inferInstanceAs (Decidable (ite _ _ _))

instance (f : Flags) : DecidablePred (Follows f) := fun t =>
  decidable_of_iff (KeepsBlanks f t ∧ KeepsAction f (f.skip t))
    ⟨fun h => ⟨h.1, h.2⟩, fun h => ⟨h.blanks, h.action⟩⟩

/-- Plain comments make no difference, but blanks and classes may. -/
theorem Follows.of_plainComments (hcomments : f.PlainComments t)
    (hgroups : ∀ u, f.skip t = '(' :: u → (f.skip u).head? = some '?' → u.head? = some '?')
    (hclasses : ∀ u, f.skip t = '[' :: u → KeepsClass f u) : Follows f t := by
  refine ⟨.of_plainComments hcomments, ?_⟩
  have hrest := hcomments.of_suffix (f.skips_skip.suffix t)
  cases hskip : f.skip t with
  | nil => trivial
  | cons c u =>
      have hu : f.PlainComments u := hrest.of_suffix (hskip ▸ List.suffix_cons c u)
      rw [KeepsAction]
      split
      case isTrue hc => exact ⟨.of_plainComments hu, hgroups u (hc ▸ hskip)⟩
      case isFalse =>
        split
        case isTrue hc => exact hclasses u (hc ▸ hskip)
        case isFalse =>
          rintro ⟨a, t₁⟩ hread
          obtain ⟨w, rfl⟩ := suffix_of_readAction hread
          have htail := hu.of_append.of_suffix t₁.tail_suffix
          rw [piece_append]
          exact ⟨hu.of_append_left, alike_neutralize (.of_plainComments htail)⟩

theorem follows_iff_of_not_verbose (hverbose : f.verbose = false) :
    Follows f t ↔ ∀ u, t = '[' :: u → ∀ p ∈ readBracket f u,
      '[' ∉ piece u p.2 ∨ neutralize ('[' :: u) = '[' :: (piece u p.2 ++ neutralize p.2) := by
  have hskip (u : Text) : f.skip u = u := by simp [Flags.skip, hverbose]
  have hcomments (u : Text) : f.PlainComments u := fun hv => by
    rw [hverbose] at hv
    cases hv
  constructor
  · rintro h u rfl p hp
    have haction := h.action
    rw [hskip] at haction
    exact (haction p hp).imp_left And.left
  · intro h
    refine .of_plainComments (hcomments t) (fun u _ hhead => hskip u ▸ hhead) fun u hu p hp => ?_
    have htight : TightOpening f u := ⟨hskip u, fun _ => hskip u.tail⟩
    exact (h u (hskip t ▸ hu) p hp).imp_left fun hnested => ⟨hnested, htight, hcomments _⟩

/-! ## Actions -/

theorem erase_eq_of_readAction (hc : c ≠ '(') (h : readAction f c t = some (a, t₁)) :
    a.erase f = a := by
  unfold readAction at h
  split at h
  case h_1 => exact absurd rfl hc
  case h_9 =>
    rcases Option.bind_eq_some_iff.mp h with ⟨p, _, h⟩
    rcases Option.map_eq_some_iff.mp h with ⟨item, _, h⟩
    cases h
    rfl
  case h_2 | h_3 | h_5 | h_6 | h_7 | h_11 | h_12 =>
    cases h
    rfl
  case h_4 | h_8 | h_10 | h_13 =>
    rcases Option.map_eq_some_iff.mp h with ⟨p, _, h⟩
    cases h
    rfl

theorem erase_eq_of_readSetting (h : readSetting f t = some (a, t₁)) : a.erase f = a := by
  rcases Option.bind_eq_some_iff.mp h with ⟨⟨flags, isEmpty, last, r⟩, _, h⟩
  dsimp only at h
  split at h
  · cases h
    rfl
  · split at h
    · cases h
    · cases h
      rfl

/-- An opening without a question mark is that of a recorded group. -/
theorem readOpening_of_head (ht : t.head? ≠ some '?') :
    readOpening f t = some (.enterNumbered none, t) := by
  cases t with
  | nil => rfl
  | cons c t =>
      refine Opening.readOpening_eq (.plain ?_ rfl)
      rintro rfl
      exact ht rfl

/-- What opens a group that is not recorded. -/
theorem readAction_unrecorded (f : Flags) (t : Text) :
    readAction f '(' ('?' :: ':' :: t) = some (.enter f, t) := by
  change readOpening f (f.skip ('?' :: ':' :: t)) = _
  rw [f.skip_cons_eq (by decide)]
  rfl

/-- The opening of a group or the setting of flags, on the converted text. -/
theorem readAction_group (hkeeps : KeepsGroup f u) (h : readAction f '(' u = some (a, t₁)) :
    ∃ u' t', neutralize ('(' :: u) = '(' :: u' ∧ readAction f '(' u' = some (a.erase f, t') ∧
      (t' = neutralize t₁ ∨ a = .enterNumbered none ∧ f.skip t' = neutralize t₁) := by
  change readOpening f (f.skip u) = some (a, t₁) at h
  by_cases hflags : (f.skip u).head? = some '?'
  case neg =>
    rw [readOpening_of_head hflags] at h
    cases h
    have hu : u.head? ≠ some '?' := by
      intro hu
      obtain ⟨r, rfl⟩ := List.head?_eq_some_iff.mp hu
      rw [f.skip_cons_eq (by decide)] at hflags
      exact hflags rfl
    exact ⟨_, _, neutralize_group hu, readAction_unrecorded f _, .inr ⟨rfl, hkeeps.1⟩⟩
  obtain ⟨r, rfl⟩ := List.head?_eq_some_iff.mp (hkeeps.2 hflags)
  rw [f.skip_cons_eq (by decide)] at h
  cases Opening.of_readOpening h (List.cons_ne_nil _ _) with
  | plain hc hp => exact absurd rfl hc
  | named hp =>
      rcases exists_of_readName hp with ⟨name, rfl, hname, rfl⟩
      exact ⟨_, _, neutralize_named hname t₁, readAction_unrecorded f _, .inl rfl⟩
  | angled he hp =>
      rcases exists_of_readName hp with ⟨name, hr, hname, rfl⟩
      exact ⟨_, _, neutralize_angled he hr hname, readAction_unrecorded f _, .inl rfl⟩
  | flags he hp =>
      rename_i e r
      rcases readSetting_local hp with ⟨w, hw, hplain, hlocal⟩
      have hread : readSetting f (neutralize (e :: r)) = some (a, neutralize t₁) := by
        rw [hw, neutralize_plain hplain]
        exact hlocal _
      have hconverted := neutralize_flags ⟨he.2.2.2, he.2.2.1⟩ r
      rcases (sameHead_neutralize (e :: r)).exists_cons with ⟨r', hr'⟩
      rw [hr'] at hread hconverted
      refine ⟨_, _, hconverted, ?_, .inl rfl⟩
      -- Neither the flags nor a group that sets them are recorded, so that nothing is taken away.
      rw [erase_eq_of_readSetting hp]
      change readOpening f (f.skip ('?' :: e :: r')) = _
      rw [f.skip_cons_eq (by decide)]
      exact (Opening.flags he hread).readOpening_eq

/-- A class, on the converted text. -/
theorem readBracket_neutralize (hkeeps : KeepsClass f u) (h : readBracket f u = some (a, t₁)) :
    ∃ u', neutralize ('[' :: u) = '[' :: u' ∧ readBracket f u' = some (a, neutralize t₁) := by
  have hkeeps := hkeeps (a, t₁) h
  rcases readBracket_local h with ⟨o, s, p, cls, depth, w, _, hu, hw, hlocal⟩
  have hwhole : u = (p ++ (w ++ [']'])) ++ t₁ := by rw [hu, hw.1]; simp
  have hpiece : piece u t₁ = p ++ (w ++ [']']) := hwhole ▸ piece_append _ _
  have hstays : neutralize ('[' :: u) = '[' :: ((p ++ (w ++ [']'])) ++ neutralize t₁) := by
    rw [← hpiece]
    rcases hkeeps with ⟨hnested, htight, hcomments⟩ | hkept
    · exact neutralize_class h htight (hpiece ▸ hwhole) hcomments hnested
    · exact hkept
  refine ⟨_, hstays, ?_⟩
  have hread := hlocal (neutralize t₁)
  simp only [List.append_assoc, List.singleton_append]
  exact hread

/-- An escape or another character, on the converted text. -/
theorem readAction_other (hc : c ≠ '(' ∧ c ≠ '[') (hkeeps : KeepsOther f c u)
    (h : readAction f c u = some (a, t₁)) :
    ∃ u', neutralize (c :: u) = c :: u' ∧ readAction f c u' = some (a, neutralize t₁) := by
  rcases hkeeps (a, t₁) h with ⟨hcomments, halike⟩
  by_cases hescape : c = '\\'
  · subst hescape
    cases u with
    | nil => cases h
    | cons d u =>
        -- The escaped character may be any; what is read behind it is plain.
        rcases takes_escaped h with ⟨w, rfl, hplain, htake⟩
        have hpiece : piece (d :: (w ++ t₁)) t₁ = d :: w := piece_append (d :: w) t₁
        rw [hpiece] at hcomments
        refine ⟨d :: neutralize (w ++ t₁), rfl, ?_⟩
        rw [neutralize_plain (hplain (hcomments.of_append (u := [d])))]
        exact htake _ _ halike (Nat.le_refl _)
  · rcases takes_readAction ⟨hescape, hc⟩ h with ⟨w, rfl, hplain, htake⟩
    rw [piece_append] at hcomments
    refine ⟨neutralize (w ++ t₁), neutralize_cons ⟨hescape, hc⟩ _, ?_⟩
    rw [neutralize_plain (hplain hcomments)]
    exact htake _ _ (sameHead_neutralize t₁) (Nat.le_refl _)

/-! ## Runs -/

theorem readItems_round {m : Nat} (hskip : s.flags.skip t = c :: u)
    (haction : readAction s.flags c u = some (a, t₁)) (happly : s.act? a = some s₁) :
    readItems (m + 1) s t = readItems m s₁ t₁ := by
  have hitem : readItem s c u = some (s₁, t₁) := by
    rw [readItem_eq, haction, State.perform, Option.bind_some, happly, Option.map_some]
  rw [readItems, hskip]
  simp only [hitem]
  rfl

theorem readItems_of_skip_eq {m : Nat} (h : s.flags.skip t = s.flags.skip t₁) :
    readItems m s t = readItems m s t₁ := by
  cases m with
  | zero => rfl
  | succ m => rw [readItems, readItems, h]

/-- A round of the reader on the converted text, which may leave blanks that were skipped before. -/
theorem readItems_converted {m : Nat} (hf : Follows s.flags t) (hskip : s.flags.skip t = c :: u)
    (haction : readAction s.flags c u = some (a, t₁)) (happly : s.act? a = some s₁) :
    readItems (m + 1) s.erase (neutralize t) = readItems m s₁.erase (neutralize t₁) := by
  have happly' := act?_erase (addsNoGroup_of_readAction haction) happly
  have hskip' : s.erase.flags.skip (neutralize t) = neutralize (c :: u) := by
    rw [State.erase_flags, hf.blanks, hskip]
  have hkeeps := hf.action
  rw [hskip] at hkeeps
  rw [KeepsAction] at hkeeps
  split at hkeeps
  case isTrue hc =>
    subst hc
    rcases readAction_group hkeeps haction with ⟨u', t', hconverted, hread, hrest⟩
    rw [readItems_round (hskip'.trans hconverted) hread happly']
    rcases hrest with rfl | ⟨rfl, hblank⟩
    · rfl
    · -- A question mark and a colon stand where the blanks behind the parenthesis began.
      refine readItems_of_skip_eq ?_
      have hflags : s₁.erase.flags = s.flags := by
        rw [eq_of_enterNumbered happly]
        rfl
      rw [hflags, ← hblank, Flags.skip_skip]
  case isFalse hc =>
    rw [erase_eq_of_readAction hc haction] at happly'
    have hround : ∃ u', neutralize (c :: u) = c :: u' ∧
        readAction s.flags c u' = some (a, neutralize t₁) := by
      split at hkeeps
      case isTrue hclass =>
        subst hclass
        exact readBracket_neutralize hkeeps haction
      case isFalse hclass => exact readAction_other ⟨hc, hclass⟩ hkeeps haction
    rcases hround with ⟨u', hconverted, hread⟩
    exact readItems_round (hskip'.trans hconverted) hread happly'

/-- The run of the reader on the converted text takes as many rounds, and records nothing. -/
theorem readItems_neutralize {m : Nat} {s' : State} (h : readItems m s t = some s')
    (hfollows : ∀ stop ∈ stops m s t, Follows stop.1 stop.2) :
    readItems m s.erase (neutralize t) = some s'.erase := by
  -- The rounds of the one run are those of the other: the invariant is that the text left is the
  -- converted one and that the state has nothing recorded.
  induction m generalizing s t with
  | zero => cases h
  | succ m ih =>
      have hstop : Follows s.flags t := hfollows (s.flags, t) (List.mem_cons_self ..)
      cases hskip : s.flags.skip t with
      | nil =>
          rw [readItems, hskip] at h
          cases h
          rw [readItems, State.erase_flags, hstop.blanks, hskip]
          rfl
      | cons c u =>
          rw [readItems, hskip] at h
          rcases Option.bind_eq_some_iff.mp h with ⟨⟨s₁, t₁⟩, hitem, hrest⟩
          rcases action_of_readItem hitem with ⟨a, haction, happly⟩
          rw [readItems_converted hstop hskip haction happly]
          refine ih hrest fun stop hmem => hfollows stop ?_
          rw [stops, hskip]
          simp only [hitem]
          exact List.mem_cons_of_mem _ hmem

/-- As many rounds as there are characters are enough. -/
theorem readItems_length {m : Nat} {s' : State} (h : readItems m s t = some s') :
    readItems (t.length + 1) s t = some s' := by
  induction m generalizing s t with
  | zero => cases h
  | succ m ih =>
      rw [readItems] at h ⊢
      have hlength := s.flags.length_skip t
      cases hskip : s.flags.skip t with
      | nil =>
          rw [hskip] at h
          exact h
      | cons c u =>
          rw [hskip] at h hlength
          rcases Option.bind_eq_some_iff.mp h with ⟨⟨s₁, t₁⟩, hitem, hrest⟩
          rcases action_of_readItem hitem with ⟨a, haction, _⟩
          refine Option.bind_eq_some_iff.mpr ⟨(s₁, t₁), hitem, ?_⟩
          -- The character that begins the round is gone.
          have hshort : t₁.length ≤ u.length := (suffix_of_readAction haction).length_le
          have hmore := readItems_mono (ih hrest) (t.length - (t₁.length + 1))
          have hrounds : t.length - (t₁.length + 1) + (t₁.length + 1) = t.length := by
            simp only [List.length_cons] at hlength
            omega
          rwa [hrounds] at hmore

/-! ## The converted expression -/

/-- Where the conversion follows the reader, what it makes of a regular expression is one, has no
groups and matches the same texts. -/
theorem ofText?_neutralize {r : Text} {p : Pattern} (hp : Pattern.ofText? r = some p)
    (hfollows : ∀ stop ∈ stops (r.length + 1) {} r, Follows stop.1 stop.2) :
    ∃ q, Pattern.ofText? (neutralize r) = some q ∧ q.GroupFree ∧
      ∀ t, q.accepts t = p.accepts t := by
  rcases ofText?_eq_some_iff.mp hp with ⟨s, hread, hbelow, hdepth, hweight, rfl⟩
  have hrun := readItems_length (readItems_neutralize hread hfollows)
  -- Depth and weight are the measures that have a limit; without groups neither is larger.
  refine ⟨s.body.pattern.erase, ofText?_eq_some_iff.mpr ⟨s.erase, hrun, ?_, ?_, ?_, ?_⟩,
    Pattern.groupFree_erase _, Pattern.accepts_erase _⟩
  · simp [State.erase, hbelow]
  · rw [State.body_erase]
    exact hdepth
  · rw [State.body_erase]
    exact Nat.le_trans (Pattern.weight_erase_le _) hweight
  · rw [State.body_erase]
    rfl

/-- A class with a class in it, a parenthesis in a class, an escaped one, a named group and a
comment with a parenthesis. -/
theorem ofText?_neutralize_verbose :
    ∃ q, Pattern.ofText? (neutralize "[[:alpha:]_](a(?P<n>[)]b)*)\\((?x: (c) #(d)\n)".toList) =
        some q ∧
      q.GroupFree ∧ q.accepts "_a)b(c".toList = true := by
  have hread : (Pattern.ofText? "[[:alpha:]_](a(?P<n>[)]b)*)\\((?x: (c) #(d)\n)".toList).any
      (·.accepts "_a)b(c".toList) = true := by
    decide +kernel
  rcases Option.any_eq_true_iff_get .. |>.mp hread with ⟨hsome, haccepts⟩
  have hp := (Option.some_get hsome).symm
  rcases ofText?_neutralize hp (by decide +kernel) with ⟨q, hq, hfree, hsame⟩
  exact ⟨q, hq, hfree, (hsame _).trans haccepts⟩

/-- A class within a class ends the brackets too early, a bracket of a comment begins some, and a
blank in front of a question mark hides the flags of a group. -/
theorem neutralize_loses_track :
    (let r := "[[:alpha:](a)]".toList
     (Pattern.ofText? r).map (·.accepts ":".toList) = some false ∧
      (Pattern.ofText? (neutralize r)).map (·.accepts ":".toList) = some true) ∧
    (let r := "(?x)#[\n(a)".toList
     (Pattern.ofText? r).isSome = true ∧
      (Pattern.ofText? (neutralize r)).map (·.groupBound) = some 2) ∧
    (let r := "(?x)( ?:a)".toList
     (Pattern.ofText? r).isSome = true ∧ (Pattern.ofText? (neutralize r)).isNone = true) := by
  decide +kernel

end Constraint
end PathTemplate
