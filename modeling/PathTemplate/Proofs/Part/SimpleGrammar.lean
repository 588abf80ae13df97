import Mathlib.Data.List.DropRight
import PathTemplate.Proofs.Part.Grammar

/-!
# SimpleGrammar — the template texts of the simple dialect

- `Balanced`        : regular expressions as they may stand in a variable
- `trim`            : a text without the blanks around it
- `SpellsSimple`    : the texts that spell a variable of the simple dialect
- `Part.IsSimple`   : the variables that the simple dialect can spell
- `Reader.simpleVariable_eq_ok_iff` : a variable is read from the texts that spell it
- `Parsed.ofText?_simple_iff`       : a text is taken apart into the parts that it spells

A variable can be spelt in many ways, since blanks around its name and its regular expression do not
count.  What is read is therefore compared with a relation, and with the rendering only for the one
spelling without blanks.
-/

namespace PathTemplate

open Reader

/-! ## The grammar -/

def IsBlanks (t : Text) : Prop := ∀ c ∈ t, isBlank c = true

/-- Characters other than braces, and pairs of braces with such characters between them. -/
inductive Balanced : Text → Prop
  | nil : Balanced []
  | plain {c : Char} {t : Text} : isLiteralChar c = true → Balanced t → Balanced (c :: t)
  | braces {s t : Text} :
      (∀ c ∈ s, isLiteralChar c = true) → Balanced t → Balanced ('{' :: (s ++ '}' :: t))

def trim (t : Text) : Text := (t.dropWhile isBlank).rdropWhile isBlank

/-- The texts that spell the constraint of a variable.  The blanks around a regular expression are
not reported, and where nothing else is left, there is no constraint. -/
inductive SpellsConstraint : Option Text → Text → Prop
  | absent : SpellsConstraint none []
  | present {w r w' : Text} :
      IsBlanks w → Balanced r → IsBlanks w' →
        SpellsConstraint (nonEmpty? (trim r)) (':' :: (w ++ r ++ w'))

/-- The texts that spell a variable, from behind its opening brace to its closing one. -/
inductive SpellsSimple : Part → Text → Prop
  | named {w n w' s : Text} {constraint : Option Text} :
      IsBlanks w → IsName n → IsBlanks w' → SpellsConstraint constraint s →
        SpellsSimple (.variable n constraint none) (w ++ n ++ w' ++ s ++ ['}'])

structure IsConstraint (r : Text) : Prop where
  ne_nil : r ≠ []
  balanced : Balanced r
  head : ∀ c ∈ r.head?, isBlank c = false
  last : ∀ c ∈ r.getLast?, isBlank c = false

inductive Part.IsSimple : Part → Prop
  | named {n : Text} {constraint : Option Text} :
      IsName n → (∀ r ∈ constraint, IsConstraint r) → IsSimple (.variable n constraint none)

/-! ## Blanks -/

section

variable {r s t u w w' : Text} {c : Char}

theorem isBlank_iff : isBlank c = true ↔ c = ' ' ∨ c = '\t' := by
  simp [isBlank]

theorem isLiteralChar_of_isBlank (h : isBlank c = true) : isLiteralChar c = true := by
  rcases isBlank_iff.mp h with rfl | rfl <;> rfl

theorem isLiteralChar_iff : isLiteralChar c = true ↔ c ≠ '{' ∧ c ≠ '}' := by
  simp [isLiteralChar]

theorem isBlanks_takeWhile (t : Text) : IsBlanks (t.takeWhile isBlank) := by
  intro c hc
  exact List.mem_takeWhile_imp hc

theorem isBlanks_nil : IsBlanks [] := by
  intro c hc
  cases hc

theorem IsBlanks.dropWhile_append (hw : IsBlanks w) (t : Text) :
    (w ++ t).dropWhile isBlank = t.dropWhile isBlank :=
  List.dropWhile_append_of_pos hw

/-- Blanks at the beginning are skipped up to the first character that is none. -/
theorem dropWhile_append_cons (s : Text) (hc : isBlank c = false) (r : Text) :
    (s ++ c :: r).dropWhile isBlank = s.dropWhile isBlank ++ c :: r := by
  rw [List.dropWhile_append]
  split
  case isTrue hnil =>
    rw [List.isEmpty_iff.mp hnil, List.dropWhile_cons, hc]
    rfl
  case isFalse => rfl

theorem rdropWhile_append_blanks (t : Text) (hw : IsBlanks w) :
    (t ++ w).rdropWhile isBlank = t.rdropWhile isBlank := by
  have hreverse : ∀ c ∈ w.reverse, isBlank c = true := by
    intro c hc
    exact hw c (List.mem_reverse.mp hc)
  rw [List.rdropWhile, List.rdropWhile, List.reverse_append,
    List.dropWhile_append_of_pos hreverse]

/-- Blanks around a text do not change what is left of it. -/
theorem trim_append (hw : IsBlanks w) (hw' : IsBlanks w') (t : Text) :
    trim (w ++ t ++ w') = trim t := by
  rw [trim, trim, List.append_assoc, hw.dropWhile_append, List.dropWhile_append]
  split
  case isTrue hnil =>
    have hnone : w'.dropWhile isBlank = [] := List.dropWhile_eq_nil_iff.mpr hw'
    rw [hnone, List.isEmpty_iff.mp hnil]
  case isFalse => exact rdropWhile_append_blanks _ hw'

theorem trim_of_head (h : t.dropWhile isBlank = t) : trim t = trimEnd t := by
  rw [trim, h]
  rfl

/-! ## Pairs of braces -/

namespace Balanced

theorem of_literal (h : ∀ c ∈ s, isLiteralChar c = true) : Balanced s := by
  induction s with
  | nil => exact .nil
  | cons c s ih =>
      obtain ⟨hc, hs⟩ := List.forall_mem_cons.mp h
      exact .plain hc (ih hs)

theorem of_blanks (h : IsBlanks w) : Balanced w := by
  apply of_literal
  intro c hc
  exact isLiteralChar_of_isBlank (h c hc)

theorem append (hs : Balanced s) (ht : Balanced t) : Balanced (s ++ t) := by
  induction hs with
  | nil => exact ht
  | plain hc _ ih => exact .plain hc ih
  | braces hu _ ih =>
      rw [List.cons_append, List.append_assoc, List.cons_append]
      exact .braces hu ih

theorem dropWhile_isBlank (h : Balanced s) : Balanced (s.dropWhile isBlank) := by
  induction h with
  | nil => exact .nil
  | @plain c t hc ht ih =>
      rw [List.dropWhile_cons]
      split
      case isTrue => exact ih
      case isFalse => exact .plain hc ht
  | braces hu ht _ => exact .braces hu ht

/-- A blank at the end stands outside of braces. -/
theorem of_append_blank (h : Balanced (s ++ [c])) (hc : isBlank c = true) : Balanced s := by
  generalize hwhole : s ++ [c] = t at h
  induction h generalizing s with
  | nil => exact absurd hwhole (List.append_ne_nil_of_right_ne_nil s (List.cons_ne_nil c []))
  | @plain d t hd _ ih =>
      cases s with
      | nil => exact .nil
      | cons e s =>
          obtain ⟨rfl, hrest⟩ := List.cons.inj hwhole
          exact .plain hd (ih hrest)
  | @braces u t hu _ ih =>
      rcases t.eq_nil_or_concat with rfl | ⟨t', d, rfl⟩
      -- The last character is a blank, so it is not the closing brace.
      · have hlast : s ++ [c] = ('{' :: u) ++ ['}'] := hwhole
        obtain ⟨-, rfl⟩ := List.append_singleton_inj.mp hlast
        cases hc
      · rw [List.concat_eq_append] at hwhole ih
        have hlast : s ++ [c] = ('{' :: (u ++ '}' :: t')) ++ [d] := by simpa using hwhole
        obtain ⟨rfl, rfl⟩ := List.append_singleton_inj.mp hlast
        exact .braces hu (ih rfl)

theorem rdropWhile_isBlank (h : Balanced s) : Balanced (s.rdropWhile isBlank) := by
  induction s using List.reverseRecOn with
  | nil => exact h
  | append_singleton s c ih =>
      rw [List.rdropWhile_concat]
      split
      case isTrue hc => exact ih (h.of_append_blank hc)
      case isFalse => exact h

end Balanced

/-- A balanced text is trimmed to a constraint, unless it is blank. -/
theorem isConstraint_of_mem (h : Balanced r) (ht : t ∈ nonEmpty? (trim r)) : IsConstraint t := by
  rw [nonEmpty?] at ht
  split at ht
  case isTrue => cases ht
  case isFalse hne =>
    obtain rfl := Option.some.inj ht
    refine ⟨hne, h.dropWhile_isBlank.rdropWhile_isBlank, ?_, ?_⟩
    · intro c hc
      -- The beginning is that of the text without blanks there.
      obtain ⟨u, hu⟩ : trim r <+: r.dropWhile isBlank := List.rdropWhile_prefix isBlank _
      have hhead := List.head?_dropWhile_not isBlank r
      rwa [← hu, List.head?_append_of_ne_nil _ hne, Option.mem_def.mp hc] at hhead
    · intro c hc
      have hlast := List.rdropWhile_last_not isBlank _ hne
      obtain rfl : (trim r).getLast hne = c :=
        Option.some.inj ((List.getLast?_eq_some_getLast hne).symm.trans hc)
      exact Bool.eq_false_iff.mpr hlast

theorem IsConstraint.trim_eq (h : IsConstraint r) : trim r = r := by
  have hdrop : r.dropWhile isBlank = r := by
    cases r with
    | nil => rfl
    | cons c r => rw [List.dropWhile_cons_of_neg (by rw [h.head c rfl]; exact Bool.false_ne_true)]
  rw [trim, hdrop, List.rdropWhile_eq_self_iff]
  intro hne
  rw [h.last _ (List.getLast?_eq_some_getLast hne)]
  exact Bool.false_ne_true

end

/-! ## Variables -/

namespace Reader

variable {n r s t u w : Text} {c : Char} {o : Option Text} {p : Part}

/-- What a regular expression is, from inside of an inner pair of braces or from outside of it. -/
def BalancedFrom : (nested : Bool) → Text → Prop
  | false, s => Balanced s
  | true, s => ∃ u v, (∀ c ∈ u, isLiteralChar c = true) ∧ Balanced v ∧ s = u ++ '}' :: v

theorem constraint_eq_ok {nested : Bool} (h : constraint nested t = .ok (s, r)) :
    BalancedFrom nested s ∧ t = s ++ r := by
  fun_induction constraint nested t generalizing s with
  | case1 => cases h
  | case2 => cases h
  | case3 t =>
      cases h
      exact ⟨.nil, rfl⟩
  | case4 c t hc ih =>
      obtain ⟨s, hs, rfl⟩ := prepend_eq_ok h
      obtain ⟨hbalanced, rfl⟩ := ih hs
      refine ⟨?_, rfl⟩
      by_cases hopen : c = '{'
      · subst hopen
        obtain ⟨u, v, hu, hv, rfl⟩ := hbalanced
        exact .braces hu hv
      · rw [decide_eq_false hopen] at hbalanced
        exact .plain (isLiteralChar_iff.mpr ⟨hopen, hc⟩) hbalanced
  | case5 => cases h
  | case6 c t hc ih =>
      obtain ⟨s, hs, rfl⟩ := prepend_eq_ok h
      obtain ⟨hbalanced, rfl⟩ := ih hs
      refine ⟨?_, rfl⟩
      by_cases hclose : c = '}'
      · subst hclose
        exact ⟨[], s, by simp, hbalanced, rfl⟩
      · rw [bne_iff_ne.mpr hclose] at hbalanced
        obtain ⟨u, v, hu, hv, rfl⟩ := hbalanced
        have hplain := isLiteralChar_iff.mpr ⟨hc, hclose⟩
        exact ⟨c :: u, v, List.forall_mem_cons.mpr ⟨hplain, hu⟩, hv, rfl⟩

theorem prepend_prepend (s t : Text) (x : Except Stop (Text × Text)) :
    prepend s (prepend t x) = prepend (s ++ t) x := by
  cases x with
  | error e => rfl
  | ok y => simp [prepend]

/-- An inner pair of braces is read up to its closing brace. -/
theorem constraint_inner (hu : ∀ c ∈ u, isLiteralChar c = true) (t : Text) :
    constraint true (u ++ '}' :: t) = prepend (u ++ ['}']) (constraint false t) := by
  induction u with
  | nil => simp [constraint]
  | cons c u ih =>
      obtain ⟨hc, hu⟩ := List.forall_mem_cons.mp hu
      obtain ⟨hopen, hclose⟩ := isLiteralChar_iff.mp hc
      rw [List.cons_append, constraint, if_neg hopen, bne_iff_ne.mpr hclose, ih hu,
        prepend_prepend]
      rfl

theorem constraint_append (hs : Balanced s) (r : Text) :
    constraint false (s ++ '}' :: r) = .ok (s, '}' :: r) := by
  induction hs with
  | nil => rfl
  | plain hc _ ih =>
      obtain ⟨hopen, hclose⟩ := isLiteralChar_iff.mp hc
      rw [List.cons_append, constraint, if_neg hclose, decide_eq_false hopen, ih]
      rfl
  | @braces u t hu _ ih =>
      have htext : '{' :: (u ++ '}' :: t) ++ '}' :: r = '{' :: (u ++ '}' :: (t ++ '}' :: r)) := by
        simp
      rw [htext, constraint, if_neg (by decide), decide_eq_true rfl, constraint_inner hu, ih]
      simp [prepend]

theorem constraintPart_eq_ok (h : constraintPart t = .ok (o, '}' :: r)) :
    ∃ s, SpellsConstraint o s ∧ t = s ++ '}' :: r := by
  unfold constraintPart at h
  split at h
  case h_1 t =>
    obtain ⟨⟨s, r'⟩, hs, h⟩ := bind_eq_ok.mp h
    cases h
    obtain ⟨hbalanced, hdrop⟩ := constraint_eq_ok hs
    -- No blanks are left at the beginning of what is read.
    have hhead : s.dropWhile isBlank = s := by
      have hread : s.dropWhile isBlank ++ '}' :: r = s ++ '}' :: r := by
        rw [← dropWhile_append_cons s (by decide), ← hdrop, List.dropWhile_idempotent]
      exact List.append_cancel_right hread
    have hspells := SpellsConstraint.present (isBlanks_takeWhile t) hbalanced isBlanks_nil
    rw [trim_of_head hhead] at hspells
    refine ⟨_, hspells, ?_⟩
    calc
      ':' :: t = ':' :: (t.takeWhile isBlank ++ t.dropWhile isBlank) := by
          rw [List.takeWhile_append_dropWhile]
      _ = ':' :: (t.takeWhile isBlank ++ s ++ []) ++ '}' :: r := by
          rw [hdrop]
          simp
  case h_2 =>
    cases h
    exact ⟨[], .absent, rfl⟩

theorem constraintPart_append (h : SpellsConstraint o s) (r : Text) :
    constraintPart (s ++ '}' :: r) = .ok (o, '}' :: r) := by
  cases h with
  | absent => rfl
  | @present w u w' hw hu hw' =>
      have hbalanced : Balanced ((w ++ u ++ w').dropWhile isBlank) :=
        (((Balanced.of_blanks hw).append hu).append (.of_blanks hw')).dropWhile_isBlank
      have hread := constraint_append hbalanced r
      rw [← dropWhile_append_cons _ (by decide)] at hread
      apply bind_eq_ok.mpr ⟨_, hread, ?_⟩
      rw [← trim_append hw hw' u]
      rfl

theorem simpleVariable_eq_ok (h : simpleVariable t = .ok (p, r)) :
    ∃ s, SpellsSimple p s ∧ t = s ++ r := by
  obtain ⟨⟨n, t₁⟩, hn, h⟩ := bind_eq_ok.mp h
  obtain ⟨⟨o, t₂⟩, ho, h⟩ := bind_eq_ok.mp h
  obtain ⟨t₃, ht₃, h⟩ := bind_eq_ok.mp h
  cases h
  obtain rfl := expect_eq_ok_iff.mp ht₃
  obtain ⟨hname, hdrop⟩ := name_eq_ok hn
  obtain ⟨s, hs, hdrop₁⟩ := constraintPart_eq_ok ho
  refine ⟨_, .named (isBlanks_takeWhile t) hname (isBlanks_takeWhile t₁) hs, ?_⟩
  calc
    t = t.takeWhile isBlank ++ (n ++ t₁) := by
        rw [← hdrop, List.takeWhile_append_dropWhile]
    _ = t.takeWhile isBlank ++ (n ++ (t₁.takeWhile isBlank ++ (s ++ '}' :: r))) := by
        rw [← hdrop₁, List.takeWhile_append_dropWhile]
    _ = t.takeWhile isBlank ++ n ++ t₁.takeWhile isBlank ++ s ++ ['}'] ++ r := by
        simp

theorem isBlank_of_isWord (h : isWord c = true) : isBlank c = false := by
  apply Bool.eq_false_iff.mpr
  intro hblank
  rcases isBlank_iff.mp hblank with rfl | rfl
  · cases h
  · cases h

theorem dropWhile_name (hw : IsBlanks w) (hn : IsName n) (t : Text) :
    (w ++ (n ++ t)).dropWhile isBlank = n ++ t := by
  cases n with
  | nil => exact hn.elim
  | cons c n =>
      rw [hw.dropWhile_append, List.cons_append, List.dropWhile_cons, isBlank_of_isWord hn.1]
      rfl

/-- Behind a name stands a character that cannot go on with it, and behind the blanks there one that
is no blank. -/
theorem behind_name (hw : IsBlanks w) (hs : SpellsConstraint o s) (r : Text) :
    (∃ c t, w ++ (s ++ '}' :: r) = c :: t ∧ isNameRest c = false) ∧
      (w ++ (s ++ '}' :: r)).dropWhile isBlank = s ++ '}' :: r := by
  obtain ⟨c, t, hrest, hname, hblank⟩ :
      ∃ c t, s ++ '}' :: r = c :: t ∧ isNameRest c = false ∧ isBlank c = false := by
    cases hs with
    | absent => exact ⟨'}', r, rfl, rfl, rfl⟩
    | present => exact ⟨':', _, rfl, rfl, rfl⟩
  rw [hrest]
  constructor
  · cases w with
    | nil => exact ⟨c, t, rfl, hname⟩
    | cons d w =>
        refine ⟨d, w ++ c :: t, rfl, ?_⟩
        rcases isBlank_iff.mp (hw d List.mem_cons_self) with rfl | rfl <;> rfl
  · rw [hw.dropWhile_append, List.dropWhile_cons, hblank]
    rfl

theorem simpleVariable_append (h : SpellsSimple p s) (r : Text) :
    simpleVariable (s ++ r) = .ok (p, r) := by
  cases h with
  | @named w n w' s o hw hn hw' hs =>
      obtain ⟨⟨c, t, hrest, hc⟩, hdrop⟩ := behind_name hw' hs r
      have hname : name (n ++ (w' ++ (s ++ '}' :: r))) = .ok (n, w' ++ (s ++ '}' :: r)) := by
        rw [hrest]
        exact name_append hn hc
      have hconstraint : constraintPart ((w' ++ (s ++ '}' :: r)).dropWhile isBlank) =
          .ok (o, '}' :: r) := by
        rw [hdrop]
        exact constraintPart_append hs r
      have htext : w ++ n ++ w' ++ s ++ ['}'] ++ r = w ++ (n ++ (w' ++ (s ++ '}' :: r))) := by
        simp
      rw [htext, simpleVariable, dropWhile_name hw hn]
      apply bind_eq_ok.mpr ⟨_, hname, ?_⟩
      apply bind_eq_ok.mpr ⟨_, hconstraint, ?_⟩
      exact bind_eq_ok.mpr ⟨_, expect_eq_ok_iff.mpr rfl, rfl⟩

/-- A variable is read from the texts that spell it, whatever stands behind them. -/
theorem simpleVariable_eq_ok_iff :
    simpleVariable t = .ok (p, r) ↔ ∃ s, SpellsSimple p s ∧ t = s ++ r := by
  constructor
  · exact simpleVariable_eq_ok
  · rintro ⟨s, hs, rfl⟩
    exact simpleVariable_append hs r

end Reader

/-! ## Templates -/

namespace Parsed

variable {p : Parsed} {q : Part} {s t : Text}

theorem isSimple_of_spells (h : SpellsSimple q s) : q.IsSimple ∧ q.isLiteral = false := by
  cases h with
  | named _ hn _ hs =>
      refine ⟨.named hn ?_, rfl⟩
      intro r hr
      cases hs with
      | absent => cases hr
      | present _ hbalanced _ => exact isConstraint_of_mem hbalanced hr

/-- The rendering of a variable is one of the texts that spell it. -/
theorem exists_spells (h : q.IsSimple) : ∃ s, SpellsSimple q s ∧ q.render = '{' :: s := by
  cases h with
  | @named n o hn ho =>
      have hconstraint : SpellsConstraint o (renderOptional ':' o) := by
        cases o with
        | none => exact .absent
        | some r =>
            have hr := ho r rfl
            have hspells := SpellsConstraint.present isBlanks_nil hr.balanced isBlanks_nil
            rw [hr.trim_eq, nonEmpty?, if_neg hr.ne_nil] at hspells
            simpa [renderOptional] using hspells
      refine ⟨_, .named isBlanks_nil hn isBlanks_nil hconstraint, ?_⟩
      simp [Part.render, renderOptional]

/-- In the simple dialect a text can be taken apart if and only if it is plain text with expressions
in it, and what comes out are the parts that it spells.  The rendering of parts gives the parts back
if and only if they are well-formed. -/
theorem ofText?_simple_iff (t : Text) :
    ((∃ p, ofText? .simple t = .ok p) ↔ ∃ p : Parsed, p.SpeltBy SpellsSimple t) ∧
    (∀ p, ofText? .simple t = .ok p ↔ p.SpeltBy SpellsSimple t) ∧
    ∀ p : Parsed, ofText? .simple p.render = .ok p ↔ p.WellFormed Part.IsSimple := by
  have hread : ∀ t p, ofText? .simple t = .ok p ↔ p.SpeltBy SpellsSimple t := by
    intro t p
    calc
      ofText? .simple t = .ok p ↔ template .simple t = .ok p := ofText?_eq_ok_iff
      _ ↔ p.SpeltBy SpellsSimple t := template_eq_ok_iff simpleVariable_eq_ok_iff
  refine ⟨exists_congr (hread t), hread t, ?_⟩
  intro p
  constructor
  · intro h
    exact ((hread _ p).mp h).wellFormed isSimple_of_spells
  · intro h
    exact (hread _ p).mpr (h.speltBy exists_spells)

end Parsed

end PathTemplate
