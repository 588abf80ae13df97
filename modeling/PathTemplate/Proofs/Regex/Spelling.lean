import Mathlib.Computability.Language
import PathTemplate.Proofs.Regex.Preference
import PathTemplate.Regex.Pattern

/-!
# Spelling — expressions that are languages

An expression without groups and conditions matches the texts of a language, wherever they stand.

- `Regex.Spells` : an expression matches exactly the texts of a language and records nothing
- `Pattern.matches_seqs_append_iff` : matches of patterns in a row are matches one after the other
- `Spells.seqs_cons`, `Spells.alts`, `Spells.many`, … : the languages of the ways to build patterns
-/

namespace PathTemplate

open scoped Computability

/-! ## Languages -/

def CharClass.oneOf (cls : CharClass) : Language Char := {u | ∃ x, cls.has x = true ∧ u = [x]}

def CharClass.allOf (cls : CharClass) : Language Char := {u | ∀ x ∈ u, cls.has x = true}

theorem CharClass.kstar_oneOf (cls : CharClass) : cls.oneOf∗ = cls.allOf := by
  ext u
  rw [Language.mem_kstar]
  constructor
  · rintro ⟨us, rfl, hus⟩ x hx
    rcases List.mem_flatten.mp hx with ⟨u, hu, hxu⟩
    rcases hus u hu with ⟨y, hy, rfl⟩
    rw [List.mem_singleton.mp hxu]
    exact hy
  · -- Each character is a text of its own.
    intro hu
    refine ⟨u.map fun x => [x], (List.flatMap_singleton' u).symm, fun v hv => ?_⟩
    rcases List.mem_map.mp hv with ⟨x, hx, rfl⟩
    exact ⟨x, hu x hx, rfl⟩

theorem singleton_mul_singleton (u v : Text) :
    ({u} * {v} : Language Char) = {u ++ v} := by
  ext w
  rw [Language.mem_mul]
  constructor
  · rintro ⟨_, rfl, _, rfl, rfl⟩
    rfl
  · rintro rfl
    exact ⟨u, rfl, v, rfl, rfl⟩

def anyOf {α : Type} (language : α → Language Char) (xs : List α) : Language Char :=
  {u | ∃ x ∈ xs, u ∈ language x}

theorem anyOf_singleton {α : Type} (language : α → Language Char) (x : α) :
    anyOf language [x] = language x := by
  ext u
  constructor
  · rintro ⟨y, hy, hu⟩
    rwa [List.mem_singleton.mp hy] at hu
  · intro hu
    exact ⟨x, List.mem_singleton.mpr rfl, hu⟩

theorem anyOf_cons {α : Type} (language : α → Language Char) (x : α) (xs : List α) :
    anyOf language (x :: xs) = language x + anyOf language xs := by
  ext u
  rw [Language.mem_add]
  constructor
  · rintro ⟨y, hy, hu⟩
    rcases List.mem_cons.mp hy with rfl | hy
    · exact .inl hu
    · exact .inr ⟨y, hy, hu⟩
  · rintro (hu | ⟨y, hy, hu⟩)
    · exact ⟨x, List.mem_cons_self, hu⟩
    · exact ⟨y, List.mem_cons_of_mem x hy, hu⟩

theorem mem_one_add {L : Language Char} {u : Text} : u ∈ 1 + L ↔ u = [] ∨ u ∈ L := by
  rw [Language.mem_add, Language.mem_one]

namespace Regex

variable {r a b : Regex} {L M : Language Char} {c d : Cut} {t : Trace}

/-- The expression matches exactly the texts of the language, wherever they stand, and records
nothing. -/
def Spells (r : Regex) (L : Language Char) : Prop :=
  ∀ c t d, r.Matches c t d ↔ t = [] ∧ ∃ u ∈ L, c.Passes u d

namespace Spells

theorem empty : Spells .empty 1 := by
  intro c t d
  rw [matches_empty_iff]
  constructor
  · rintro ⟨rfl, rfl⟩
    exact ⟨rfl, [], Language.mem_one _ |>.mpr rfl, Cut.Passes.refl d⟩
  · rintro ⟨rfl, u, hu, hpass⟩
    obtain rfl := (Language.mem_one _).mp hu
    exact ⟨rfl, hpass.unique (Cut.Passes.refl c)⟩

theorem chars (cls : CharClass) : Spells (.chars cls) cls.oneOf := by
  intro c t d
  rw [matches_chars_iff]
  constructor
  · rintro ⟨rfl, x, hx, hpass⟩
    exact ⟨rfl, [x], ⟨x, hx, rfl⟩, hpass⟩
  · rintro ⟨rfl, u, ⟨x, hx, rfl⟩, hpass⟩
    exact ⟨rfl, x, hx, hpass⟩

/-- One expression after the other, however the two are put in a row. -/
theorem append {m : Regex} (ha : Spells a L) (hb : Spells b M)
    (hm : ∀ c t d, m.Matches c t d ↔
      ∃ e t₁ t₂, a.Matches c t₁ e ∧ b.Matches e t₂ d ∧ t = t₁ ++ t₂) :
    Spells m (L * M) := by
  intro c t d
  rw [hm]
  constructor
  · rintro ⟨e, t₁, t₂, h₁, h₂, rfl⟩
    rcases (ha c t₁ e).mp h₁ with ⟨rfl, u, hu, hpass⟩
    rcases (hb e t₂ d).mp h₂ with ⟨rfl, v, hv, hpass'⟩
    exact ⟨rfl, u ++ v, Language.append_mem_mul hu hv, hpass.trans hpass'⟩
  · rintro ⟨rfl, w, hw, hpass⟩
    rcases Language.mem_mul.mp hw with ⟨u, hu, v, hv, rfl⟩
    rcases hpass.split with ⟨hpass, hpass'⟩
    exact ⟨_, [], [], (ha _ _ _).mpr ⟨rfl, u, hu, hpass⟩, (hb _ _ _).mpr ⟨rfl, v, hv, hpass'⟩, rfl⟩

theorem alt (ha : Spells a L) (hb : Spells b M) : Spells (.alt a b) (L + M) := by
  intro c t d
  rw [matches_alt_iff, ha, hb]
  constructor
  · rintro (⟨rfl, u, hu, hpass⟩ | ⟨rfl, u, hu, hpass⟩)
    · exact ⟨rfl, u, Language.mem_add _ _ _ |>.mpr (.inl hu), hpass⟩
    · exact ⟨rfl, u, Language.mem_add _ _ _ |>.mpr (.inr hu), hpass⟩
  · rintro ⟨rfl, u, hu, hpass⟩
    rcases (Language.mem_add _ _ _).mp hu with hu | hu
    · exact .inl ⟨rfl, u, hu, hpass⟩
    · exact .inr ⟨rfl, u, hu, hpass⟩

theorem optional (greedy : Bool) (h : Spells r L) : Spells (r.optional greedy) (1 + L) := by
  cases greedy with
  | true =>
      rw [add_comm]
      exact h.alt empty
  | false => exact empty.alt h

/-- The rounds of a repetition are texts of the language in a row. -/
theorem flatten_of_more {greedy : Bool} (h : Spells r L) (hm : Matches (.more greedy r) c t d) :
    t = [] ∧ ∃ u us, (∀ v ∈ u :: us, v ∈ L) ∧ c.Passes (u ++ us.flatten) d := by
  -- The induction is on the match, so the repetition has to be a variable in it.
  generalize hr : Regex.more greedy r = m at hm
  induction hm with
  | empty | chars | look | group | seq | first | second => cases hr
  | once greedy hbody ih =>
      cases hr
      rcases (h _ _ _).mp hbody with ⟨rfl, u, hu, hpass⟩
      exact ⟨rfl, u, [], by simpa using hu, by simpa using hpass⟩
  | again hbody hmore ih ihmore =>
      cases hr
      rcases (h _ _ _).mp hbody with ⟨rfl, u, hu, hpass⟩
      rcases ihmore rfl with ⟨rfl, v, vs, hvs, hpass'⟩
      refine ⟨rfl, u, v :: vs, ?_, hpass.trans hpass'⟩
      intro w hw
      rcases List.mem_cons.mp hw with rfl | hw
      · exact hu
      · exact hvs w hw

theorem more_of_flatten {greedy : Bool} (h : Spells r L) {u : Text} {us : List Text}
    (hus : ∀ v ∈ u :: us, v ∈ L) (hpass : c.Passes (u ++ us.flatten) d) :
    Matches (.more greedy r) c [] d := by
  -- The first round is kept apart, because a repetition has one at least.
  induction us generalizing u c with
  | nil =>
      refine .once greedy ((h _ _ _).mpr ⟨rfl, u, hus u (by simp), ?_⟩)
      simpa using hpass
  | cons v us ih =>
      rcases hpass.split with ⟨hfirst, hrest⟩
      have hbody := (h _ _ _).mpr ⟨rfl, u, hus u (by simp), hfirst⟩
      have hmore := ih (fun w hw => hus w (List.mem_cons_of_mem _ hw)) hrest
      exact .again hbody hmore

theorem more (greedy : Bool) (h : Spells r L) : Spells (.more greedy r) (L * L∗) := by
  intro c t d
  constructor
  · intro hm
    rcases flatten_of_more h hm with ⟨rfl, u, us, hus, hpass⟩
    refine ⟨rfl, u ++ us.flatten, Language.append_mem_mul (hus u (by simp)) ?_, hpass⟩
    exact Language.join_mem_kstar fun v hv => hus v (List.mem_cons_of_mem _ hv)
  · rintro ⟨rfl, w, hw, hpass⟩
    rcases Language.mem_mul.mp hw with ⟨u, hu, v, hv, rfl⟩
    rcases Language.mem_kstar.mp hv with ⟨us, rfl, hus⟩
    refine more_of_flatten h ?_ hpass
    intro v hv
    rcases List.mem_cons.mp hv with rfl | hv
    · exact hu
    · exact hus v hv

theorem many (greedy : Bool) (h : Spells r L) : Spells (r.many greedy) L∗ := by
  rw [← Language.one_add_self_mul_kstar_eq_kstar]
  exact (h.more greedy).optional greedy

end Spells
end Regex

/-! ## Patterns -/

namespace Pattern

variable {p : Pattern} {ps qs : List Pattern} {L M : Language Char} {c d : Cut} {t : Trace}

theorem matches_seqs_cons_iff :
    (seqs (p :: ps)).regex.Matches c t d ↔
      ∃ e t₁ t₂, p.regex.Matches c t₁ e ∧ (seqs ps).regex.Matches e t₂ d ∧ t = t₁ ++ t₂ := by
  cases ps with
  | nil =>
      constructor
      · intro h
        exact ⟨d, t, [], h, .empty d, (List.append_nil t).symm⟩
      · rintro ⟨e, t₁, t₂, h, h', rfl⟩
        rcases Regex.matches_empty_iff.mp h' with ⟨rfl, rfl⟩
        rw [List.append_nil]
        exact h
  | cons q ps => exact Regex.matches_seq_iff

theorem matches_seqs_append_iff :
    (seqs (ps ++ qs)).regex.Matches c t d ↔
      ∃ e t₁ t₂, (seqs ps).regex.Matches c t₁ e ∧ (seqs qs).regex.Matches e t₂ d ∧
        t = t₁ ++ t₂ := by
  induction ps generalizing c t with
  | nil =>
      constructor
      · intro h
        exact ⟨c, [], t, .empty c, h, rfl⟩
      · rintro ⟨e, t₁, t₂, h, h', rfl⟩
        rcases Regex.matches_empty_iff.mp h with ⟨rfl, rfl⟩
        exact h'
  | cons p ps ih =>
      rw [List.cons_append, matches_seqs_cons_iff]
      simp only [ih, matches_seqs_cons_iff]
      constructor
      · rintro ⟨e, t₁, _, hp, ⟨f, t₂, t₃, hps, hqs, rfl⟩, rfl⟩
        exact ⟨f, t₁ ++ t₂, t₃, ⟨e, t₁, t₂, hp, hps, rfl⟩, hqs, by simp⟩
      · rintro ⟨f, _, t₃, ⟨e, t₁, t₂, hp, hps, rfl⟩, hqs, rfl⟩
        exact ⟨e, t₁, t₂ ++ t₃, hp, ⟨f, t₂, t₃, hps, hqs, rfl⟩, by simp⟩

theorem matches_optional_iff :
    p.optional.regex.Matches c t d ↔ (t = [] ∧ d = c) ∨ p.regex.Matches c t d :=
  @Regex.matches_optional_iff _ _ _ _ true

abbrev Spells (p : Pattern) (L : Language Char) : Prop := p.regex.Spells L

namespace Spells

theorem seqs_nil : (seqs []).Spells 1 := Regex.Spells.empty

theorem seqs_cons (hp : p.Spells L) (hps : (seqs ps).Spells M) : (seqs (p :: ps)).Spells (L * M) :=
  Regex.Spells.append hp hps fun _ _ _ => matches_seqs_cons_iff

theorem seqs_pair {q : Pattern} (hp : p.Spells L) (hq : q.Spells M) :
    (seqs [p, q]).Spells (L * M) :=
  seqs_cons hp hq

theorem seqs_append (hps : (seqs ps).Spells L) (hqs : (seqs qs).Spells M) :
    (seqs (ps ++ qs)).Spells (L * M) :=
  Regex.Spells.append hps hqs fun _ _ _ => matches_seqs_append_iff

/-- Alternatives, one for each of some things. -/
theorem alts {α : Type} {pattern : α → Pattern} {language : α → Language Char}
    (h : ∀ x, (pattern x).Spells (language x)) (x : α) (xs : List α) :
    (Pattern.alts ((x :: xs).map pattern)).Spells (anyOf language (x :: xs)) := by
  induction xs generalizing x with
  | nil =>
      rw [anyOf_singleton]
      exact h x
  | cons y ys ih =>
      rw [anyOf_cons]
      exact Regex.Spells.alt (h x) (ih y)

theorem optional (hp : p.Spells L) : p.optional.Spells (1 + L) := Regex.Spells.optional true hp

theorem many (hp : p.Spells L) : p.many.Spells L∗ := Regex.Spells.many true hp

theorem single (x : Char) : (Pattern.chars (.single x)).Spells {[x]} := by
  have hone : (CharClass.single x).oneOf = {[x]} := by
    ext u
    constructor
    · rintro ⟨y, hy, rfl⟩
      -- A class holds numbers, and a character is determined by its own.
      have hcode : y.toNat = x.toNat := by
        simp only [CharClass.has, CharClass.single, CharClass.contains, Bool.and_eq_true,
          decide_eq_true_eq] at hy
        exact Nat.le_antisymm hy.2 hy.1
      rw [Char.toNat_inj.mp hcode]
      rfl
    · rintro rfl
      exact ⟨x, by simp [CharClass.has, CharClass.single, CharClass.contains], rfl⟩
  rw [← hone]
  exact Regex.Spells.chars _

theorem ofChars (u : Text) : (seqs (Pattern.ofChars u)).Spells {u} := by
  induction u with
  | nil => exact seqs_nil
  | cons x u ih =>
      have hcons : ({[x]} * {u} : Language Char) = {x :: u} := singleton_mul_singleton [x] u
      rw [← hcons]
      exact (single x).seqs_cons ih

end Spells

/-! ### Repetitions that take characters -/

theorem nullable_seqs (ps : List Pattern) :
    (seqs ps).regex.nullable = ps.all fun p => p.regex.nullable := by
  induction ps with
  | nil => rfl
  | cons p ps ih =>
      cases ps with
      | nil => simp [seqs]
      | cons q ps => simp [seqs, regex, Regex.nullable, ih]

theorem tame_seqs_iff {ps : List Pattern} :
    (seqs ps).regex.Tame ↔ ∀ p ∈ ps, p.regex.Tame := by
  induction ps with
  | nil => simp [seqs, regex, Regex.Tame]
  | cons p ps ih =>
      -- A row of one part is that part, so the cases are none, one and more.
      cases ps with
      | nil => simp [seqs]
      | cons q ps =>
          rw [List.forall_mem_cons, ← ih]
          rfl

theorem tame_alts {ps : List Pattern} (h : ∀ p ∈ ps, p.regex.Tame) : (alts ps).regex.Tame := by
  induction ps with
  | nil => trivial
  | cons p ps ih =>
      cases ps with
      | nil => exact h p (by simp)
      | cons q ps => exact ⟨h p (by simp), ih fun p hp => h p (List.mem_cons_of_mem _ hp)⟩

theorem nullable_alts {ps : List Pattern} (h : ∀ p ∈ ps, p.regex.nullable = false) :
    (alts ps).regex.nullable = false := by
  induction ps with
  | nil => rfl
  | cons p ps ih =>
      cases ps with
      | nil => exact h p (by simp)
      | cons q ps =>
          have hp := h p (by simp)
          have hps := ih fun p hp => h p (List.mem_cons_of_mem _ hp)
          simp [alts, regex, Regex.nullable, hp, hps]

/-- A row with a part that takes a character takes a character. -/
theorem nullable_seqs_eq_false {ps : List Pattern} {p : Pattern} (hp : p ∈ ps)
    (hn : p.regex.nullable = false) : (seqs ps).regex.nullable = false := by
  rw [nullable_seqs, List.all_eq_false]
  exact ⟨p, hp, by simp [hn]⟩

theorem tame_ofChars (u : Text) : ∀ p ∈ ofChars u, p.regex.Tame := by
  intro p hp
  rcases List.mem_map.mp hp with ⟨x, _, rfl⟩
  trivial

/-- A text that is not empty takes a character. -/
theorem exists_mem_ofChars {u : Text} (hu : u ≠ []) :
    ∃ p ∈ ofChars u, p.regex.nullable = false := by
  rcases List.exists_cons_of_ne_nil hu with ⟨x, u, rfl⟩
  exact ⟨.chars (.single x), by simp [ofChars], rfl⟩

theorem tame_optional (hp : p.regex.Tame) : p.optional.regex.Tame := ⟨hp, trivial⟩

/-- A row that goes round, one part of which takes a character. -/
theorem tame_many (hp : p ∈ ps) (hn : p.regex.nullable = false) (hps : ∀ q ∈ ps, q.regex.Tame) :
    (seqs ps).many.regex.Tame :=
  ⟨⟨nullable_seqs_eq_false hp hn, tame_seqs_iff.mpr hps⟩, trivial⟩

end Pattern
end PathTemplate
