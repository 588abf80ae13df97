import Mathlib.Data.List.Chain
import Mathlib.Data.List.TakeWhile
import Mathlib.Tactic.MkIffOfInductiveProp
import PathTemplate.Part.Reader

/-!
# Grammar — the template texts that can be read

- `Escaped`, `IsName`      : the texts of defaults and arguments, and of names
- `VariableSpec.IsSpec`, `Part.IsExtended` : the expressions of the extended dialect
- `Parsed.WellFormed`      : rows of literals and expressions as a template has them
- `Parsed.SpeltBy`         : the texts that spell a row of parts
- `Reader.template_eq_ok_iff`  : a text is taken apart into the parts that it spells
- `Parsed.ofText?_extended_iff` : in the extended dialect these are the parts that render to it

Each reader has two lemmas.  The one named `_eq_ok` says that the text it got is what it read,
rendered, with the text it left behind that.  The one named `_append` says that it reads what is
well-formed up to the first character that cannot go on with it.
-/

namespace PathTemplate

/-- A computation in steps succeeds if both of its steps do. -/
theorem bind_eq_ok {ε α β : Type} {x : Except ε α} {f : α → Except ε β} {b : β} :
    (x >>= f) = .ok b ↔ ∃ a, x = .ok a ∧ f a = .ok b := by
  cases x with
  | error e =>
      constructor
      · intro h
        cases h
      · rintro ⟨_, h, _⟩
        cases h
  | ok a =>
      constructor
      · intro h
        exact ⟨a, rfl, h⟩
      · rintro ⟨_, ha, h⟩
        cases ha
        exact h

/-- A test of the outcome tells that there is one. -/
theorem exists_ok_of_any {ε α : Type} {x : Except ε α} {test : α → Bool}
    (h : x.toOption.any test = true) : ∃ a, x = .ok a ∧ test a = true := by
  cases x with
  | error e => cases h
  | ok a => exact ⟨a, rfl, h⟩

open Reader

/-! ## The grammar -/

/-- Accepted characters and escapes `%XX`, in any order. -/
inductive Escaped (accept : Char → Bool) : Text → Prop
  | nil : Escaped accept []
  | plain {c : Char} {t : Text} : accept c = true → Escaped accept t → Escaped accept (c :: t)
  | escape {h l : Char} {t : Text} :
      Percent.isHexDigit h = true → Percent.isHexDigit l = true → Escaped accept t →
        Escaped accept ('%' :: h :: l :: t)

def IsName : Text → Prop
  | [] => False
  | c :: t => isWord c = true ∧ ∀ d ∈ t, isNameRest d = true

structure VariableSpec.IsSpec (v : VariableSpec) : Prop where
  name : IsName v.1
  default : ∀ d ∈ v.2, Escaped isDefaultChar d

inductive Part.IsExtended : Part → Prop
  | named {v : VariableSpec} : v.IsSpec → IsExtended (.variable v.1 none v.2)
  | operator {name arg : Text} {vars : List VariableSpec} :
      name ≠ [] → (∀ c ∈ name, c.isAlpha = true) → Escaped isArgumentChar arg →
        vars ≠ [] → (∀ v ∈ vars, v.IsSpec) → IsExtended (.operator name arg vars)

def Part.isLiteral : Part → Bool
  | .literal _ => true
  | .variable .. => false
  | .operator .. => false

@[mk_iff]
structure Parsed.WellFormed (IsExpression : Part → Prop) (p : Parsed) : Prop where
  literals : ∀ t, .literal t ∈ p.parts → t ≠ [] ∧ ∀ c ∈ t, isLiteralChar c = true
  expressions : ∀ q ∈ p.parts, q.isLiteral = false → IsExpression q
  /-- No two literals stand side by side. -/
  apart : p.parts.IsChain fun a b => a.isLiteral = false ∨ b.isLiteral = false
  last : ∀ q ∈ p.parts.getLast?, q.isLiteral = false
  trailing : ∀ c ∈ p.trailing, isLiteralChar c = true

/-- The texts that spell a row of parts.  `Spells q s` says that `s` spells the expression `q`,
without its opening brace. -/
inductive Parsed.SpeltBy (Spells : Part → Text → Prop) : Parsed → Text → Prop
  | trailing {t : Text} : (∀ c ∈ t, isLiteralChar c = true) → SpeltBy Spells ⟨[], t⟩ t
  | expression {lit s t : Text} {q : Part} {p : Parsed} :
      (∀ c ∈ lit, isLiteralChar c = true) → Spells q s → SpeltBy Spells p t →
        SpeltBy Spells { p with parts := literalPart lit ++ q :: p.parts } (lit ++ '{' :: (s ++ t))

/-! ## Names, defaults and arguments -/

namespace Reader

variable {accept : Char → Bool} {s t r n : Text} {c d : Char}

theorem expect_eq_ok_iff : expect c t = .ok r ↔ t = c :: r := by
  cases t with
  | nil => simp [expect]
  | cons d t =>
      rw [expect]
      split
      case isTrue h => simp [h]
      case isFalse h => simp [h]

/-- A run of characters ends in front of the first that does not belong to it. -/
theorem span_append_cons {p : Char → Bool} (hs : ∀ c ∈ s, p c = true) (hc : p c = false) :
    (s ++ c :: r).takeWhile p = s ∧ (s ++ c :: r).dropWhile p = c :: r := by
  constructor
  · simp [List.takeWhile_append_of_pos hs, hc]
  · simp [List.dropWhile_append_of_pos hs, hc]

theorem name_eq_ok (h : name t = .ok (n, r)) : IsName n ∧ t = n ++ r := by
  cases t with
  | nil => cases h
  | cons c t =>
      rw [name] at h
      split at h
      case isTrue hc =>
        cases h
        refine ⟨⟨hc, ?_⟩, ?_⟩
        · intro d hd
          exact List.mem_takeWhile_imp hd
        · rw [List.cons_append, List.takeWhile_append_dropWhile]
      case isFalse => cases h

theorem name_append (h : IsName n) (hc : isNameRest c = false) :
    name (n ++ c :: r) = .ok (n, c :: r) := by
  cases n with
  | nil => exact h.elim
  | cons d n =>
      obtain ⟨htake, hdrop⟩ := span_append_cons (r := r) h.2 hc
      rw [List.cons_append, name, if_pos h.1, htake, hdrop]

theorem prepend_eq_ok {p : Text} {x : Except Stop (Text × Text)} (h : prepend p x = .ok (s, r)) :
    ∃ s', x = .ok (s', r) ∧ s = p ++ s' := by
  cases x with
  | error e => cases h
  | ok y =>
      cases h
      exact ⟨y.1, rfl, rfl⟩

theorem escaped_eq_ok (h : escaped accept t = .ok (s, r)) : Escaped accept s ∧ t = s ++ r := by
  fun_induction escaped accept t generalizing s with
  | case1 =>
      cases h
      exact ⟨.nil, rfl⟩
  | case2 h' l t hhex ih =>
      obtain ⟨s, hs, rfl⟩ := prepend_eq_ok h
      obtain ⟨hescaped, rfl⟩ := ih hs
      rw [Bool.and_eq_true] at hhex
      exact ⟨.escape hhex.1 hhex.2 hescaped, rfl⟩
  | case3 => cases h
  | case4 => cases h
  | case5 c t _ _ hc ih =>
      obtain ⟨s, hs, rfl⟩ := prepend_eq_ok h
      obtain ⟨hescaped, rfl⟩ := ih hs
      exact ⟨.plain hc hescaped, rfl⟩
  | case6 =>
      cases h
      exact ⟨.nil, rfl⟩

theorem escaped_append (h : Escaped accept s) (hpercent : accept '%' = false)
    (hc : accept c = false) (hne : c ≠ '%') :
    escaped accept (s ++ c :: r) = .ok (s, c :: r) := by
  induction h with
  | nil => simp [escaped, hc, hne]
  | @plain d s hd _ ih =>
      have hdne : d ≠ '%' := by
        rintro rfl
        exact Bool.false_ne_true (hpercent.symm.trans hd)
      rw [List.cons_append, escaped, if_neg hdne, if_pos hd, ih]
      · rfl
      · intro _ _ _ heq
        exact absurd heq hdne
  | escape hh hl _ ih =>
      simp only [List.cons_append]
      rw [escaped, if_pos (by rw [hh, hl]; rfl), ih]
      rfl

/-! ## Variables of an expression -/

variable {v : VariableSpec} {vs : List VariableSpec}

theorem variableSpec_eq_ok (h : variableSpec t = .ok (v, r)) : v.IsSpec ∧ t = v.render ++ r := by
  obtain ⟨⟨n, t'⟩, hn, h⟩ := bind_eq_ok.mp h
  obtain ⟨hname, ht⟩ := name_eq_ok hn
  dsimp only at h
  split at h
  case h_1 t' =>
    obtain ⟨⟨d, r'⟩, hd, h⟩ := bind_eq_ok.mp h
    cases h
    obtain ⟨hdefault, rfl⟩ := escaped_eq_ok hd
    refine ⟨⟨hname, ?_⟩, ?_⟩
    · rintro _ ⟨⟩
      exact hdefault
    · simp [ht, VariableSpec.render, renderOptional]
  case h_2 =>
    cases h
    refine ⟨⟨hname, ?_⟩, ?_⟩
    · rintro _ ⟨⟩
    · simp [ht, VariableSpec.render, renderOptional]

theorem variableSpec_append (h : v.IsSpec) (hc : c = ',' ∨ c = '}') :
    variableSpec (v.render ++ c :: r) = .ok (v, c :: r) := by
  -- Neither a comma nor a closing brace goes on with a name or a default, or begins one.
  obtain ⟨hname, hdefault, hpercent, hequals⟩ :
      isNameRest c = false ∧ isDefaultChar c = false ∧ c ≠ '%' ∧ c ≠ '=' := by
    rcases hc with rfl | rfl <;> decide
  obtain ⟨n, d⟩ := v
  apply bind_eq_ok.mpr
  cases d with
  | none =>
      refine ⟨(n, c :: r), ?_, ?_⟩
      · simpa [VariableSpec.render, renderOptional] using name_append h.name hname
      · dsimp only
        split
        case h_1 heq => exact absurd (List.cons.inj heq).1 hequals
        case h_2 => rfl
  | some d =>
      refine ⟨(n, '=' :: (d ++ c :: r)), ?_, ?_⟩
      · have hread := name_append (r := d ++ c :: r) h.name (c := '=') (by decide)
        simpa [VariableSpec.render, renderOptional] using hread
      · have hread := escaped_append (r := r) (h.default d rfl) (by decide) hdefault hpercent
        exact bind_eq_ok.mpr ⟨_, hread, rfl⟩

theorem variableSpecs_eq_ok (h : variableSpecs t = .ok (vs, r)) :
    vs ≠ [] ∧ (∀ v ∈ vs, v.IsSpec) ∧ t = Text.join [','] (vs.map VariableSpec.render) ++ r := by
  fun_induction variableSpecs t generalizing vs r with
  | case1 => cases h
  | case2 => simp_all
  | case3 t v r' hv vs' r'' hr ih =>
      cases h
      obtain ⟨hne, hspecs, rfl⟩ := ih hr
      obtain ⟨hspec, rfl⟩ := variableSpec_eq_ok hv
      refine ⟨List.cons_ne_nil _ _, List.forall_mem_cons.mpr ⟨hspec, hspecs⟩, ?_⟩
      rw [List.map_cons, Text.join_cons_of_ne_nil _ _ (by simpa using hne)]
      simp
  | case4 t v r' _ hv =>
      cases h
      obtain ⟨hspec, rfl⟩ := variableSpec_eq_ok hv
      exact ⟨List.cons_ne_nil _ _, List.forall_mem_singleton.mpr hspec, rfl⟩

theorem variableSpecs_of_last (h : variableSpec t = .ok (v, c :: r)) (hc : c ≠ ',') :
    variableSpecs t = .ok ([v], c :: r) := by
  rw [variableSpecs]
  split
  case h_1 => simp_all
  case h_2 hcomma =>
    cases h.symm.trans hcomma
    exact absurd rfl hc
  case h_3 => simp_all

theorem variableSpecs_of_comma (h : variableSpec t = .ok (v, ',' :: s))
    (hs : variableSpecs s = .ok (vs, r)) : variableSpecs t = .ok (v :: vs, r) := by
  rw [variableSpecs]
  split <;> simp_all

theorem variableSpecs_append (hne : vs ≠ []) (h : ∀ v ∈ vs, v.IsSpec) :
    variableSpecs (Text.join [','] (vs.map VariableSpec.render) ++ '}' :: r) =
      .ok (vs, '}' :: r) := by
  induction vs with
  | nil => exact absurd rfl hne
  | cons v vs ih =>
      obtain ⟨hv, hvs⟩ := List.forall_mem_cons.mp h
      cases vs with
      | nil => exact variableSpecs_of_last (variableSpec_append hv (.inr rfl)) (by decide)
      | cons w vs =>
          have hrest := ih (List.cons_ne_nil w vs) hvs
          have hread := variableSpecs_of_comma (variableSpec_append hv (.inl rfl)) hrest
          simpa [Text.join] using hread

/-! ## Expressions -/

def operatorText (name arg : Text) (vars : List VariableSpec) : Text :=
  name ++ '|' :: (arg ++ '|' :: Text.join [','] (vars.map VariableSpec.render))

/-- The text `s` spells the expression `p`, from behind its opening brace to its closing one. -/
def SpellsExtended (p : Part) (s : Text) : Prop := p.IsExtended ∧ p.render = '{' :: s

variable {p : Part}

theorem render_named (v : VariableSpec) :
    (Part.variable v.1 none v.2).render = '{' :: (v.render ++ ['}']) := by
  simp [Part.render, VariableSpec.render, renderOptional]

theorem render_operator (name arg : Text) (vars : List VariableSpec) :
    (Part.operator name arg vars).render = '{' :: ('-' :: operatorText name arg vars ++ ['}']) := by
  simp [Part.render, operatorText]

theorem exists_spellsExtended (h : p.IsExtended) : ∃ s, SpellsExtended p (s ++ ['}']) := by
  cases h with
  | named hspec => exact ⟨_, .named hspec, render_named _⟩
  | operator hne hletters harg hvars hspecs =>
      exact ⟨_, .operator hne hletters harg hvars hspecs, render_operator _ _ _⟩

theorem operator_eq_ok (h : operator t = .ok (p, r)) :
    ∃ s, SpellsExtended p ('-' :: s ++ ['}']) ∧ t = s ++ r := by
  rw [operator] at h
  split at h
  case isTrue => cases h
  case isFalse hname =>
    obtain ⟨t₁, h₁, h⟩ := bind_eq_ok.mp h
    obtain ⟨⟨arg, t₂⟩, h₂, h⟩ := bind_eq_ok.mp h
    obtain ⟨t₃, h₃, h⟩ := bind_eq_ok.mp h
    obtain ⟨⟨vars, t₄⟩, h₄, h⟩ := bind_eq_ok.mp h
    cases h
    obtain ⟨harg, rfl⟩ := escaped_eq_ok h₂
    obtain rfl := expect_eq_ok_iff.mp h₃
    obtain ⟨hne, hspecs, rfl⟩ := variableSpecs_eq_ok h₄
    have hletters : ∀ c ∈ t.takeWhile Char.isAlpha, c.isAlpha = true := by
      intro c hc
      exact List.mem_takeWhile_imp hc
    refine ⟨operatorText (t.takeWhile Char.isAlpha) arg vars,
      ⟨.operator hname hletters harg hne hspecs, render_operator _ _ _⟩, ?_⟩
    calc
      t = t.takeWhile Char.isAlpha ++ t.dropWhile Char.isAlpha :=
          List.takeWhile_append_dropWhile.symm
      _ = operatorText (t.takeWhile Char.isAlpha) arg vars ++ r := by
          rw [expect_eq_ok_iff.mp h₁]
          simp [operatorText]

theorem operator_append {name arg : Text} (hne : name ≠ [])
    (hletters : ∀ c ∈ name, c.isAlpha = true) (harg : Escaped isArgumentChar arg)
    (hvars : vs ≠ []) (hspecs : ∀ v ∈ vs, v.IsSpec) :
    operator (operatorText name arg vs ++ '}' :: r) = .ok (.operator name arg vs, '}' :: r) := by
  have htext : operatorText name arg vs ++ '}' :: r =
      name ++ '|' :: (arg ++ '|' ::
        (Text.join [','] (vs.map VariableSpec.render) ++ '}' :: r)) := by
    simp [operatorText]
  obtain ⟨htake, hdrop⟩ := span_append_cons (c := '|')
    (r := arg ++ '|' :: (Text.join [','] (vs.map VariableSpec.render) ++ '}' :: r))
    hletters (by decide)
  rw [htext, operator, htake, hdrop, if_neg hne]
  apply bind_eq_ok.mpr ⟨_, expect_eq_ok_iff.mpr rfl, ?_⟩
  apply bind_eq_ok.mpr ⟨_, escaped_append harg (by decide) (by decide) (by decide), ?_⟩
  apply bind_eq_ok.mpr ⟨_, expect_eq_ok_iff.mpr rfl, ?_⟩
  exact bind_eq_ok.mpr ⟨_, variableSpecs_append hvars hspecs, rfl⟩

theorem expansion_eq_ok (h : expansion t = .ok (p, r)) :
    ∃ s, SpellsExtended p (s ++ ['}']) ∧ t = s ++ r := by
  unfold expansion at h
  split at h
  case h_1 t =>
    obtain ⟨s, hs, ht⟩ := operator_eq_ok h
    exact ⟨'-' :: s, hs, congrArg _ ht⟩
  case h_2 =>
    obtain ⟨⟨v, t'⟩, hv, h⟩ := bind_eq_ok.mp h
    cases h
    obtain ⟨hspec, ht⟩ := variableSpec_eq_ok hv
    exact ⟨v.render, ⟨.named hspec, render_named v⟩, ht⟩

theorem expansion_append (h : SpellsExtended p (s ++ ['}'])) :
    expansion (s ++ '}' :: r) = .ok (p, '}' :: r) := by
  obtain ⟨hp, hrender⟩ := h
  cases hp with
  | @named v hspec =>
      have htext := (render_named v).symm.trans hrender
      obtain rfl := List.append_cancel_right (List.cons.inj htext).2
      have hread := variableSpec_append (r := r) hspec (.inr rfl)
      unfold expansion
      split
      -- A name does not begin with a minus sign.
      case h_1 t heq =>
        rw [heq] at hread
        cases hread
      case h_2 => exact bind_eq_ok.mpr ⟨_, hread, rfl⟩
  | @operator name arg vars hne hletters harg hvars hspecs =>
      have htext := (render_operator name arg vars).symm.trans hrender
      obtain rfl := List.append_cancel_right (List.cons.inj htext).2
      exact operator_append hne hletters harg hvars hspecs

theorem extendedExpression_eq_ok_iff :
    extendedExpression t = .ok (p, r) ↔ ∃ s, SpellsExtended p s ∧ t = s ++ r := by
  constructor
  · intro h
    obtain ⟨⟨q, t'⟩, hq, h⟩ := bind_eq_ok.mp h
    obtain ⟨t₂, ht₂, h⟩ := bind_eq_ok.mp h
    cases h
    obtain ⟨s, ⟨hp, hrender⟩, rfl⟩ := expansion_eq_ok hq
    refine ⟨s ++ ['}'], ⟨hp, hrender⟩, ?_⟩
    rw [expect_eq_ok_iff.mp ht₂]
    simp
  · rintro ⟨s, ⟨hp, hrender⟩, rfl⟩
    obtain ⟨s', hs'⟩ := exists_spellsExtended hp
    obtain rfl := (List.cons.inj (hs'.2.symm.trans hrender)).2
    have hread := expansion_append (r := r) hs'
    rw [List.append_assoc]
    exact bind_eq_ok.mpr ⟨_, hread, bind_eq_ok.mpr ⟨_, expect_eq_ok_iff.mpr rfl, rfl⟩⟩

/-! ## Rows of parts -/

variable {Spells : Part → Text → Prop} {d : Dialect} {q : Parsed}

theorem template_of_plain (h : t.dropWhile isLiteralChar = []) : template d t = .ok ⟨[], t⟩ := by
  rw [template]
  split <;> simp_all

theorem template_of_expression (h : t.dropWhile isLiteralChar = '{' :: s)
    (hp : expression d s = .ok (p, r)) (hq : template d r = .ok q) :
    template d t =
      .ok { q with parts := literalPart (t.takeWhile isLiteralChar) ++ p :: q.parts } := by
  rw [template]
  split
  case h_1 hdrop => cases h.symm.trans hdrop
  case h_2 hdrop =>
    cases h.symm.trans hdrop
    split <;> simp_all
  case h_3 hne hdrop =>
    cases h.symm.trans hdrop
    exact (hne rfl).elim

/-- A text is taken apart into the parts that it spells, if this is so of single expressions. -/
theorem template_eq_ok_iff
    (hexpression : ∀ {t p r}, expression d t = .ok (p, r) ↔ ∃ s, Spells p s ∧ t = s ++ r) :
    template d t = .ok q ↔ q.SpeltBy Spells t := by
  constructor
  · intro h
    -- By the rounds of the reader: each gives the literal in front of an expression, and it.
    fun_induction template d t generalizing q with
    | case1 t hdrop =>
        cases h
        exact .trailing (List.dropWhile_eq_nil_iff.mp hdrop)
    | case2 => cases h
    | case3 => cases h
    | case4 t u hdrop p r he rest hrest ih =>
        cases h
        obtain ⟨s, hs, rfl⟩ := hexpression.mp he
        have hplain : ∀ c ∈ t.takeWhile isLiteralChar, isLiteralChar c = true := by
          intro c hc
          exact List.mem_takeWhile_imp hc
        have hspelt := Parsed.SpeltBy.expression hplain hs (ih hrest)
        rwa [← hdrop, List.takeWhile_append_dropWhile] at hspelt
    | case5 => cases h
  · intro h
    induction h with
    | trailing hplain => exact template_of_plain (List.dropWhile_eq_nil_iff.mpr hplain)
    | @expression lit s t p q hplain hs _ ih =>
        obtain ⟨htake, hdrop⟩ := span_append_cons (c := '{') (r := s ++ t) hplain (by decide)
        have hread := template_of_expression hdrop (hexpression.mpr ⟨s, hs, rfl⟩) ih
        rwa [htake] at hread

end Reader

namespace Parsed

variable {IsExpression : Part → Prop} {q : Part} {ps : List Part} {tr t : Text}

theorem wellFormed_cons_expression (hlit : q.isLiteral = false) :
    WellFormed IsExpression ⟨q :: ps, tr⟩ ↔ IsExpression q ∧ WellFormed IsExpression ⟨ps, tr⟩ := by
  have hne : ∀ t, .literal t ≠ q := by
    rintro t rfl
    cases hlit
  cases ps with
  | nil => simp [wellFormed_iff, hlit, hne]
  | cons a ps => simp [wellFormed_iff, hlit, hne]; tauto

theorem wellFormed_cons_literal :
    WellFormed IsExpression ⟨.literal t :: ps, tr⟩ ↔
      (t ≠ [] ∧ ∀ c ∈ t, isLiteralChar c = true) ∧ (∃ q ∈ ps.head?, q.isLiteral = false) ∧
        WellFormed IsExpression ⟨ps, tr⟩ := by
  cases ps with
  | nil => simp [wellFormed_iff, Part.isLiteral]
  | cons a ps => simp [wellFormed_iff, Part.isLiteral]; tauto

variable {Spells : Part → Text → Prop} {p : Parsed}

theorem SpeltBy.wellFormed (h : p.SpeltBy Spells t)
    (hspells : ∀ {q s}, Spells q s → IsExpression q ∧ q.isLiteral = false) :
    p.WellFormed IsExpression := by
  induction h with
  | trailing hplain => simpa [wellFormed_iff] using hplain
  | @expression lit s t q p hplain hs _ ih =>
      obtain ⟨hq, hlit⟩ := hspells hs
      have hwf := (wellFormed_cons_expression hlit).mpr ⟨hq, ih⟩
      rw [literalPart]
      split
      case isTrue => exact hwf
      case isFalse hne => exact wellFormed_cons_literal.mpr ⟨⟨hne, hplain⟩, ⟨q, rfl, hlit⟩, hwf⟩

theorem SpeltBy.render_eq (h : p.SpeltBy Spells t)
    (hspells : ∀ {q s}, Spells q s → q.render = '{' :: s) : p.render = t := by
  induction h with
  | trailing => rfl
  | @expression lit s t q p _ hs _ ih =>
      have hliteral : (literalPart lit).flatMap Part.render = lit := by
        rw [literalPart]
        split
        case isTrue h => exact h.symm
        case isFalse => simp [Part.render]
      simp [render, hliteral, hspells hs, ← ih]

/-- Well-formed parts are spelt by their rendering.  The literal in front of them is the one that
the induction has passed and that goes with the next expression. -/
theorem WellFormed.speltBy_append (h : WellFormed IsExpression ⟨ps, tr⟩)
    (hspells : ∀ {q}, IsExpression q → ∃ s, Spells q s ∧ q.render = '{' :: s)
    (hplain : ∀ c ∈ t, isLiteralChar c = true)
    (hhead : t = [] ∨ ∃ q ∈ ps.head?, q.isLiteral = false) :
    SpeltBy Spells ⟨literalPart t ++ ps, tr⟩ (t ++ render ⟨ps, tr⟩) := by
  -- The text in front is general: a literal part is put behind it before its expression is.
  induction ps generalizing t with
  | nil =>
      obtain rfl : t = [] := by simpa using hhead
      exact .trailing h.trailing
  | cons q ps ih =>
      cases hlit : q.isLiteral with
      | false =>
          obtain ⟨hq, h⟩ := (wellFormed_cons_expression hlit).mp h
          obtain ⟨s, hs, hrender⟩ := hspells hq
          have hspelt := SpeltBy.expression hplain hs (ih h (t := []) (by simp) (.inl rfl))
          simpa [render, literalPart, hrender] using hspelt
      | true =>
          obtain ⟨u, rfl⟩ : ∃ u, q = .literal u := by
            cases q with
            | literal u => exact ⟨u, rfl⟩
            | _ => cases hlit
          obtain rfl : t = [] := by simpa [Part.isLiteral] using hhead
          obtain ⟨⟨hne, hu⟩, hhead, h⟩ := wellFormed_cons_literal.mp h
          have hspelt := ih h hu (.inr hhead)
          simpa [render, literalPart, hne, Part.render] using hspelt

theorem WellFormed.speltBy (h : p.WellFormed IsExpression)
    (hspells : ∀ {q}, IsExpression q → ∃ s, Spells q s ∧ q.render = '{' :: s) :
    p.SpeltBy Spells p.render :=
  h.speltBy_append (t := []) hspells (by simp) (.inl rfl)

/-! ## The extended dialect -/

theorem speltBy_extended_iff :
    p.SpeltBy SpellsExtended t ↔ p.WellFormed Part.IsExtended ∧ p.render = t := by
  constructor
  · intro h
    refine ⟨h.wellFormed ?_, h.render_eq fun hs => hs.2⟩
    rintro q s ⟨hq, -⟩
    refine ⟨hq, ?_⟩
    cases hq <;> rfl
  · rintro ⟨h, rfl⟩
    apply h.speltBy
    intro q hq
    obtain ⟨s, hs⟩ := exists_spellsExtended hq
    exact ⟨s ++ ['}'], hs, hs.2⟩

theorem ofText?_eq_ok_iff {d : Dialect} : ofText? d t = .ok p ↔ template d t = .ok p := by
  rw [ofText?]
  cases template d t <;> simp

/-- In the extended dialect exactly the renderings of well-formed parts can be taken apart, and each
into the parts that it renders. -/
theorem ofText?_extended_iff (t : Text) :
    ((∃ p, ofText? .extended t = .ok p) ↔
      ∃ p : Parsed, p.WellFormed Part.IsExtended ∧ p.render = t) ∧
    ∀ p, ofText? .extended t = .ok p ↔ p.WellFormed Part.IsExtended ∧ p.render = t := by
  have hread : ∀ p, ofText? .extended t = .ok p ↔ p.WellFormed Part.IsExtended ∧ p.render = t := by
    intro p
    calc
      ofText? .extended t = .ok p ↔ template .extended t = .ok p := ofText?_eq_ok_iff
      _ ↔ p.SpeltBy SpellsExtended t := template_eq_ok_iff extendedExpression_eq_ok_iff
      _ ↔ p.WellFormed Part.IsExtended ∧ p.render = t := speltBy_extended_iff
  exact ⟨exists_congr hread, hread⟩

end Parsed

end PathTemplate
