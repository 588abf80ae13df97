import PathTemplate.Proofs.Multimap
import PathTemplate.Proofs.Part.Grammar
import PathTemplate.Template

/-!
# Building — what holds of every template that compiles

- `Part.Fits`            : what the reader guarantees of a part
- `Element.IsBuilt`      : what the builder guarantees of an element
- `Builder.addParts_induction` : what each part keeps holds behind all parts
- `Builder.Invariant`    : what holds of a builder after every part
- `Template.WellFormed`  : what holds of a compiled template
- `Builder.StandsFor`    : the elements that may be built for a part
- `Template.wellFormed_of_compileWith` : a template that compiles is well-formed
- `Template.exists_standsFor` : each of its elements stands for a part of the text
- `Template.isName_of_mem_names` : the names of its operators are spelt as names of variables
- `WellFormed.regex_eq`  : the expression of a well-formed template without constraints
-/

namespace PathTemplate

/-! ## Parts -/

/-- What the reader guarantees of a part: only variables of the simple dialect have constraints, and
operators, which have at least one variable, belong to the extended dialect. -/
def Part.Fits (d : Dialect) : Part → Prop
  | .literal _ => True
  | .variable _ constraint _ => d = .extended → constraint = none
  | .operator _ _ vars => d = .extended ∧ vars ≠ []

namespace Reader

variable {t r : Text} {p : Part}

theorem fits_simpleVariable (h : simpleVariable t = .ok (p, r)) : p.Fits .simple := by
  rcases bind_eq_ok.mp h with ⟨_, _, h⟩
  rcases bind_eq_ok.mp h with ⟨_, _, h⟩
  rcases bind_eq_ok.mp h with ⟨_, _, h⟩
  cases h
  intro hd
  cases hd

theorem fits_of_isExtended (h : p.IsExtended) : p.Fits .extended := by
  cases h with
  | named => exact fun _ => rfl
  | operator _ _ _ hvars _ => exact ⟨rfl, hvars⟩

theorem fits_expression {d : Dialect} (h : expression d t = .ok (p, r)) : p.Fits d := by
  cases d with
  | simple => exact fits_simpleVariable h
  | extended =>
      obtain ⟨_, ⟨hp, -⟩, -⟩ := extendedExpression_eq_ok_iff.mp h
      exact fits_of_isExtended hp

/-- Every part of a template fits its dialect. -/
theorem fits_template {d : Dialect} {parsed : Parsed} (h : template d t = .ok parsed) :
    ∀ p ∈ parsed.parts, p.Fits d := by
  fun_induction template d t generalizing parsed with
  | case1 =>
      cases h
      intro p hp
      cases hp
  | case2 => cases h
  | case3 => cases h
  -- The text before the expression is a literal, and the parts after it fit by the hypothesis.
  | case4 t _ _ p _ he rest hrest ih =>
      cases h
      intro q hq
      rcases List.mem_append.mp hq with hq | hq
      · rw [literalPart] at hq
        split at hq
        · cases hq
        · rw [List.mem_singleton.mp hq]
          trivial
      · rcases List.mem_cons.mp hq with rfl | hq
        · exact fits_expression he
        · exact ih hrest q hq
  | case5 => cases h

end Reader

theorem Parsed.fits_ofText? {d : Dialect} {t : Text} {parsed : Parsed}
    (h : Parsed.ofText? d t = .ok parsed) : ∀ p ∈ parsed.parts, p.Fits d := by
  rw [Parsed.ofText?] at h
  split at h
  case h_1 p hp =>
    cases h
    exact Reader.fits_template hp
  case h_2 => cases h

/-! ## Operators and elements -/

namespace Operator

theorem mergeVar_ne_nil (vars : List VariableSpec) (v : VariableSpec) : mergeVar vars v ≠ [] := by
  unfold mergeVar
  split
  · exact List.cons_ne_nil _ _
  · split <;> exact List.cons_ne_nil _ _

theorem mergeVars_ne_nil {vars : List VariableSpec} (h : vars ≠ []) : mergeVars vars ≠ [] := by
  -- Merging a variable never empties the list it is merged into.
  have hfold : ∀ (vs acc : List VariableSpec), acc ≠ [] → vs.foldl mergeVar acc ≠ [] := by
    intro vs
    induction vs with
    | nil => exact fun acc hacc => hacc
    | cons v vs ih => exact fun acc _ => ih _ (mergeVar_ne_nil acc v)
  cases vars with
  | nil => exact absurd rfl h
  | cons v vs => exact hfold vs _ (mergeVar_ne_nil [] v)

theorem names_mergeVar (vars : List VariableSpec) (v : VariableSpec) :
    (mergeVar vars v).map (·.1) = insertLast (vars.map (·.1)) v.1 := by
  induction vars with
  | nil => rfl
  | cons w rest ih =>
      rw [mergeVar]
      split
      case isTrue heq =>
        have hmem : v.1 ∈ (w :: rest).map (·.1) := List.mem_cons.mpr (.inl heq.symm)
        rw [insertLast_of_mem hmem]
        rfl
      case isFalse hne => rw [List.map_cons, ih, List.map_cons, insertLast_cons_of_ne _ hne]

/-- Merging keeps the first occurrence of each name. -/
theorem names_mergeVars (vars : List VariableSpec) :
    (mergeVars vars).map (·.1) = (vars.map (·.1)).eraseDups := by
  have hfold : ∀ acc : List VariableSpec, (vars.foldl mergeVar acc).map (·.1) =
      (vars.map (·.1)).foldl insertLast (acc.map (·.1)) := by
    induction vars with
    | nil => exact fun acc => rfl
    | cons v vs ih =>
        intro acc
        rw [List.foldl_cons, ih, names_mergeVar, List.map_cons, List.foldl_cons]
  exact (hfold []).trans (foldl_insertLast [] _)

/-- Merging leaves each name once. -/
theorem nodup_names_mergeVars (vars : List VariableSpec) : ((mergeVars vars).map (·.1)).Nodup := by
  rw [names_mergeVars]
  exact nodup_eraseDups _

/-- Merging keeps every name. -/
theorem mem_names_mergeVars {vars : List VariableSpec} {n : Text} :
    n ∈ (mergeVars vars).map (·.1) ↔ n ∈ vars.map (·.1) := by
  rw [names_mergeVars, List.mem_eraseDups]

/-- An operator is made of parts that have a known name and meet its demands. -/
theorem make?_eq_ok_iff {name arg : Text} {vars : List VariableSpec} {group : Nat}
    {o : Operator} :
    make? name arg vars group = .ok o ↔
      ∃ kind, OperatorKind.ofName? name = some kind ∧
        (kind.isUnary = true → (mergeVars vars).length = 1) ∧
        (kind.cutsAtArgument = true → arg ≠ []) ∧ o = ⟨kind, arg, mergeVars vars, group⟩ := by
  unfold make?
  cases OperatorKind.ofName? name with
  | none => simp
  | some kind =>
      dsimp only
      split
      case isTrue hcount =>
        constructor
        · intro h
          cases h
        · rintro ⟨_, ⟨⟩, hlength, -⟩
          simp_all
      case isFalse hcount =>
        have hlength : kind.isUnary = true → (mergeVars vars).length = 1 := by simpa using hcount
        split
        case isTrue hempty =>
          constructor
          · intro h
            cases h
          · rintro ⟨_, ⟨⟩, -, harg, -⟩
            simp_all
        case isFalse hempty =>
          have harg : kind.cutsAtArgument = true → arg ≠ [] := by simpa using hempty
          constructor
          · intro h
            cases h
            exact ⟨kind, rfl, hlength, harg, rfl⟩
          · rintro ⟨_, ⟨⟩, -, -, rfl⟩
            rfl

structure Checked (o : Operator) : Prop where
  vars_ne_nil : o.vars ≠ []
  arg_ne_nil : o.kind.cutsAtArgument = true → o.arg ≠ []
  length_vars : o.kind.isUnary = true → o.vars.length = 1
  nodup_names : o.names.Nodup

theorem of_make? {name arg : Text} {vars : List VariableSpec} {group : Nat} {o : Operator}
    (h : make? name arg vars group = .ok o) (hvars : vars ≠ []) : o.Checked ∧ o.group = group := by
  obtain ⟨kind, -, hlength, harg, rfl⟩ := make?_eq_ok_iff.mp h
  exact ⟨⟨mergeVars_ne_nil hvars, harg, hlength, nodup_names_mergeVars vars⟩, rfl⟩

/-- The names of an operator are among those it is made from. -/
theorem mem_names_of_make? {name arg n : Text} {vars : List VariableSpec} {group : Nat}
    {o : Operator} (h : make? name arg vars group = .ok o) (hn : n ∈ o.names) :
    n ∈ vars.map (·.1) := by
  obtain ⟨kind, -, -, -, rfl⟩ := make?_eq_ok_iff.mp h
  exact mem_names_mergeVars.mp hn

end Operator

/-- What the builder guarantees of an element of a dialect. -/
def Element.IsBuilt (d : Dialect) : Element → Prop
  | .literal _ => True
  | .variable v => d = .extended → v.constraint = none
  | .operator o => d = .extended ∧ o.Checked

/-- Only constraints keep what has been built from being plain, and the extended dialect has
none. -/
theorem Element.IsBuilt.isPlain {d : Dialect} {e : Element} (he : e.IsBuilt d)
    (hfree : d = .simple → e.isConstrained = false) : e.IsPlain := by
  cases e with
  | literal s => trivial
  | operator o => exact he.2.vars_ne_nil
  | «variable» v =>
      cases d with
      | simple => simpa [Element.isConstrained, Element.IsPlain] using hfree rfl
      | extended => exact he rfl

namespace Template

def bindingPairs (es : List Element) : List (Text × Nat) :=
  es.zipIdx.flatMap fun e => e.1.names.map fun n => (n, e.2)

theorem bindingPairs_append_singleton (es : List Element) (e : Element) :
    bindingPairs (es ++ [e]) = bindingPairs es ++ e.names.map fun n => (n, es.length) := by
  simp [bindingPairs, List.zipIdx_append]

theorem Numbered.append {k l m : Nat} {es es' : List Element} (h : Numbered k es l)
    (h' : Numbered l es' m) : Numbered k (es ++ es') m := by
  induction h with
  | nil k => exact h'
  | literal t h ih => exact .literal t (ih h')
  | owner hk h ih => exact .owner hk (ih h')

/-! ## Builders -/

namespace Builder

variable {d : Dialect} {b b' : Builder}

/-! ### Literals -/

/-- The element of a literal text, unless the text is empty.  In the simple dialect it is
encoded. -/
def literalElements (d : Dialect) (text : Text) : List Element :=
  if text = [] then []
  else match d with
    | .simple => [.literal (Percent.encodeLiteral text)]
    | .extended => [.literal text]

theorem mem_literalElements_iff {d : Dialect} {text : Text} {e : Element} :
    e ∈ literalElements d text ↔ text ≠ [] ∧ e = .literal (match d with
      | .simple => Percent.encodeLiteral text
      | .extended => text) := by
  unfold literalElements
  split
  case isTrue hnil => simp [hnil]
  case isFalse hne =>
    cases d with
    | simple | extended => simp [hne]

/-- Adding literal text adds the element of the text; if there is none, nothing changes. -/
theorem addLiteral_cases {text : Text} (h : b.addLiteral d text = .ok b') :
    (literalElements d text = [] ∧ b' = b) ∨
      ∃ s, literalElements d text = [.literal s] ∧ s.all Reader.isLiteralChar = true ∧
        b' = { b with
          elements := b.elements ++ [.literal s]
          literalChars := b.literalChars + s.length } := by
  unfold addLiteral at h
  unfold literalElements
  split at h
  case isTrue hnil =>
    cases h
    exact .inl ⟨if_pos hnil, rfl⟩
  case isFalse hne =>
    rw [if_neg hne]
    cases d with
    | simple | extended =>
      dsimp only at h ⊢
      split at h
      case isTrue hall =>
        cases h
        exact .inr ⟨_, rfl, hall, rfl⟩
      case isFalse => cases h

theorem addLiteral_eq_ok {text : Text} (h : b.addLiteral d text = .ok b') :
    b'.elements = b.elements ++ literalElements d text ∧ b'.groups = b.groups ∧
      b'.binders = b.binders := by
  rcases addLiteral_cases h with ⟨hnone, rfl⟩ | ⟨s, hone, -, rfl⟩
  · rw [hnone, List.append_nil]
    exact ⟨rfl, rfl, rfl⟩
  · rw [hone]
    exact ⟨rfl, rfl, rfl⟩

/-! ### Parts in a row -/

/-- What holds of a builder before any part is added, and is kept when one more part is added behind
others, holds of the builder with all parts. -/
theorem addParts_induction {motive : List Part → Builder → Prop} {ps : List Part}
    (h : ps.foldlM (addPart d) b = .ok b') (hnil : motive [] b)
    (hpart : ∀ qs p c c', p ∈ ps → motive qs c → c.addPart d p = .ok c' →
      motive (qs ++ [p]) c') : motive ps b' := by
  induction ps using List.reverseRecOn generalizing b' with
  | nil =>
      cases h
      exact hnil
  | append_singleton qs p ih =>
      rw [List.foldlM_append] at h
      obtain ⟨c, hqs, h⟩ := bind_eq_ok.mp h
      obtain ⟨c', hp, h⟩ := bind_eq_ok.mp h
      cases h
      have hmotive : motive qs c := ih hqs fun rs r d d' hr hd hd' =>
        hpart rs r d d' (List.mem_append_left [p] hr) hd hd'
      exact hpart qs p c _ (List.mem_append_right qs (List.mem_singleton_self p)) hmotive hp

/-! ### The invariant -/

structure Invariant (d : Dialect) (b : Builder) : Prop where
  numbered : Numbered 2 b.elements (b.groups + 1)
  built : ∀ e ∈ b.elements, e.IsBuilt d
  binders : b.binders = .ofPairs (bindingPairs b.elements)

theorem invariant_empty (d : Dialect) : Invariant d {} where
  numbered := .nil 2
  built := fun e he => by cases he
  binders := rfl

theorem Invariant.addElement (hb : b.Invariant d) {e : Element} (he : e.IsBuilt d)
    (hgroup : e.group? = some (b.groups + 1)) : (b.addElement e).Invariant d where
  numbered := hb.numbered.append (.owner hgroup (.nil _))
  built := List.forall_mem_append.mpr ⟨hb.built, List.forall_mem_singleton.mpr he⟩
  binders := by
    simp only [Builder.addElement, bindingPairs_append_singleton, hb.binders, Multimap.ofPairs,
      Multimap.extend, List.foldl_append]

theorem Invariant.addLiteral (hb : b.Invariant d) {text : Text}
    (h : b.addLiteral d text = .ok b') : b'.Invariant d := by
  rcases addLiteral_cases h with ⟨-, rfl⟩ | ⟨s, -, -, rfl⟩
  · exact hb
  · refine ⟨?_, ?_, ?_⟩
    · exact hb.numbered.append (.literal s (.nil _))
    · exact List.forall_mem_append.mpr ⟨hb.built, List.forall_mem_singleton.mpr trivial⟩
    · simpa [bindingPairs_append_singleton, Element.names] using hb.binders

/-- Adding a part keeps the invariant. -/
theorem Invariant.addPart (hb : b.Invariant d) {p : Part} (hp : p.Fits d)
    (h : b.addPart d p = .ok b') : b'.Invariant d := by
  cases p with
  | literal text => exact hb.addLiteral h
  | «variable» name constraint default =>
      cases h
      refine hb.addElement ?_ rfl
      intro hd
      simp only [hp hd, Option.map_none]
  | operator name arg vars =>
      rcases bind_eq_ok.mp h with ⟨o, ho, h⟩
      cases h
      rcases Operator.of_make? ho hp.2 with ⟨hchecked, hgroup⟩
      exact hb.addElement ⟨hp.1, hchecked⟩ (by simp [Element.group?, hgroup])

/-- Adding parts keeps the invariant. -/
theorem Invariant.addParts (hb : b.Invariant d) {ps : List Part} (hps : ∀ p ∈ ps, p.Fits d)
    (h : ps.foldlM (Builder.addPart d) b = .ok b') : b'.Invariant d :=
  addParts_induction (motive := fun _ c => c.Invariant d) h hb
    fun _ p _ _ hp hc => hc.addPart (hps p hp)

theorem invariant_ofParsed? {p : Parsed} (hp : ∀ q ∈ p.parts, q.Fits d)
    (h : ofParsed? d p = .ok b) : b.Invariant d := by
  rcases bind_eq_ok.mp h with ⟨b₁, hparts, h⟩
  exact ((invariant_empty d).addParts hp hparts).addLiteral h

/-! ### The parts that elements stand for -/

/-- The elements that may be built for a part; the number of a group depends on what is before. -/
def StandsFor (d : Dialect) (e : Element) : Part → Prop
  | .literal text => e ∈ literalElements d text
  | .variable name constraint default =>
      ∃ k, e = .variable ⟨name, constraint.map Constraint.neutralize, default, k⟩
  | .operator name arg vars => ∃ k o, Operator.make? name arg vars k = .ok o ∧ e = .operator o

/-- An element that was not there stands for the literal that was added. -/
theorem mem_of_addLiteral {text : Text} {e : Element} (h : b.addLiteral d text = .ok b')
    (he : e ∈ b'.elements) : e ∈ b.elements ∨ StandsFor d e (.literal text) := by
  rw [(addLiteral_eq_ok h).1] at he
  exact List.mem_append.mp he

theorem mem_of_addPart {p : Part} {e : Element} (h : b.addPart d p = .ok b')
    (he : e ∈ b'.elements) : e ∈ b.elements ∨ StandsFor d e p := by
  cases p with
  | literal text => exact mem_of_addLiteral h he
  | «variable» name constraint default =>
      cases h
      refine (List.mem_append.mp he).imp_right fun he => ?_
      exact ⟨_, List.mem_singleton.mp he⟩
  | operator name arg vars =>
      rcases bind_eq_ok.mp h with ⟨o, ho, h⟩
      cases h
      refine (List.mem_append.mp he).imp_right fun he => ?_
      exact ⟨_, o, ho, List.mem_singleton.mp he⟩

theorem mem_of_addParts {ps : List Part} {e : Element}
    (h : ps.foldlM (Builder.addPart d) b = .ok b') (he : e ∈ b'.elements) :
    e ∈ b.elements ∨ ∃ p ∈ ps, StandsFor d e p := by
  refine addParts_induction (motive := fun qs c =>
    e ∈ c.elements → e ∈ b.elements ∨ ∃ p ∈ qs, StandsFor d e p) h .inl ?_ he
  intro qs p c c' _ hc hp hmem
  rcases mem_of_addPart hp hmem with hold | hstands
  · refine (hc hold).imp_right ?_
    rintro ⟨q, hq, hstands⟩
    exact ⟨q, List.mem_append_left [p] hq, hstands⟩
  · exact .inr ⟨p, List.mem_append_right qs (List.mem_singleton_self p), hstands⟩

end Builder

/-! ## Templates -/

structure WellFormed (t : Template) : Prop where
  numbered : Numbered 2 t.elements t.tailGroup
  built : ∀ e ∈ t.elements, e.IsBuilt t.dialect
  binders : t.binders = .ofPairs (bindingPairs t.elements)
  /-- The pattern has no group besides the head, those of the elements and the tail. -/
  regex : ∃ p, Pattern.ofText? (patternText t.elements) = some p ∧
    p.groupBound = t.tailGroup + 1 ∧ t.regex = p.regex

variable {text : Text} {t : Template}

/-- What is built is a regular expression with as many groups as the elements own. -/
theorem ofBuilder?_eq_ok {d : Dialect} {b : Builder} (h : ofBuilder? text d b = .ok t) :
    ∃ p, Pattern.ofText? (patternText b.elements) = some p ∧
      p.groupBound = b.groups + 1 + 1 ∧
      t = { text
            dialect := d
            elements := b.elements
            binders := b.binders
            tailGroup := b.groups + 1
            literalChars := b.literalChars
            constrained := b.constrained
            pattern := patternText b.elements
            regex := p.regex } := by
  unfold ofBuilder? at h
  dsimp only at h
  split at h
  case h_1 => cases h
  case h_2 p hp =>
    split at h
    case isTrue => cases h
    case isFalse hgroups =>
      cases h
      exact ⟨p, hp, Decidable.not_not.mp hgroups, rfl⟩

theorem wellFormed_ofBuilder? {d : Dialect} {b : Builder} (hb : b.Invariant d)
    (h : ofBuilder? text d b = .ok t) : t.WellFormed ∧ t.dialect = d := by
  rcases ofBuilder?_eq_ok h with ⟨p, hp, hgroups, rfl⟩
  exact ⟨⟨hb.numbered, hb.built, hb.binders, p, hp, hgroups, rfl⟩, rfl⟩

/-- What compiles has been read, built and found to be a regular expression. -/
theorem make?_eq_ok {d : Dialect} (h : make? text d = .ok t) :
    ∃ parsed b, Parsed.ofText? d text = .ok parsed ∧ Builder.ofParsed? d parsed = .ok b ∧
      ofBuilder? text d b = .ok t := by
  unfold make? at h
  split at h
  case h_1 => cases h
  case h_2 parsed hparsed =>
    split at h
    case h_1 => cases h
    case h_2 b hb => exact ⟨parsed, b, hparsed, hb, h⟩

theorem wellFormed_of_make? {d : Dialect} (h : make? text d = .ok t) :
    t.WellFormed ∧ t.dialect = d := by
  rcases make?_eq_ok h with ⟨parsed, b, hparsed, hb, h⟩
  exact wellFormed_ofBuilder? (Builder.invariant_ofParsed? (Parsed.fits_ofText? hparsed) hb) h

theorem value_compileWith (text : Text) (o : CompileOptions) :
    (compileWith text o).value = make? (o.prepare text) o.dialect := by
  rw [compileWith, compile]
  split
  case h_1 e he => rw [he]; rfl
  case h_2 t ht => rw [ht]

/-- A template that compiles is well-formed. -/
theorem wellFormed_of_compileWith {o : CompileOptions} (h : (compileWith text o).value = .ok t) :
    t.WellFormed ∧ t.dialect = o.dialect := by
  rw [value_compileWith] at h
  exact wellFormed_of_make? h

/-- Every element stands for a part of the text, or for the text behind the last expression less a
slash at its end. -/
theorem exists_standsFor {d : Dialect} {parsed : Parsed} {e : Element} (h : make? text d = .ok t)
    (hparsed : Parsed.ofText? d text = .ok parsed) (he : e ∈ t.elements) :
    ∃ q ∈ parsed.parts ++ [.literal (parsed.trailing.dropTrailing '/')],
      Builder.StandsFor d e q := by
  rcases make?_eq_ok h with ⟨parsed', b, hparsed', hb, h⟩
  cases hparsed.symm.trans hparsed'
  rcases ofBuilder?_eq_ok h with ⟨p, _, _, rfl⟩
  rcases bind_eq_ok.mp hb with ⟨b₁, hparts, hb⟩
  rcases Builder.mem_of_addLiteral hb he with hold | hstands
  · rcases Builder.mem_of_addParts hparts hold with hempty | ⟨q, hq, hstands⟩
    · cases hempty
    · exact ⟨q, List.mem_append_left _ hq, hstands⟩
  · exact ⟨_, List.mem_append_right _ (List.mem_singleton_self _), hstands⟩

/-- The names of an operator are spelt as names of variables. -/
theorem isName_of_mem_names {opts : CompileOptions} {o : Operator}
    (h : (compileWith text opts).value = .ok t) (ho : .operator o ∈ t.elements) {n : Text}
    (hn : n ∈ o.names) : IsName n := by
  rcases wellFormed_of_compileWith h with ⟨hwell, hdialect⟩
  rcases hwell.built _ ho with ⟨hextended, _⟩
  rw [value_compileWith] at h
  obtain hextended : opts.dialect = .extended := hdialect.symm.trans hextended
  rw [hextended] at h
  rcases make?_eq_ok h with ⟨parsed, -, hparsed, -, -⟩
  have hspelt : Reader.template .extended (opts.prepare text) = .ok parsed ↔
      parsed.SpeltBy Reader.SpellsExtended (opts.prepare text) :=
    Reader.template_eq_ok_iff Reader.extendedExpression_eq_ok_iff
  have hgrammar :=
    (Parsed.speltBy_extended_iff.mp (hspelt.mp (Parsed.ofText?_eq_ok_iff.mp hparsed))).1
  -- The operator is made from an operator of the text.
  obtain ⟨q, hq, hstands⟩ := exists_standsFor h hparsed ho
  cases q with
  | literal s => cases (Builder.mem_literalElements_iff.mp hstands).2
  | «variable» name constraint default =>
      obtain ⟨_, ⟨⟩⟩ := hstands
  | operator name arg vars =>
      obtain ⟨k, _, hk, ⟨⟩⟩ := hstands
      obtain ⟨v, hv, rfl⟩ := List.mem_map.mp (Operator.mem_names_of_make? hk hn)
      have hmem : .operator name arg vars ∈ parsed.parts := by simpa using hq
      cases hgrammar.expressions _ hmem rfl with
      | operator _ _ _ _ hspecs => exact (hspecs v hv).name

namespace WellFormed

/-- In a well-formed template only constraints keep elements from being plain. -/
theorem isPlain (ht : t.WellFormed)
    (hfree : t.dialect = .simple → ∀ e ∈ t.elements, e.isConstrained = false) :
    ∀ e ∈ t.elements, e.IsPlain :=
  fun e he => (ht.built e he).isPlain fun hd => hfree hd e he

/-- The simple dialect has no operators. -/
theorem operator_notMem (ht : t.WellFormed) (hd : t.dialect = .simple) (o : Operator) :
    .operator o ∉ t.elements := by
  intro ho
  have hextended : t.dialect = .extended := (ht.built _ ho).1
  rw [hd] at hextended
  cases hextended

/-- A template with an operator is of the extended dialect, which has no constraints. -/
theorem isPlain_of_operator (ht : t.WellFormed) {o : Operator} (ho : .operator o ∈ t.elements) :
    ∀ e ∈ t.elements, e.IsPlain :=
  ht.isPlain fun hd => absurd ho (ht.operator_notMem hd o)

/-- The expression of a well-formed template without constraints. -/
theorem regex_eq (ht : t.WellFormed) (hplain : ∀ e ∈ t.elements, e.IsPlain) :
    t.regex = (patternExpression t.elements t.tailGroup).regex := by
  rcases ht.regex with ⟨p, hp, _, hregex⟩
  rw [ofText?_patternText hplain ht.numbered] at hp
  split at hp
  · cases hp
  · cases hp
    exact hregex

end WellFormed

end Template
end PathTemplate
