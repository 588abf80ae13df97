import Mathlib.Data.List.Dedup
import PathTemplate.Proofs.Part.Expressions
import PathTemplate.Proofs.Percent
import PathTemplate.Proofs.Regex.Groups
import PathTemplate.Proofs.Template.Constraints
import PathTemplate.Proofs.Text

/-!
# Compilation — the templates that compile

- `Part.IsSupported`  : what the compiler demands of a part
- `Decides`           : succeeding exactly if a condition holds, and else failing for an operator
- `Builder.decides_addPart`, `Builder.decides_addParts` : what one part decides, and what all do
- `groupBound_patternExpression` : how many groups a pattern has
- `Template.WithinLimit` : the pattern does not get too large
- `Template.compiles_iff` : a text compiles if and only if it can be read and its operators are
  supported

The reader lets an operator have any name, argument and variables, and only the compiler checks
them.  Behind this check nothing can fail: no literal has a brace, the text of the pattern denotes
an expression, and its groups are those of the elements.
-/

namespace PathTemplate

/-! ## Supported parts -/

/-- Whether the compiler supports a part.  An operator must have a known name; a prefix, a suffix
and a list must be of one variable; and an operator must have an argument if values are told apart
by it. -/
def Part.IsSupported : Part → Prop
  | .literal _ => True
  | .variable .. => True
  | .operator name arg vars =>
      name ∈ ["neg", "opt", "prefix", "suffix", "list", "join"].map String.toList ∧
      (name ∈ ["prefix", "suffix", "list"].map String.toList →
        (vars.map (·.1)).dedup.length = 1) ∧
      (name ∈ ["prefix", "suffix", "list", "join"].map String.toList → arg ≠ [])

instance : DecidablePred Part.IsSupported
  | .literal _ => .isTrue trivial
  | .variable .. => .isTrue trivial
  | .operator .. => inferInstanceAs (Decidable (_ ∧ _ ∧ _))

def GrammarError.isOfOperator : GrammarError → Bool
  | .unknownOperator _ | .variableCount _ | .emptyArgument _ => true
  | _ => false

/-- Merging leaves as many variables as there are different names. -/
theorem Operator.length_mergeVars (vars : List VariableSpec) :
    (mergeVars vars).length = (vars.map (·.1)).dedup.length := by
  have hperm : ((mergeVars vars).map (·.1)).Perm (vars.map (·.1)).dedup := by
    refine (List.perm_ext_iff_of_nodup (nodup_names_mergeVars vars) (List.nodup_dedup _)).mpr ?_
    intro n
    rw [mem_names_mergeVars, List.mem_dedup]
  rw [← hperm.length_eq, List.length_map]

namespace OperatorKind

theorem exists_name_eq_iff {t : Text} :
    (∃ k : OperatorKind, k.name = t) ↔
      t ∈ ["neg", "opt", "prefix", "suffix", "list", "join"].map String.toList := by
  constructor
  · rintro ⟨k, rfl⟩
    cases k <;> decide
  · intro h
    simp only [List.map_cons, List.map_nil, List.mem_cons, List.not_mem_nil, or_false] at h
    rcases h with rfl | rfl | rfl | rfl | rfl | rfl
    exacts [⟨.negate, rfl⟩, ⟨.option, rfl⟩, ⟨.before, rfl⟩, ⟨.after, rfl⟩, ⟨.list, rfl⟩,
      ⟨.join, rfl⟩]

theorem isUnary_iff (k : OperatorKind) :
    k.isUnary = true ↔ k.name ∈ ["prefix", "suffix", "list"].map String.toList := by
  cases k <;> decide

theorem cutsAtArgument_iff (k : OperatorKind) :
    k.cutsAtArgument = true ↔
      k.name ∈ ["prefix", "suffix", "list", "join"].map String.toList := by
  cases k <;> decide

end OperatorKind

theorem Part.isSupported_operator_iff {name arg : Text} {vars : List VariableSpec} :
    (Part.operator name arg vars).IsSupported ↔
      ∃ kind, OperatorKind.ofName? name = some kind ∧
        (kind.isUnary = true → (vars.map (·.1)).dedup.length = 1) ∧
        (kind.cutsAtArgument = true → arg ≠ []) := by
  constructor
  · rintro ⟨hname, hvars, harg⟩
    obtain ⟨kind, rfl⟩ := OperatorKind.exists_name_eq_iff.mpr hname
    exact ⟨kind, OperatorKind.ofName?_name kind, fun h => hvars (kind.isUnary_iff.mp h),
      fun h => harg (kind.cutsAtArgument_iff.mp h)⟩
  · rintro ⟨kind, hkind, hvars, harg⟩
    obtain rfl := OperatorKind.ofName?_eq_some_iff.mp hkind
    exact ⟨OperatorKind.exists_name_eq_iff.mp ⟨kind, rfl⟩, fun h => hvars (kind.isUnary_iff.mpr h),
      fun h => harg (kind.cutsAtArgument_iff.mpr h)⟩

theorem Operator.exists_make?_iff {name arg : Text} {vars : List VariableSpec} {group : Nat} :
    (∃ o, make? name arg vars group = .ok o) ↔ (Part.operator name arg vars).IsSupported := by
  rw [Part.isSupported_operator_iff, ← length_mergeVars]
  constructor
  · rintro ⟨o, ho⟩
    obtain ⟨kind, hkind, hvars, harg, -⟩ := make?_eq_ok_iff.mp ho
    exact ⟨kind, hkind, hvars, harg⟩
  · rintro ⟨kind, hkind, hvars, harg⟩
    exact ⟨_, make?_eq_ok_iff.mpr ⟨kind, hkind, hvars, harg, rfl⟩⟩

theorem Operator.isOfOperator_of_make? {name arg : Text} {vars : List VariableSpec} {group : Nat}
    {e : GrammarError} (h : make? name arg vars group = .error e) : e.isOfOperator = true := by
  unfold make? at h
  split at h
  case h_1 =>
    cases h
    rfl
  case h_2 =>
    dsimp only at h
    split at h
    case isTrue =>
      cases h
      rfl
    case isFalse =>
      split at h
      case isTrue =>
        cases h
        rfl
      case isFalse => cases h

/-- The simple dialect has no operators, so that all of its parts are supported. -/
theorem Part.isSupported_of_fits {q : Part} (h : q.Fits .simple) : q.IsSupported := by
  cases q with
  | literal => trivial
  | «variable» => trivial
  | operator => cases h.1

/-! ## Succeeding exactly if a condition holds -/

section

variable {α β : Type} {P Q : Prop} {x : Except GrammarError α}

/-- A computation succeeds exactly if `P` holds, and else fails because of an operator. -/
def Decides (P : Prop) : Except GrammarError α → Prop
  | .ok _ => P
  | .error e => ¬P ∧ e.isOfOperator = true

theorem Decides.exists_ok_iff (h : Decides P x) : (∃ a, x = .ok a) ↔ P := by
  cases x with
  | ok a => exact iff_of_true ⟨a, rfl⟩ h
  | error e =>
      refine iff_of_false ?_ h.1
      rintro ⟨a, ⟨⟩⟩

theorem Decides.of_error {e : GrammarError} (h : Decides P x) (hx : x = .error e) :
    e.isOfOperator = true := by
  subst hx
  exact h.2

/-- Two computations in a row. -/
theorem Decides.bind {f : α → Except GrammarError β} (h : Decides P x)
    (hf : ∀ a, Decides Q (f a)) : Decides (P ∧ Q) (x >>= f) := by
  cases x with
  | error e => exact ⟨fun hboth => h.1 hboth.1, h.2⟩
  | ok a =>
      have hP : P := h
      have hfa := hf a
      change Decides (P ∧ Q) (f a)
      cases hb : f a with
      | ok b => exact ⟨hP, by simpa [Decides, hb] using hfa⟩
      | error e =>
          have hfail : ¬Q ∧ e.isOfOperator = true := by simpa [Decides, hb] using hfa
          exact ⟨fun hboth => hfail.1 hboth.2, hfail.2⟩

theorem Decides.congr (h : Decides P x) (hPQ : P ↔ Q) : Decides Q x := by
  rwa [← propext hPQ]

end

theorem Operator.decides_make? (name arg : Text) (vars : List VariableSpec) (group : Nat) :
    Decides (Part.operator name arg vars).IsSupported (make? name arg vars group) := by
  cases h : make? name arg vars group with
  | ok o => exact exists_make?_iff.mp ⟨o, h⟩
  | error e =>
      refine ⟨fun hsupported => ?_, isOfOperator_of_make? h⟩
      obtain ⟨o, ho⟩ : ∃ o, make? name arg vars group = .ok o := exists_make?_iff.mpr hsupported
      cases ho.symm.trans h

/-! ## Literals -/

/-- What an escape is written with is no brace. -/
theorem literal_escapeChar (c : Char) :
    ∀ d ∈ Percent.escapeChar c, Reader.isLiteralChar d = true := by
  intro d hd
  rcases Percent.mem_escapeChar hd with hd | rfl
  · exact isLiteralChar_of_accept (by decide) (by decide) hd
  · rfl

/-- Encoding adds no braces. -/
theorem literal_encodeLiteral {t : Text} (h : ∀ c ∈ t, Reader.isLiteralChar c = true) :
    ∀ c ∈ Percent.encodeLiteral t, Reader.isLiteralChar c = true := by
  induction t with
  | nil => exact List.forall_mem_nil _
  | cons c t ih =>
      obtain ⟨hc, ht⟩ := List.forall_mem_cons.mp h
      rw [Percent.encodeLiteral]
      split
      · exact List.forall_mem_cons.mpr ⟨hc, ih ht⟩
      · exact List.forall_mem_append.mpr ⟨literal_escapeChar c, ih ht⟩

theorem literal_dropTrailing {t : Text} (h : ∀ c ∈ t, Reader.isLiteralChar c = true) (c : Char) :
    ∀ d ∈ t.dropTrailing c, Reader.isLiteralChar d = true := by
  rw [← Text.dropTrailing_append c t] at h
  exact (List.forall_mem_append.mp h).1

def Part.HasPlainText : Part → Prop
  | .literal t => ∀ c ∈ t, Reader.isLiteralChar c = true
  | _ => True

/-- The reader leaves no braces in literals. -/
theorem Parsed.hasPlainText_ofText? {d : Dialect} {t : Text} {p : Parsed}
    (h : ofText? d t = .ok p) :
    (∀ q ∈ p.parts, q.HasPlainText) ∧ ∀ c ∈ p.trailing, Reader.isLiteralChar c = true := by
  have hwell : p.WellFormed fun _ => True :=
    (ofText?_eq_ok_iff_speltBy.mp h).wellFormed fun hs => ⟨trivial, hs.isLiteral⟩
  refine ⟨fun q hq => ?_, hwell.trailing⟩
  cases q with
  | literal s => exact (hwell.literals s hq).2
  | «variable» => trivial
  | operator => trivial

/-! ## Building -/

namespace Template.Builder

variable {d : Dialect}

/-- Text without braces can always be added. -/
theorem decides_addLiteral (b : Builder) (d : Dialect) {text : Text}
    (h : ∀ c ∈ text, Reader.isLiteralChar c = true) : Decides True (b.addLiteral d text) := by
  unfold addLiteral
  split
  case isTrue => trivial
  case isFalse =>
    cases d with
    | simple =>
        dsimp only
        rw [if_pos (List.all_eq_true.mpr (literal_encodeLiteral h))]
        trivial
    | extended =>
        dsimp only
        rw [if_pos (List.all_eq_true.mpr h)]
        trivial

/-- A part can be added exactly if it is supported. -/
theorem decides_addPart (b : Builder) {p : Part} (hp : p.HasPlainText) :
    Decides p.IsSupported (b.addPart d p) := by
  cases p with
  | literal text => exact decides_addLiteral b d hp
  | «variable» name constraint default => exact trivial
  | operator name arg vars =>
      have hmake := Operator.decides_make? name arg vars (b.groups + 1)
      have hadd : ∀ o, Decides True (Except.ok (b.addElement (.operator o))) := fun _ => trivial
      exact (hmake.bind hadd).congr (and_iff_left trivial)

/-- Parts can be added exactly if all of them are supported. -/
theorem decides_addParts (b : Builder) {ps : List Part} (hps : ∀ p ∈ ps, p.HasPlainText) :
    Decides (∀ p ∈ ps, p.IsSupported) (ps.foldlM (addPart d) b) := by
  induction ps generalizing b with
  | nil => exact List.forall_mem_nil _
  | cons p ps ih =>
      obtain ⟨hp, hps⟩ := List.forall_mem_cons.mp hps
      rw [List.foldlM_cons]
      exact ((decides_addPart b hp).bind fun b' => ih b' hps).congr List.forall_mem_cons.symm

/-- What has been read can be built exactly if all parts are supported. -/
theorem decides_ofParsed? {p : Parsed} (hparts : ∀ q ∈ p.parts, q.HasPlainText)
    (htrailing : ∀ c ∈ p.trailing, Reader.isLiteralChar c = true) :
    Decides (∀ q ∈ p.parts, q.IsSupported) (ofParsed? d p) := by
  have hlast : ∀ b : Builder, Decides True (b.addLiteral d (p.trailing.dropTrailing '/')) :=
    fun b => decides_addLiteral b d (literal_dropTrailing htrailing '/')
  exact ((decides_addParts {} hparts).bind hlast).congr (and_iff_left trivial)

end Template.Builder

/-! ## Groups -/

theorem Pattern.groupBound_seqs_le {ps : List Pattern} {n : Nat} (hn : 1 ≤ n)
    (h : ∀ p ∈ ps, p.groupBound ≤ n) : (seqs ps).groupBound ≤ n := by
  fun_induction seqs ps with
  | case1 => exact hn
  | case2 p => exact h p List.mem_cons_self
  | case3 p ps _ ih =>
      obtain ⟨hp, hps⟩ := List.forall_mem_cons.mp h
      exact Nat.max_le.mpr ⟨hp, ih hps⟩

theorem Pattern.groupFree_ofChars (t : Text) : ∀ p ∈ ofChars t, p.GroupFree := by
  intro p hp
  obtain ⟨c, -, rfl⟩ := List.mem_map.mp hp
  trivial

/-- A group without groups in it. -/
theorem Pattern.GroupFree.groupBound_group {p : Pattern} (hp : p.GroupFree) (k : Nat) :
    (Pattern.group k p).groupBound = k + 1 := by
  rw [groupBound, hp.groupBound_eq]
  exact Nat.max_eq_left (Nat.succ_le_succ (Nat.zero_le k))

theorem Operator.groupFree_pairs (o : Operator) : o.pairs.GroupFree := by
  refine Pattern.groupFree_alts_iff.mpr fun p hp => ?_
  obtain ⟨n, -, rfl⟩ := List.mem_map.mp hp
  refine Pattern.groupFree_seqs_iff.mpr ?_
  simp only [List.forall_mem_append, List.forall_mem_cons]
  exact ⟨Pattern.groupFree_ofChars n, trivial, trivial, List.forall_mem_nil _⟩

/-- The expression of an operator has one group. -/
theorem Operator.groupBound_expression (o : Operator) :
    o.expression.groupBound = o.group + 1 := by
  have hchars := Pattern.groupFree_ofChars o.arg
  have hpairs := o.groupFree_pairs
  have hrepeat {p : Pattern} (hp : p.GroupFree) :
      (Pattern.seqs (Pattern.ofChars o.arg ++ [p])).many.GroupFree := by
    exact Pattern.groupFree_seqs_iff.mpr
      (List.forall_mem_append.mpr ⟨hchars, List.forall_mem_singleton.mpr hp⟩)
  -- The operator owns one group, and nothing in it has a group of its own.
  unfold Operator.expression
  cases o.kind with
  | negate | option => exact (Pattern.groupFree_seqs_iff.mpr hchars).groupBound_group o.group
  | before => exact (hrepeat (p := .anyValue) trivial).groupBound_group o.group
  | after =>
      have hbody : (Pattern.seqs (.anyValue :: Pattern.ofChars o.arg)).many.GroupFree :=
        Pattern.groupFree_seqs_iff.mpr (List.forall_mem_cons.mpr ⟨trivial, hchars⟩)
      exact hbody.groupBound_group o.group
  | list =>
      have hbody : (Pattern.seqs [.anyValue,
          (Pattern.seqs (Pattern.ofChars o.arg ++ [.anyValue])).many]).GroupFree :=
        ⟨trivial, hrepeat trivial⟩
      exact hbody.groupBound_group o.group
  | join =>
      have hbody : (Pattern.seqs [o.pairs,
          (Pattern.seqs (Pattern.ofChars o.arg ++ [o.pairs])).many]).GroupFree :=
        ⟨hpairs, hrepeat hpairs⟩
      exact hbody.groupBound_group o.group

namespace Template

theorem groupFree_tailExpression (es : List Element) : (tailExpression es).GroupFree := by
  cases es with
  | nil => trivial
  | cons e es => exact ⟨trivial, trivial⟩

/-- No element has a group with the number of a later group. -/
theorem Numbered.groupBound_le {k l : Nat} {es : List Element} (h : Numbered k es l) (hk : 1 ≤ k) :
    ∀ p ∈ es.flatMap Element.expressions, p.groupBound ≤ l := by
  induction h with
  | nil k => exact List.forall_mem_nil _
  | literal t h ih =>
      rw [List.flatMap_cons, List.forall_mem_append]
      refine ⟨fun p hp => ?_, ih hk⟩
      rw [(Pattern.groupFree_ofChars t p hp).groupBound_eq]
      exact Nat.le_trans hk h.le
  | @owner k l e es he h ih =>
      rw [List.flatMap_cons, List.forall_mem_append]
      refine ⟨?_, ih (Nat.le_succ_of_le hk)⟩
      have hgroup : ∀ p ∈ e.expressions, p.groupBound = k + 1 := by
        cases e with
        | literal => cases he
        | «variable» v =>
            cases he
            have hvalue : Pattern.someValue.GroupFree := trivial
            exact List.forall_mem_singleton.mpr (hvalue.groupBound_group v.group)
        | operator o =>
            cases he
            exact List.forall_mem_singleton.mpr o.groupBound_expression
      exact fun p hp => (hgroup p hp).trans_le h.le

/-- The last group of a pattern is the tail. -/
theorem groupBound_patternExpression {es : List Element} {tailGroup : Nat}
    (h : Numbered 2 es tailGroup) :
    (patternExpression es tailGroup).groupBound = tailGroup + 1 := by
  have htwo : 2 ≤ tailGroup := h.le
  have hbody := Pattern.groupBound_seqs_le (Nat.le_of_succ_le htwo)
    (h.groupBound_le (by decide))
  have htail := (groupFree_tailExpression es).groupBound_group tailGroup
  simp only [patternExpression, Pattern.seqs, Pattern.groupBound, headGroup] at hbody htail ⊢
  omega

/-! ## Compiling -/

variable {text : Text} {d : Dialect} {p : Parsed} {b : Builder}

/-- The pattern of a template text does not get too large.  How deeply it is nested does not depend
on the text. -/
def WithinLimit (text : Text) (d : Dialect) : Prop :=
  ∀ p b, Parsed.ofText? d text = .ok p → Builder.ofParsed? d p = .ok b →
    (patternExpression b.elements (b.groups + 1)).weight ≤ Pattern.weightLimit

/-- Without constraints, what is built from parts is plain. -/
theorem Builder.isPlain_ofParsed? (hfits : ∀ q ∈ p.parts, q.Fits d)
    (hfree : d = .simple → p.constraints = []) (hb : ofParsed? d p = .ok b) :
    ∀ e ∈ b.elements, e.IsPlain := by
  intro e he
  refine ((invariant_ofParsed? hfits hb).built e he).isPlain fun hd => ?_
  have hnone : b.constraints = [] := by rw [constraints_ofParsed? hb, hfree hd, List.map_nil]
  have hone := List.filterMap_eq_nil_iff.mp hnone e he
  cases e with
  | «variable» v => exact Option.isSome_eq_false_iff.mpr (Option.isNone_iff_eq_none.mpr hone)
  | literal => rfl
  | operator => rfl

/-- The text of a pattern within the limit denotes an expression, whose groups are the head, those
of the elements and the tail. -/
theorem ofText?_pattern_of_withinLimit (hlimit : WithinLimit text d)
    (hfree : d = .simple → p.constraints = []) (hp : Parsed.ofText? d text = .ok p)
    (hb : Builder.ofParsed? d p = .ok b) :
    ∃ r, Pattern.ofText? (patternText b.elements) = some r ∧ r.groupBound = b.groups + 1 + 1 := by
  have hfits := Parsed.fits_ofText? hp
  have hnumbered := (Builder.invariant_ofParsed? hfits hb).numbered
  have hplain := Builder.isPlain_ofParsed? hfits hfree hb
  refine ⟨_, ?_, groupBound_patternExpression hnumbered⟩
  rw [ofText?_patternText hplain hnumbered, if_neg (Nat.not_lt.mpr (hlimit p b hp hb))]

/-- Parts can be built exactly if all of them are supported. -/
theorem decides_ofText? (hp : Parsed.ofText? d text = .ok p) :
    Decides (∀ q ∈ p.parts, q.IsSupported) (Builder.ofParsed? d p) :=
  have hplain := Parsed.hasPlainText_ofText? hp
  Builder.decides_ofParsed? hplain.1 hplain.2

/-- A text that cannot be read fails with the fault that the reader met. -/
theorem make?_of_fault {e : TemplateError} (h : Parsed.ofText? d text = .error e) :
    make? text d = .error e ∧ ∃ fault position, e = .grammar text (.fault fault position) := by
  refine ⟨by rw [make?, h], ?_⟩
  unfold Parsed.ofText? at h
  split at h
  case h_1 => cases h
  case h_2 =>
    cases h
    exact ⟨_, _, rfl⟩

/-- A text that has been read compiles exactly if all of its parts are supported, and else fails
because of an operator. -/
theorem make?_of_parsed (hlimit : WithinLimit text d) (hfree : d = .simple → p.constraints = [])
    (hp : Parsed.ofText? d text = .ok p) :
    ((∃ t, make? text d = .ok t) ↔ ∀ q ∈ p.parts, q.IsSupported) ∧
      ∀ e, make? text d = .error e →
        ∃ cause, e = .grammar text cause ∧ cause.isOfOperator = true := by
  have hdecides := decides_ofText? hp
  rw [← hdecides.exists_ok_iff]
  cases hb : Builder.ofParsed? d p with
  | error cause =>
      have hmake : make? text d = .error (.grammar text cause) := by simp [make?, hp, hb]
      rw [hmake]
      refine ⟨by simp, ?_⟩
      rintro _ ⟨⟩
      exact ⟨cause, rfl, hdecides.of_error hb⟩
  | ok b =>
      -- Behind the builder there is nothing that fails.
      obtain ⟨r, hr, hgroups⟩ := ofText?_pattern_of_withinLimit hlimit hfree hp hb
      obtain ⟨t, ht⟩ : ∃ t, make? text d = .ok t := by
        simp [make?, hp, hb, ofBuilder?, hr, hgroups]
      rw [ht]
      refine ⟨iff_of_true ⟨t, rfl⟩ ⟨b, rfl⟩, ?_⟩
      rintro _ ⟨⟩

/-- A text whose pattern is within the limit, without constraints if it is of the simple dialect,
compiles exactly if it can be read and its operators are supported; in the simple dialect, if it can
be read.  Every failure is an error of the grammar, but none about the groups of the pattern or a
brace in a literal: the pattern is always a regular expression, with one group for each number up to
that of the tail. -/
theorem compiles_iff (hlimit : WithinLimit text d)
    (hfree : d = .simple → ∀ p, Parsed.ofText? d text = .ok p → p.constraints = []) :
    ((∃ t, (compile text d).value = .ok t) ↔
      ∃ p, Parsed.ofText? d text = .ok p ∧ ∀ q ∈ p.parts, q.IsSupported) ∧
    (d = .simple →
      ((∃ t, (compile text d).value = .ok t) ↔ ∃ p, Parsed.ofText? d text = .ok p)) ∧
    (∀ e, (compile text d).value = .error e →
      ∃ cause, e = .grammar text cause ∧ cause ≠ .groupLayout ∧
        ∀ literal, cause ≠ .braceInLiteral literal) ∧
    (∀ p b, Parsed.ofText? d text = .ok p → Builder.ofParsed? d p = .ok b →
      ∃ r, Pattern.ofText? (patternText b.elements) = some r ∧
        r.groupBound = b.groups + 1 + 1) := by
  have hvalue : (compile text d).value = make? text d := value_compileWith text ⟨d, false⟩
  have hfree' : ∀ {p}, Parsed.ofText? d text = .ok p → d = .simple → p.constraints = [] :=
    fun hp hd => hfree hd _ hp
  have hpattern : ∀ p b, Parsed.ofText? d text = .ok p → Builder.ofParsed? d p = .ok b →
      ∃ r, Pattern.ofText? (patternText b.elements) = some r ∧
        r.groupBound = b.groups + 1 + 1 :=
    fun p b hp hb => ofText?_pattern_of_withinLimit hlimit (hfree' hp) hp hb
  rw [hvalue]
  -- Where the text is not read, all that is claimed is what the fault is.
  cases hp : Parsed.ofText? d text with
  | error e =>
      obtain ⟨hmake, fault, position, rfl⟩ := make?_of_fault hp
      rw [hmake]
      refine ⟨by simp, by simp, ?_, by simp⟩
      rintro _ ⟨⟩
      exact ⟨_, rfl, by simp, by simp⟩
  | ok p =>
      obtain ⟨hcompiles, hfails⟩ := make?_of_parsed hlimit (hfree' hp) hp
      refine ⟨?_, ?_, ?_, ?_⟩
      · rw [hcompiles]
        simp
      · rintro rfl
        rw [hcompiles]
        have hall := fun q hq => Part.isSupported_of_fits (Parsed.fits_ofText? hp q hq)
        exact iff_of_true hall ⟨p, rfl⟩
      · intro e he
        obtain ⟨cause, rfl, hcause⟩ := hfails e he
        refine ⟨cause, rfl, ?_, ?_⟩
        · rintro rfl
          cases hcause
        · rintro literal rfl
          cases hcause
      · rw [← hp]
        exact hpattern

theorem compiles_iff_join :
    WithinLimit "q{-join|&|a,b}".toList .extended ∧
      (Dialect.extended = .simple → ∀ p,
        Parsed.ofText? .extended "q{-join|&|a,b}".toList = .ok p → p.constraints = []) ∧
      ∃ p, Parsed.ofText? .extended "q{-join|&|a,b}".toList = .ok p ∧
        (∀ q ∈ p.parts, q.IsSupported) ∧
        ∃ t, (compile "q{-join|&|a,b}".toList .extended).value = .ok t := by
  let text : Text := "q{-join|&|a,b}".toList
  have hread : (Parsed.ofText? .extended text).toOption.any (fun p =>
      decide (∀ q ∈ p.parts, q.IsSupported) &&
        (Builder.ofParsed? .extended p).toOption.any (fun b =>
          decide ((patternExpression b.elements (b.groups + 1)).weight ≤ Pattern.weightLimit))) =
      true := by
    decide +kernel
  rcases exists_ok_of_any hread with ⟨p, hp, hall⟩
  rcases Bool.and_eq_true_iff.mp hall with ⟨hsupported, hbuilt⟩
  rcases exists_ok_of_any hbuilt with ⟨b, hb, hweight⟩
  have hsupported : ∀ q ∈ p.parts, q.IsSupported := of_decide_eq_true hsupported
  -- Reading and building have one outcome, so the limit is checked on it alone.
  have hlimit : WithinLimit text .extended := by
    intro p' b' hp' hb'
    cases hp.symm.trans hp'
    cases hb.symm.trans hb'
    exact of_decide_eq_true hweight
  have hfree : Dialect.extended = .simple → ∀ p,
      Parsed.ofText? .extended text = .ok p → p.constraints = [] := nofun
  exact ⟨hlimit, hfree, p, hp, hsupported, (compiles_iff hlimit hfree).1.mpr ⟨p, hp, hsupported⟩⟩

end Template

end PathTemplate
