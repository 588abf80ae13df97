import PathTemplate.Element.Fragment
import PathTemplate.Regex.Denotation

/-!
# The pattern of a template

- `patternText`       : the text of the pattern of some elements
- `patternExpression` : the expression of the pattern, for elements without constraints
- `Numbered`          : the groups of elements have numbers in a row
- `ofText?_patternText` : `patternText` denotes `patternExpression`

Group 1 of the pattern is the head, which the elements cover; the elements other than literals own
the groups from 2 on; the last group is the tail, which starts with a slash.
-/

namespace PathTemplate
namespace Template

def headGroup : Nat := 1

/-! ## As text -/

/-- The text of the tail's expression. -/
def tailFragment (elements : List Element) : Text :=
  -- Without elements the head is empty, and a path need not begin with a slash.
  if elements.isEmpty then "((?:.*)?)".toList else "((?:/.*)?)".toList

def patternText (elements : List Element) : Text :=
  '^' :: (inGroup (elements.flatMap Element.fragment) ++ tailFragment elements ++ ['$'])

/-! ## As an expression -/

def tailExpression (elements : List Element) : Pattern :=
  let anything := Pattern.many (.chars .notLineFeed)
  .optional (if elements.isEmpty then anything else .seqs [.chars (.single '/'), anything])

/-- The expression of the pattern, for elements without constraints. -/
def patternExpression (elements : List Element) (tailGroup : Nat) : Pattern :=
  .seqs [.look .textStart, .group headGroup (.seqs (elements.flatMap Element.expressions)),
    .group tailGroup (tailExpression elements), .look .textEnd]

/-! ## The text denotes the expression -/

/-- The groups of elements are numbered in a row from `k` up to `l`, without `l`. -/
inductive Numbered : Nat → List Element → Nat → Prop
  | nil (k : Nat) : Numbered k [] k
  | literal {k l : Nat} {es : List Element} (t : Text) :
      Numbered k es l → Numbered k (.literal t :: es) l
  | owner {k l : Nat} {e : Element} {es : List Element} :
      e.group? = some k → Numbered (k + 1) es l → Numbered k (e :: es) l

end Template

/-- Whether an element has no constraint, and variables if it is an operator. -/
def Element.IsPlain : Element → Prop
  | .literal _ => True
  | .variable v => v.constraint = none
  | .operator o => o.vars ≠ []

namespace RegexReader

open Pattern (repetition)

variable {k l m : Nat}

/-! ### Values -/

theorem denotes_anyValue : Denotes true k anyValue [.anyValue] k 2 :=
  Denotes.notSlash.lazily Denotes.isSign_many

theorem denotes_someValue : Denotes true k someValue [.someValue] k 2 :=
  Denotes.notSlash.lazily Denotes.isSign_more

theorem matchesOnlyEmpty_seqs (ps : List Pattern) :
    (Pattern.seqs ps).matchesOnlyEmpty = ps.all Pattern.matchesOnlyEmpty := by
  fun_induction Pattern.seqs ps with
  | case1 => rfl
  | case2 p => simp
  | case3 p ps _ ih => simp [Pattern.matchesOnlyEmpty, ih]

theorem repetition_many {p : Pattern} (hp : p.matchesOnlyEmpty = false) :
    p.repetition 0 none true = p.many := by
  simp [repetition, hp, Pattern.many]

theorem repetition_optional (p : Pattern) : p.repetition 0 (some 1) true = p.optional := by
  cases hp : p.matchesOnlyEmpty <;> simp [repetition, hp, Pattern.optional]

/-- A group that is repeated any number of times, if a part of it cannot be empty. -/
theorem Denotes.manyParens {u : Text} {ps : List Pattern} {d : Nat} (h : Denotes false k u ps l d)
    {p : Pattern} (hp : p ∈ ps) (hempty : p.matchesOnlyEmpty = false) :
    Denotes false k (inParens u ++ ['*']) [(Pattern.seqs ps).many] l (d + 3) := by
  have hall : (Pattern.seqs ps).matchesOnlyEmpty = false := by
    rw [matchesOnlyEmpty_seqs]
    exact List.all_eq_false.mpr ⟨p, hp, by simp [hempty]⟩
  exact repetition_many hall ▸ h.parens.greedily isSign_many

/-- An optional group. -/
theorem Denotes.optionalGroup {u : Text} {ps : List Pattern} {d : Nat}
    (h : Denotes false (k + 1) u ps l d) (hu : u.head? ≠ some '?') :
    Denotes false k (inGroup u ++ ['?']) [(Pattern.group k (.seqs ps)).optional] l (d + 3) :=
  repetition_optional _ ▸ (h.group hu).greedily isSign_optional

/-! ### Elements -/

theorem denotes_pair (name : Text) :
    Denotes true k (inParens (Pattern.escape name ++ '=' :: anyValue))
      [.seqs (Pattern.ofChars name ++ [.chars (.single '='), .anyValue])] k 4 :=
  have hname : Denotes true k (Pattern.escape name) _ k 2 := (Denotes.escape name).mono (by decide)
  have heq : Denotes true k ['='] _ k 2 := (Denotes.plain (by decide)).mono (by decide)
  (hname.append (heq.append denotes_anyValue)).bound.parens

theorem denotes_pairPattern {o : Operator} (ho : o.vars ≠ []) :
    Denotes true k o.pairPattern [o.pairs] k 6 :=
  Denotes.alternatives denotes_pair (by simpa [Operator.names] using ho)

theorem matchesOnlyEmpty_alts {ps : List Pattern} (hps : ∀ p ∈ ps, p.matchesOnlyEmpty = false) :
    (Pattern.alts ps).matchesOnlyEmpty = false := by
  fun_induction Pattern.alts ps with
  | case1 => rfl
  | case2 p => exact hps p (by simp)
  | case3 p ps _ ih => simp [Pattern.matchesOnlyEmpty, hps p (by simp)]

theorem matchesOnlyEmpty_pairs (o : Operator) : o.pairs.matchesOnlyEmpty = false := by
  refine matchesOnlyEmpty_alts fun p hp => ?_
  obtain ⟨n, _, rfl⟩ := List.mem_map.mp hp
  simp [matchesOnlyEmpty_seqs, Pattern.matchesOnlyEmpty]

theorem head?_inParens_ne (u v : Text) : (inParens u ++ v).head? ≠ some '?' :=
  fun h => absurd (Option.some.inj h) (by decide)

theorem head?_anyValue_ne (t : Text) : (anyValue ++ t).head? ≠ some '?' :=
  fun h => absurd (Option.some.inj h) (by decide)

theorem denotes_operator {o : Operator} (ho : o.vars ≠ []) :
    Denotes false o.group o.fragment [o.expression] (o.group + 1) 12 := by
  have harg {l : Nat} : Denotes true l (Pattern.escape o.arg) (Pattern.ofChars o.arg) l 6 :=
    (Denotes.escape _).mono (by decide)
  have harg' := Denotes.head?_escape_ne o.arg
  have hvalue {l : Nat} := (denotes_anyValue (k := l)).mono (show 2 ≤ 6 by decide)
  have hpair {l : Nat} := denotes_pairPattern (k := l) ho
  have hvalues {l : Nat} :=
    (harg.append hvalue).bound.manyParens (k := l) (p := .anyValue) (by simp) rfl
  have hmore : 6 ≤ 9 := by decide
  rw [Operator.fragment, Operator.expression]
  split
  · exact (harg.bound.optionalGroup harg').mono (by decide)
  · exact (harg.bound.optionalGroup harg').mono (by decide)
  · exact (hvalues.group (head?_inParens_ne _ _)).bound.mono (by decide)
  · have := (hvalue.append harg).bound.manyParens (k := o.group + 1) (p := .anyValue)
      (by simp) rfl
    exact (this.group (head?_inParens_ne _ _)).bound.mono (by decide)
  · have := (hvalue.mono hmore).append (hvalues (l := o.group + 1))
    exact (this.group (head?_anyValue_ne _)).bound.mono (by decide)
  · have := (harg.append hpair).bound.manyParens (k := o.group + 1) (by simp)
      (matchesOnlyEmpty_pairs o)
    have := (hpair.mono hmore).append this
    simpa using this.optionalGroup (head?_inParens_ne _ _)

theorem denotes_variable {v : Variable} (hv : v.constraint = none) :
    Denotes false v.group (inGroup v.valuePattern) [.group v.group .someValue] (v.group + 1)
      12 := by
  rw [Variable.valuePattern, hv]
  exact (denotes_someValue.bound.group (by decide)).bound.mono (by decide)

/-- What the fragment of an element denotes. -/
theorem denotes_fragment {e : Element} (he : e.IsPlain) (hk : e.group? = some k) :
    Denotes false k e.fragment e.expressions (k + 1) 12 := by
  match e, he, hk with
  | .variable v, he, hk =>
      obtain rfl : v.group = k := by simpa [Element.group?] using hk
      exact denotes_variable he
  | .operator o, he, hk =>
      obtain rfl : o.group = k := by simpa [Element.group?] using hk
      exact denotes_operator he

theorem head?_fragment_ne (e : Element) : e.fragment.head? ≠ some '?' := by
  match e with
  | .literal t => exact Denotes.head?_escape_ne t
  | .variable v => simp [Element.fragment, inGroup]
  | .operator o =>
      rw [Element.fragment, Operator.fragment]
      split <;> simp [inGroup]

/-- What the fragments of elements denote. -/
theorem denotes_fragments {es : List Element} (hes : ∀ e ∈ es, e.IsPlain)
    (h : Template.Numbered k es l) :
    Denotes false k (es.flatMap Element.fragment) (es.flatMap Element.expressions) l 12 ∧
      (es.flatMap Element.fragment).head? ≠ some '?' := by
  induction h with
  | nil k => exact ⟨Denotes.nil.bound, by simp⟩
  | literal t h ih =>
      obtain ⟨hd, hh⟩ := ih fun e he => hes e (by simp [he])
      exact ⟨((Denotes.escape t).mono (by decide)).append hd,
        head?_append_ne (Denotes.head?_escape_ne t) hh⟩
  | owner hk h ih =>
      obtain ⟨hd, hh⟩ := ih fun e he => hes e (by simp [he])
      have he := hes _ List.mem_cons_self
      exact ⟨(denotes_fragment he hk).append_of_head hd hh,
        head?_append_ne (head?_fragment_ne _) hh⟩

/-- What the tail denotes, where `u` is what may follow the template. -/
theorem Denotes.tail {u : Text} {ps : List Pattern} {d : Nat} (h : Denotes false (k + 1) u ps l d) :
    Denotes true k (inGroup (inParens u ++ ['?'])) [.group k (.optional (.seqs ps))] l (d + 5) :=
  Denotes.group (repetition_optional _ ▸ h.parens.greedily isSign_optional)
    (head?_inParens_ne _ _)

theorem denotes_tail (es : List Element) :
    Denotes true k (Template.tailFragment es) [.group k (Template.tailExpression es)] (k + 1)
      6 := by
  have hmany : (Pattern.chars .notLineFeed).repetition 0 none true = .many (.chars .notLineFeed) :=
    rfl
  have hany : Denotes false (k + 1) ['.', '*'] [.many (.chars .notLineFeed)] (k + 1) 1 :=
    hmany ▸ Denotes.dot.greedily Denotes.isSign_many
  have hslash : Denotes true (k + 1) ['/'] _ _ 1 := (Denotes.plain (by decide)).mono (by decide)
  rw [Template.tailFragment, Template.tailExpression]
  split
  case isTrue => exact hany.tail
  case isFalse => exact (hslash.append hany).tail

end RegexReader

namespace Template

open RegexReader

/-- Reading the text of the pattern gives its expression. -/
theorem ofText?_patternText {es : List Element} {tailGroup : Nat} (hes : ∀ e ∈ es, e.IsPlain)
    (hn : Numbered 2 es tailGroup) :
    Pattern.ofText? (patternText es) =
      if Pattern.weightLimit < (patternExpression es tailGroup).weight then none
      else some (patternExpression es tailGroup) := by
  obtain ⟨hbody, hhead⟩ := denotes_fragments hes hn
  have hstart : Denotes true 1 ['^'] _ 1 14 := Denotes.textStart.mono (by decide)
  have hend : Denotes true (tailGroup + 1) ['$'] _ _ 14 := Denotes.textEnd.mono (by decide)
  have htail := (denotes_tail (k := tailGroup) es).mono (show 6 ≤ 14 by decide)
  exact (hstart.append ((hbody.group hhead).append htail |>.append hend)).ofText?_eq (by decide)

end Template
end PathTemplate
