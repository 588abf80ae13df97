import PathTemplate.Proofs.Regex.Spelling
import PathTemplate.Template.Pattern

/-!
# Pieces — the texts that an element covers

The piece of an element is the part of a path that the element covers.  `Element.pieces` says which
texts these are, independently of the pattern.

- `slashFree`, `lineFree` : texts without a slash, texts without a line feed
- `Element.pieces`        : the pieces of an element without a constraint
- `Element.Records`       : the same as what the group of the element records, if it takes part
- `Element.matches_expressions_iff` : an element's expressions match its pieces and record them
- `Element.tame_expressions`        : no repetition in them has a body that can be empty
-/

namespace PathTemplate

open scoped Computability

def slashFree : Language Char := {u | '/' ∉ u}

def lineFree : Language Char := {u | '\n' ∉ u}

def someSlashFree : Language Char := {u | u ≠ [] ∧ '/' ∉ u}

/-! ## Pieces -/

namespace Operator

/-- A name of the operator and a value. -/
def pair (o : Operator) : Language Char := anyOf (fun n => {n ++ ['=']} * slashFree) o.names

/-- What the group of an operator records when it takes part. -/
def recorded (o : Operator) : Language Char :=
  match o.kind with
  | .negate | .option => {o.arg}
  | .before => ({o.arg} * slashFree)∗
  | .after => (slashFree * {o.arg})∗
  | .list => slashFree * ({o.arg} * slashFree)∗
  | .join => o.pair * ({o.arg} * o.pair)∗

end Operator

/-- Whether the group of an operator may take no part in a match. -/
def OperatorKind.mayBeAbsent : OperatorKind → Bool
  | negate | option | join => true
  | before | after | list => false

/-- The pieces of an operator: what its group records, and the empty text where it takes no part. -/
def Operator.pieces (o : Operator) : Language Char :=
  if o.kind.mayBeAbsent then 1 + o.recorded else o.recorded

namespace Element

def pieces : Element → Language Char
  | literal t => {t}
  | .variable _ => someSlashFree
  | operator o => o.pieces

/-- The text that an element covers as its group records it: nothing if the group takes no part.
A literal has no group and covers its text. -/
def Records : Element → Option Text → Prop
  | literal t, piece => piece = some t
  | .variable _, piece => ∃ u ∈ someSlashFree, piece = some u
  | operator o, piece =>
      (o.kind.mayBeAbsent = true ∧ piece = none) ∨ ∃ u ∈ o.recorded, piece = some u

/-- The boundaries of an element's group around its text, which begins at index `i`. -/
def boundaries (e : Element) (piece : Option Text) (i : Nat) : Trace :=
  match e.group?, piece with
  | some k, some u => [.opens k i, .closes k (i + u.length)]
  | _, _ => []

/-- A piece is a recorded text, or it is empty where the group took no part. -/
theorem mem_pieces_iff {e : Element} {u : Text} :
    u ∈ e.pieces ↔ ∃ piece, e.Records piece ∧ piece.getD [] = u := by
  cases e with
  | literal t =>
      constructor
      · rintro rfl
        exact ⟨some u, rfl, rfl⟩
      · rintro ⟨_, rfl, rfl⟩
        rfl
  | «variable» v =>
      constructor
      · intro hu
        exact ⟨some u, ⟨u, hu, rfl⟩, rfl⟩
      · rintro ⟨_, ⟨x, hx, rfl⟩, rfl⟩
        exact hx
  | operator o =>
      -- The group of an operator may take no part, and then the empty text is its piece.
      have hpieces : u ∈ o.pieces ↔ (o.kind.mayBeAbsent = true ∧ u = []) ∨ u ∈ o.recorded := by
        rw [Operator.pieces]
        split
        case isTrue habsent => simp only [mem_one_add, habsent, true_and]
        case isFalse habsent => simp [habsent]
      refine hpieces.trans ?_
      constructor
      · rintro (⟨habsent, rfl⟩ | hu)
        · exact ⟨none, .inl ⟨habsent, rfl⟩, rfl⟩
        · exact ⟨some u, .inr ⟨u, hu, rfl⟩, rfl⟩
      · rintro ⟨_, ⟨habsent, rfl⟩ | ⟨x, hx, rfl⟩, rfl⟩
        · exact .inl ⟨habsent, rfl⟩
        · exact .inr hx

end Element

/-! ## What the expressions spell -/

theorem Char.toNat_le_max (x : Char) : x.toNat ≤ 0x10FFFF := by
  rcases x.valid with h | h
  · exact Nat.le_of_lt (Nat.lt_trans h (by decide))
  · exact Nat.le_of_lt_succ h.2

theorem CharClass.has_compl_single {x y : Char} :
    (CharClass.compl (.single y)).has x = true ↔ x ≠ y := by
  have hmax := Char.toNat_le_max x
  simp only [has, compl, all, single, contains, Bool.and_eq_true, Bool.not_eq_true',
    decide_eq_true_eq, Bool.and_eq_false_iff, decide_eq_false_iff_not, Nat.not_le]
  constructor
  · rintro ⟨_, hne⟩ rfl
    exact hne.elim (Nat.lt_irrefl _) (Nat.lt_irrefl _)
  · intro hne
    exact ⟨⟨Nat.zero_le _, hmax⟩, Nat.lt_or_gt_of_ne fun h => hne (Char.toNat_inj.mp h)⟩

theorem CharClass.allOf_compl_single (y : Char) :
    (CharClass.compl (.single y)).allOf = {u | y ∉ u} := by
  ext u
  constructor
  · intro hu hy
    exact CharClass.has_compl_single.mp (hu y hy) rfl
  · intro hu x hx
    refine CharClass.has_compl_single.mpr ?_
    rintro rfl
    exact hu hx

namespace Pattern

theorem Spells.anyValue : Pattern.anyValue.Spells slashFree := by
  have hmany := (Regex.Spells.chars .notSlash).many false
  rwa [CharClass.kstar_oneOf, CharClass.notSlash, CharClass.allOf_compl_single] at hmany

theorem Spells.someValue : Pattern.someValue.Spells someSlashFree := by
  have hmore := (Regex.Spells.chars .notSlash).more false
  -- A first character and any more are the texts that are not empty.
  have hlanguage : CharClass.notSlash.oneOf * CharClass.notSlash.oneOf∗ = someSlashFree := by
    rw [CharClass.kstar_oneOf]
    ext u
    rw [Language.mem_mul]
    constructor
    · rintro ⟨_, ⟨x, hx, rfl⟩, v, hv, rfl⟩
      refine ⟨List.cons_ne_nil x v, ?_⟩
      intro hmem
      rcases List.mem_cons.mp hmem with rfl | hmem
      · exact CharClass.has_compl_single.mp hx rfl
      · exact CharClass.has_compl_single.mp (hv _ hmem) rfl
    · rintro ⟨hne, hu⟩
      cases u with
      | nil => exact absurd rfl hne
      | cons x v =>
          refine ⟨[x], ⟨x, ?_, rfl⟩, v, ?_, rfl⟩
          · refine CharClass.has_compl_single.mpr ?_
            rintro rfl
            exact hu List.mem_cons_self
          · intro y hy
            refine CharClass.has_compl_single.mpr ?_
            rintro rfl
            exact hu (List.mem_cons_of_mem _ hy)
  rwa [hlanguage] at hmore

theorem Spells.lineFree : (Pattern.many (.chars .notLineFeed)).Spells lineFree := by
  have hmany := (Regex.Spells.chars .notLineFeed).many true
  rwa [CharClass.kstar_oneOf, CharClass.notLineFeed, CharClass.allOf_compl_single] at hmany

/-- An argument and a value after it, any number of times. -/
theorem Spells.manyAfter {p : Pattern} {L : Language Char} (arg : Text) (hp : p.Spells L) :
    (Pattern.many (.seqs (Pattern.ofChars arg ++ [p]))).Spells ({arg} * L)∗ := by
  have hone : (Pattern.seqs [p]).Spells L := hp
  exact ((Spells.ofChars arg).seqs_append hone).many

theorem tame_anyValue : Pattern.anyValue.regex.Tame := ⟨trivial, rfl, trivial⟩

end Pattern

namespace Operator

theorem spells_pairs {o : Operator} (ho : o.vars ≠ []) : o.pairs.Spells o.pair := by
  have hpair : ∀ n : Text, (Pattern.seqs (Pattern.ofChars n ++
      [.chars (.single '='), .anyValue])).Spells ({n ++ ['=']} * slashFree) := by
    intro n
    -- The name and the sign are characters in a row.
    have hname : ({n ++ ['=']} : Language Char) * slashFree = {n} * ({['=']} * slashFree) := by
      rw [← mul_assoc, singleton_mul_singleton]
    rw [hname]
    exact (Pattern.Spells.ofChars n).seqs_append
      ((Pattern.Spells.single '=').seqs_pair Pattern.Spells.anyValue)
  have hnames : o.names ≠ [] := by simpa [names] using ho
  rw [pairs, pair]
  cases hn : o.names with
  | nil => exact absurd hn hnames
  | cons n ns => exact Pattern.Spells.alts hpair n ns

/-- The part of an operator's pattern within its group. -/
def body (o : Operator) : Pattern :=
  let arg := Pattern.ofChars o.arg
  match o.kind with
  | .negate | .option => .seqs arg
  | .before => .many (.seqs (arg ++ [.anyValue]))
  | .after => .many (.seqs (.anyValue :: arg))
  | .list => .seqs [.anyValue, .many (.seqs (arg ++ [.anyValue]))]
  | .join => .seqs [o.pairs, .many (.seqs (arg ++ [o.pairs]))]

theorem expression_eq (o : Operator) :
    o.expression = if o.kind.mayBeAbsent then (Pattern.group o.group o.body).optional
      else .group o.group o.body := by
  rw [expression, body]
  cases o.kind <;> rfl

/-- What the group of an operator records, its pattern spells. -/
theorem spells_body {o : Operator} (ho : o.vars ≠ []) : o.body.Spells o.recorded := by
  have hvalues := Pattern.Spells.manyAfter o.arg Pattern.Spells.anyValue
  have hpairs := Pattern.Spells.manyAfter o.arg (spells_pairs ho)
  rw [body, recorded]
  cases o.kind with
  | negate => exact Pattern.Spells.ofChars o.arg
  | option => exact Pattern.Spells.ofChars o.arg
  | before => exact hvalues
  | after => exact (Pattern.Spells.anyValue.seqs_cons (Pattern.Spells.ofChars o.arg)).many
  | list => exact Pattern.Spells.anyValue.seqs_pair hvalues
  | join => exact (spells_pairs ho).seqs_pair hpairs

/-! ### Repetitions that take characters -/

theorem tame_pairs (o : Operator) : o.pairs.regex.Tame := by
  refine Pattern.tame_alts fun p hp => ?_
  rcases List.mem_map.mp hp with ⟨n, _, rfl⟩
  refine Pattern.tame_seqs_iff.mpr fun q hq => ?_
  rcases List.mem_append.mp hq with hq | hq
  · exact Pattern.tame_ofChars n q hq
  · simp only [List.mem_cons, List.not_mem_nil, or_false] at hq
    rcases hq with rfl | rfl
    · trivial
    · exact Pattern.tame_anyValue

theorem nullable_pairs (o : Operator) : o.pairs.regex.nullable = false := by
  refine Pattern.nullable_alts fun p hp => ?_
  rcases List.mem_map.mp hp with ⟨n, _, rfl⟩
  exact Pattern.nullable_seqs_eq_false (p := .chars (.single '=')) (by simp) rfl

/-- Unless an argument that cuts is empty, no repetition has a body that can be empty. -/
theorem tame_body {o : Operator} (harg : o.kind.cutsAtArgument = true → o.arg ≠ []) :
    o.body.regex.Tame := by
  have hchars := Pattern.tame_ofChars o.arg
  -- Beside the argument there is one more part, be it a value or the pairs.
  have hbeside : ∀ p : Pattern, p.regex.Tame →
      ∀ q ∈ Pattern.ofChars o.arg ++ [p], q.regex.Tame := by
    intro p hp q hq
    rcases List.mem_append.mp hq with hq | hq
    · exact hchars q hq
    · rwa [List.mem_singleton.mp hq]
  have hvalues := hbeside _ Pattern.tame_anyValue
  have hpairs := hbeside _ (tame_pairs o)
  rw [body]
  cases hk : o.kind with
  | negate => exact Pattern.tame_seqs_iff.mpr hchars
  | option => exact Pattern.tame_seqs_iff.mpr hchars
  | before =>
      rcases Pattern.exists_mem_ofChars (harg (by rw [hk]; rfl)) with ⟨p, hp, hn⟩
      exact Pattern.tame_many (List.mem_append_left _ hp) hn hvalues
  | after =>
      rcases Pattern.exists_mem_ofChars (harg (by rw [hk]; rfl)) with ⟨p, hp, hn⟩
      refine Pattern.tame_many (List.mem_cons_of_mem _ hp) hn ?_
      exact List.forall_mem_cons.mpr ⟨Pattern.tame_anyValue, hchars⟩
  | list =>
      rcases Pattern.exists_mem_ofChars (harg (by rw [hk]; rfl)) with ⟨p, hp, hn⟩
      exact ⟨Pattern.tame_anyValue, Pattern.tame_many (List.mem_append_left _ hp) hn hvalues⟩
  -- Pairs hold an equals sign, so the argument of a join may be empty.
  | join =>
      have hmany := Pattern.tame_many (List.mem_append_right _ List.mem_cons_self)
        (nullable_pairs o) hpairs
      exact ⟨tame_pairs o, hmany⟩

end Operator

/-! ## What elements match and record -/

namespace Element

variable {c d : Cut} {t : Trace}

/-- A group matches what its body spells, and records where. -/
theorem matches_group_iff {k : Nat} {p : Pattern} {L : Language Char} (hp : p.Spells L) :
    (Pattern.group k p).regex.Matches c t d ↔
      ∃ u ∈ L, t = [.opens k c.index, .closes k (c.index + u.length)] ∧ c.Passes u d := by
  refine Regex.matches_group_iff.trans ?_
  constructor
  · rintro ⟨_, hbody, rfl⟩
    rcases (hp _ _ _).mp hbody with ⟨rfl, u, hu, hpass⟩
    exact ⟨u, hu, by rw [hpass.index_eq]; rfl, hpass⟩
  · rintro ⟨u, hu, rfl, hpass⟩
    exact ⟨[], (hp _ _ _).mpr ⟨rfl, u, hu, hpass⟩, by rw [hpass.index_eq]; rfl⟩

/-- The group of an operator takes part and records a text, or it is optional and left out. -/
theorem matches_operator_iff {o : Operator} (ho : o.vars ≠ []) :
    o.expression.regex.Matches c t d ↔
      ∃ piece, (operator o).Records piece ∧ t = (operator o).boundaries piece c.index ∧
        c.Passes (piece.getD []) d := by
  have hgroup := matches_group_iff (c := c) (t := t) (d := d) (k := o.group)
    (Operator.spells_body ho)
  rw [Operator.expression_eq]
  split
  case isTrue habsent =>
    refine Pattern.matches_optional_iff.trans ?_
    constructor
    · rintro (⟨rfl, rfl⟩ | hmatch)
      · exact ⟨none, .inl ⟨habsent, rfl⟩, rfl, Cut.Passes.refl d⟩
      · rcases hgroup.mp hmatch with ⟨u, hu, rfl, hpass⟩
        exact ⟨some u, .inr ⟨u, hu, rfl⟩, rfl, hpass⟩
    · rintro ⟨_, ⟨_, rfl⟩ | ⟨u, hu, rfl⟩, rfl, hpass⟩
      · exact .inl ⟨rfl, hpass.unique (Cut.Passes.refl c)⟩
      · exact .inr (hgroup.mpr ⟨u, hu, rfl, hpass⟩)
  case isFalse hpresent =>
    refine hgroup.trans ?_
    constructor
    · rintro ⟨u, hu, rfl, hpass⟩
      exact ⟨some u, .inr ⟨u, hu, rfl⟩, rfl, hpass⟩
    · rintro ⟨_, ⟨habsent, _⟩ | ⟨u, hu, rfl⟩, rfl, hpass⟩
      · exact absurd habsent hpresent
      · exact ⟨u, hu, rfl, hpass⟩

/-- The expressions of an element match its pieces, and record where the group's text is. -/
theorem matches_expressions_iff {e : Element} (he : e.IsPlain) :
    (Pattern.seqs e.expressions).regex.Matches c t d ↔
      ∃ piece, e.Records piece ∧ t = e.boundaries piece c.index ∧ c.Passes (piece.getD []) d := by
  cases e with
  | literal s =>
      refine ((Pattern.Spells.ofChars s) c t d).trans ?_
      constructor
      · rintro ⟨rfl, _, rfl, hpass⟩
        exact ⟨_, rfl, rfl, hpass⟩
      · rintro ⟨_, rfl, rfl, hpass⟩
        exact ⟨rfl, s, rfl, hpass⟩
  | «variable» v =>
      refine (matches_group_iff Pattern.Spells.someValue).trans ?_
      constructor
      · rintro ⟨u, hu, rfl, hpass⟩
        exact ⟨_, ⟨u, hu, rfl⟩, rfl, hpass⟩
      · rintro ⟨_, ⟨u, hu, rfl⟩, rfl, hpass⟩
        exact ⟨u, hu, rfl, hpass⟩
  | operator o => exact matches_operator_iff he

/-- No repetition in the expressions of an element has a body that can be empty. -/
theorem tame_expressions {e : Element}
    (he : ∀ o, e = .operator o → o.kind.cutsAtArgument = true → o.arg ≠ []) :
    ∀ p ∈ e.expressions, p.regex.Tame := by
  cases e with
  | literal s => exact Pattern.tame_ofChars s
  | «variable» v =>
      intro p hp
      rw [List.mem_singleton.mp hp]
      exact ⟨rfl, trivial⟩
  | operator o =>
      intro p hp
      rw [List.mem_singleton.mp hp, Operator.expression_eq]
      split
      · exact Pattern.tame_optional (Operator.tame_body (he o rfl))
      · exact Operator.tame_body (he o rfl)

end Element
end PathTemplate
