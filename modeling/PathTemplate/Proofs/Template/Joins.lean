import PathTemplate.Proofs.Template.Cutting
import PathTemplate.Proofs.Template.OperatorValues

/-!
# Joins — what a join captures, and what it takes for pairs

The group of a join holds pairs of a declared name and a slash-free value, with the argument between
neighbours.  Values may hold the argument as well, unless there is a slash in it.  Where they do, the
text is cut inside of a value, and what stands behind the cut need not begin with a declared name.

- `Operator.IsRow`            : pairs as a join accepts them
- `Operator.exists_row`       : what a join records is such a row
- `Operator.IsOwn`            : a piece with a declared name
- `Operator.exists_not_isOwn` : without a slash in the argument some captured text has another piece
- `Matcher.captures_row`      : the pieces of a match, and when they are the pairs
-/

namespace PathTemplate

open scoped Computability

namespace Operator

variable {o : Operator} {u : Text} {pairs : List (Text × Text)}

/-! ## Rows of pairs -/

structure IsRow (o : Operator) (pairs : List (Text × Text)) : Prop where
  names : ∀ p ∈ pairs, p.1 ∈ o.names
  values : ∀ p ∈ pairs, '/' ∉ p.2

theorem exists_pairText_of_mem (h : u ∈ o.pair) :
    ∃ p : Text × Text, (p.1 ∈ o.names ∧ '/' ∉ p.2) ∧ u = pairText p := by
  obtain ⟨n, hn, hu⟩ := h
  obtain ⟨_, rfl, v, hv, rfl⟩ := Language.mem_mul.mp hu
  exact ⟨(n, v), ⟨hn, hv⟩, by simp [pairText]⟩

/-- What a join records is a row of pairs with the argument between neighbours. -/
theorem exists_row (h : u ∈ o.pair * ({o.arg} * o.pair)∗) :
    ∃ pairs, pairs ≠ [] ∧ o.IsRow pairs ∧ u = Text.join o.arg (pairs.map pairText) := by
  obtain ⟨x, hx, y, hy, rfl⟩ := Language.mem_mul.mp h
  obtain ⟨p, hp, rfl⟩ := exists_pairText_of_mem hx
  obtain ⟨pairs, hpairs, rfl⟩ := exists_flatMap_of_mem_kstar
    (P := fun p : Text × Text => p.1 ∈ o.names ∧ '/' ∉ p.2) (f := fun p => o.arg ++ pairText p)
    (fun w hw => by
      obtain ⟨_, rfl, z, hz, rfl⟩ := Language.mem_mul.mp hw
      obtain ⟨q, hq, rfl⟩ := exists_pairText_of_mem hz
      exact ⟨q, hq, rfl⟩) hy
  have hall : ∀ q ∈ p :: pairs, q.1 ∈ o.names ∧ '/' ∉ q.2 := List.forall_mem_cons.mpr ⟨hp, hpairs⟩
  have hrow : o.IsRow (p :: pairs) := ⟨fun q hq => (hall q hq).1, fun q hq => (hall q hq).2⟩
  refine ⟨p :: pairs, List.cons_ne_nil _ _, hrow, ?_⟩
  rw [List.map_cons, Text.join_cons, List.flatMap_map]

/-! ## Pieces -/

/-- A piece that begins with a declared name and the sign. -/
def IsOwn (o : Operator) (piece : Text) : Prop := ∃ n ∈ o.names, ∃ v, piece = pairText (n, v)

theorem IsRow.isOwn (h : o.IsRow pairs) : ∀ piece ∈ pairs.map pairText, o.IsOwn piece := by
  intro piece hpiece
  obtain ⟨p, hp, rfl⟩ := List.mem_map.mp hpiece
  exact ⟨p.1, h.names p hp, p.2, rfl⟩

theorem IsOwn.one_le_count {piece : Text} (h : o.IsOwn piece) : 1 ≤ piece.count '=' := by
  obtain ⟨n, -, v, rfl⟩ := h
  exact List.one_le_count_iff.mpr (by simp [pairText])

/-- Without a slash in the argument, a value may be the argument.  Cut there, the pair leaves a piece
that is no pair. -/
theorem exists_not_isOwn (harg : o.arg ≠ []) (hslash : '/' ∉ o.arg) {n : Text} (hn : n ∈ o.names)
    (hname : '=' ∉ n) :
    pairText (n, o.arg) ∈ o.pair * ({o.arg} * o.pair)∗ ∧
      ∃ piece ∈ Text.splitBy o.arg (pairText (n, o.arg)), ¬ o.IsOwn piece := by
  constructor
  · have hpair : pairText (n, o.arg) ∈ o.pair := mem_pair hn hslash
    have hrow := Language.append_mem_mul hpair (Language.nil_mem_kstar ({o.arg} * o.pair))
    rwa [List.append_nil] at hrow
  · by_contra hnone
    push Not at hnone
    have hinfix : o.arg <:+: pairText (n, o.arg) := ⟨n ++ ['='], [], by simp [pairText]⟩
    obtain ⟨qs, last, hqs, hsplit⟩ := Text.exists_splitBy_of_infix harg hinfix
    have hjoin := Text.join_splitBy o.arg harg (pairText (n, o.arg))
    rw [hsplit] at hnone
    rw [hsplit, Text.join_append _ _ (List.cons_ne_nil last [])] at hjoin
    obtain ⟨q, qs, rfl⟩ := List.exists_cons_of_ne_nil hqs
    -- Two pieces with a sign each have one sign more than the pair.
    have hq := (hnone q (by simp)).one_le_count
    have hlast := (hnone last (by simp)).one_le_count
    have hcount := congrArg (List.count '=') hjoin
    have hzero : n.count '=' = 0 := List.count_eq_zero.mpr hname
    simp only [List.flatMap_cons, List.count_append, Text.join, pairText, List.count_cons_self,
      hzero] at hcount
    omega

/-- The pairs of a row are the pieces and are taken for pairs, if some character of the argument
besides the sign is in none of their names and values. -/
theorem IsRow.pieces {c : Char} (hrow : o.IsRow pairs) (hnames : ∀ n ∈ o.names, IsName n)
    (hne : Text.join o.arg (pairs.map pairText) ≠ []) (hmem : c ∈ o.arg) (heq : c ≠ '=')
    (hpairs : ∀ p ∈ pairs, c ∉ p.1 ∧ c ∉ p.2) :
    Text.splitBy o.arg (Text.join o.arg (pairs.map pairText)) = pairs.map pairText ∧
      o.pairsOf (Text.join o.arg (pairs.map pairText)) = pairs := by
  have hnil : pairs ≠ [] := by
    rintro rfl
    exact hne rfl
  have hsign : ∀ p ∈ pairs, '=' ∉ p.1 := fun p hp => (hnames _ (hrow.names p hp)).notMem rfl
  exact ⟨splitBy_join_pairs hnil hmem heq hpairs, pairsOf_join hmem heq hpairs hsign⟩

/-- No name and no value of a row has a slash. -/
theorem IsRow.slashFree (hrow : o.IsRow pairs) (hnames : ∀ n ∈ o.names, IsName n) :
    ∀ p ∈ pairs, '/' ∉ p.1 ∧ '/' ∉ p.2 :=
  fun p hp => ⟨(hnames _ (hrow.names p hp)).notMem rfl, hrow.values p hp⟩

/-- All captured texts have declared names only, if and only if the argument has a slash. -/
theorem forall_isOwn_iff (ho : o.Checked) (hkind : o.kind = .join)
    (hnames : ∀ n ∈ o.names, IsName n) :
    (∀ v, o.CanCapture v → v ≠ [] → ∀ piece ∈ Text.splitBy o.arg v, o.IsOwn piece) ↔
      '/' ∈ o.arg := by
  have hrecorded : ∀ v, o.CanCapture v ↔ v ∈ o.pair * ({o.arg} * o.pair)∗ := by
    intro v
    rw [canCapture_iff ho.vars_ne_nil, recorded, hkind]
  constructor
  · intro hall
    by_contra hslash
    obtain ⟨v, hv⟩ := List.exists_mem_of_ne_nil o.vars ho.vars_ne_nil
    have hn : v.1 ∈ o.names := List.mem_map_of_mem hv
    obtain ⟨hcapture, piece, hpiece, hnot⟩ :=
      exists_not_isOwn (ho.arg_ne_nil (by rw [hkind]; rfl)) hslash hn ((hnames _ hn).notMem rfl)
    exact hnot (hall _ ((hrecorded _).mpr hcapture) (by simp [pairText]) piece hpiece)
  · intro hslash v hv hne piece hpiece
    obtain ⟨pairs, -, hrow, rfl⟩ := exists_row ((hrecorded v).mp hv)
    rw [(hrow.pieces hnames hne hslash (by decide) (hrow.slashFree hnames)).1] at hpiece
    exact hrow.isOwn piece hpiece

end Operator

/-! ## Matches -/

namespace Matcher

open Operator (IsRow IsOwn pairText)

/-- What the group of a join holds in a match is, unless it is empty, a row of pairs with declared
names and the argument between neighbours.  If the argument has a slash, the pieces are these pairs;
and so they are if some other character of the argument besides the equals sign is in none of the
names and values.  If the argument has no slash, some text that can be captured has a piece without
a declared name. -/
theorem captures_row {text path u : Text} {opts : CompileOptions} {o : Operator} (m : Matcher)
    {m' : Matcher} (ht : (Template.compileWith text opts).value = .ok m.template)
    (ho : .operator o ∈ m.template.elements) (hkind : o.kind = .join)
    (hrun : (m.run path).value = (true, m')) (hu : m'.groupText o.group = .ok u) (hne : u ≠ []) :
    o.CanCapture u ∧
    (∃ pairs, o.IsRow pairs ∧ u = Text.join o.arg (pairs.map pairText) ∧
      ('/' ∈ o.arg → Text.splitBy o.arg u = pairs.map pairText ∧ o.pairsOf u = pairs)) ∧
    (∀ pairs c, o.IsRow pairs → u = Text.join o.arg (pairs.map pairText) → c ∈ o.arg → c ≠ '=' →
      (∀ p ∈ pairs, c ∉ p.1 ∧ c ∉ p.2) →
      Text.splitBy o.arg u = pairs.map pairText ∧ o.pairsOf u = pairs) ∧
    ((∀ v, o.CanCapture v → v ≠ [] → ∀ piece ∈ Text.splitBy o.arg v, o.IsOwn piece) ↔
      '/' ∈ o.arg) := by
  obtain ⟨hwell, -⟩ := Template.wellFormed_of_compileWith ht
  obtain ⟨-, hchecked⟩ := hwell.built _ ho
  have hnames : ∀ n ∈ o.names, IsName n := fun n => Template.isName_of_mem_names ht ho
  obtain ⟨trace, htrace, rfl⟩ := matched_of_run hrun
  -- The text is not empty, so the group took part.
  have hheld : ((trace.capture path o.group).map (·.1)).getD [] = u := Except.ok.inj hu
  have hrecorded : u ∈ o.recorded := by
    have hrecords := hwell.records_capture (hwell.isPlain_of_operator ho) htrace ho rfl
    rcases hrecords with ⟨-, hnone⟩ | ⟨v, hv, hsome⟩
    · rw [hnone] at hheld
      exact absurd hheld.symm hne
    · rw [hsome] at hheld
      exact hheld ▸ hv
  refine ⟨(Operator.canCapture_iff hchecked.vars_ne_nil).mpr hrecorded, ?_, ?_,
    Operator.forall_isOwn_iff hchecked hkind hnames⟩
  · rw [Operator.recorded, hkind] at hrecorded
    obtain ⟨pairs, -, hrow, rfl⟩ := Operator.exists_row hrecorded
    exact ⟨pairs, hrow, rfl, fun hslash =>
      hrow.pieces hnames hne hslash (by decide) (hrow.slashFree hnames)⟩
  · rintro pairs c hrow rfl hmem heq hpairs
    exact hrow.pieces hnames hne hmem heq hpairs

theorem captures_row_query :
    ∃ t o m',
      (Template.compileWith "find\x7b-join|&|a,b\x7d".toList ⟨.extended, true⟩).value = .ok t ∧
      .operator o ∈ t.elements ∧
      (t.matcher.run "findb=1&a=2=3".toList).value = (true, m') ∧
      m'.groupText o.group = .ok "b=1&a=2=3".toList ∧
      o.pairsOf "b=1&a=2=3".toList =
        [("b".toList, "1".toList), ("a".toList, "2=3".toList)] := by
  let path := "findb=1&a=2=3".toList
  let o : Operator := ⟨.join, ['&'], [("a".toList, none), ("b".toList, none)], 2⟩
  have hok : (Template.compileWith "find\x7b-join|&|a,b\x7d".toList
      ⟨.extended, true⟩).value.toOption.any (fun t =>
        (t.matcher.run path).value.1 &&
          (t.matcher.run path).value.2.groupText 2 == .ok "b=1&a=2=3".toList &&
          t.elements == [.literal "find".toList, .operator o]) = true := by
    decide +kernel
  rcases exists_ok_of_any hok with ⟨t, ht, htest⟩
  simp only [Bool.and_eq_true] at htest
  rcases htest with ⟨⟨hmatched, hgroup⟩, helements⟩
  have ho : .operator o ∈ t.elements := by
    rw [eq_of_beq helements]
    exact List.mem_cons_of_mem _ List.mem_cons_self
  have hrun : (t.matcher.run path).value = (true, (t.matcher.run path).value.2) :=
    Prod.ext hmatched rfl
  have hgroup := eq_of_beq hgroup
  have hpairs := (captures_row t.matcher ht ho rfl hrun hgroup (by decide)).2.2.1
    [("b".toList, "1".toList), ("a".toList, "2=3".toList)] '&'
    ⟨by decide, by decide⟩ (by decide) (by decide) (by decide) (by decide)
  exact ⟨t, o, _, ht, ho, hrun, hgroup, hpairs.2⟩

/-- A value may hold the argument.  What stands behind it there is no declared name. -/
theorem captures_foreign_piece :
    ∃ t o m',
      (Template.compileWith "\x7b-join|;|a,b\x7d".toList ⟨.extended, true⟩).value = .ok t ∧
      t.elements = [.operator o] ∧ o.kind = .join ∧
      (t.matcher.run "a=1;c=2".toList).value = (true, m') ∧
      m'.groupText o.group = .ok "a=1;c=2".toList ∧
      "c=2".toList ∈ Text.splitBy o.arg "a=1;c=2".toList ∧ ¬ o.IsOwn "c=2".toList := by
  let path := "a=1;c=2".toList
  let o : Operator := ⟨.join, [';'], [("a".toList, none), ("b".toList, none)], 2⟩
  have hok : (Template.compileWith "\x7b-join|;|a,b\x7d".toList
      ⟨.extended, true⟩).value.toOption.any (fun t =>
        (t.matcher.run path).value.1 &&
          (t.matcher.run path).value.2.groupText 2 == .ok path && t.elements == [.operator o]) =
      true := by
    decide +kernel
  rcases exists_ok_of_any hok with ⟨t, ht, htest⟩
  simp only [Bool.and_eq_true] at htest
  rcases htest with ⟨⟨hmatched, hgroup⟩, helements⟩
  have hrun : (t.matcher.run path).value = (true, (t.matcher.run path).value.2) :=
    Prod.ext hmatched rfl
  refine ⟨t, o, _, ht, eq_of_beq helements, rfl, hrun, eq_of_beq hgroup, by decide, ?_⟩
  rintro ⟨n, hn, v, hpiece⟩
  have hn : n = "a".toList ∨ n = "b".toList := by simpa [o, Operator.names] using hn
  rcases hn with rfl | rfl <;> simp [pairText] at hpiece

end Matcher
end PathTemplate
