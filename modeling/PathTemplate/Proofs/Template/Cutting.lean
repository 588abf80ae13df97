import PathTemplate.Proofs.Template.Reexpansion
import PathTemplate.Proofs.Text.Splitting

/-!
# Cutting — what is kept of a text that is cut at the argument

An operator on one variable binds the pieces of what its group holds.  Where the argument stands
before each value, the first piece is empty and no value; where it stands after each value, the last
piece is taken for empty.  It is empty unless occurrences of the argument overlap.

- `Operator.CanCapture`          : the texts that the group of an operator can hold
- `Operator.canCapture_iff`      : they are those that the operator records
- `Operator.write_bound_after`   : what is written again, and the last piece, which is not
- `Template.writes_captured_iff` : which operators write what they have captured
-/

namespace PathTemplate

open scoped Computability

namespace Operator

variable {o : Operator} {m : Multimap (Option Text)} {text : Text}

/-! ## Captured texts -/

/-- The operator's part of the pattern, `Operator.fragment`, can match in such a way that its group
holds `u`. -/
def CanCapture (o : Operator) (u : Text) : Prop :=
  ∃ c t d start, o.expression.regex.Matches c t d ∧ t.capture c.whole o.group = some (u, start)

/-- What a group can hold is what it records when it takes part. -/
theorem canCapture_iff (ho : o.vars ≠ []) {u : Text} : o.CanCapture u ↔ u ∈ o.recorded := by
  have hcapture : ∀ (x v y : Text),
      Trace.capture [.opens o.group x.length, .closes o.group (x.length + v.length)]
        (x ++ v ++ y) o.group = some (v, x.byteLength) := by
    intro x v y
    have hspan : Trace.span? [.opens o.group x.length, .closes o.group (x.length + v.length)]
        o.group = some (x.length, x.length + v.length) := by
      simp [Trace.span?, Trace.lastOpened, Trace.lastClosed]
    rw [Trace.capture, hspan, Option.map_some, Template.slice_middle]
    simp
  constructor
  · rintro ⟨c, t, d, start, hmatch, hheld⟩
    obtain ⟨piece, hpiece, rfl, hpass⟩ := (Element.matches_operator_iff ho).mp hmatch
    rcases hpiece with ⟨-, rfl⟩ | ⟨v, hv, rfl⟩
    -- A group that takes no part holds nothing.
    · cases hheld
    · have hwhole : c.whole = c.before.reverse ++ v ++ d.after := by
        rw [Cut.whole, hpass.1, Option.getD_some, List.append_assoc]
      have hindex : c.index = c.before.reverse.length := (List.length_reverse).symm
      have hboundaries : (Element.operator o).boundaries (some v) c.index =
          [.opens o.group c.before.reverse.length,
            .closes o.group (c.before.reverse.length + v.length)] := by
        rw [hindex]
        rfl
      rw [hboundaries, hwhole, hcapture] at hheld
      cases hheld
      exact hv
  · intro hu
    have hpass : Cut.Passes ⟨[], u⟩ u ⟨u.reverse, []⟩ := ⟨by simp, by simp⟩
    refine ⟨⟨[], u⟩, _, ⟨u.reverse, []⟩, 0,
      (Element.matches_operator_iff ho).mpr ⟨some u, .inr ⟨u, hu, rfl⟩, rfl, hpass⟩, ?_⟩
    have hheld := hcapture [] u []
    rw [List.append_nil] at hheld
    exact hheld

/-! ## Arguments after values -/

/-- Values with the argument after each of them. -/
theorem exists_values_of_mem_kstar (htext : text ∈ (slashFree * {o.arg})∗) :
    ∃ xs : List Text, (∀ x ∈ xs, '/' ∉ x) ∧ text = xs.flatMap fun x => x ++ o.arg := by
  refine exists_flatMap_of_mem_kstar (fun u hu => ?_) htext
  obtain ⟨x, hx, _, rfl, rfl⟩ := Language.mem_mul.mp hu
  exact ⟨x, hx, rfl⟩

/-- A text of values with the argument after each of them ends with the argument. -/
theorem exists_append_arg (htext : text ∈ (slashFree * {o.arg})∗) (hne : text ≠ []) :
    ∃ w, text = w ++ o.arg := by
  obtain ⟨xs, -, rfl⟩ := exists_values_of_mem_kstar htext
  rcases List.eq_nil_or_concat xs with rfl | ⟨ys, x, rfl⟩
  · exact absurd rfl hne
  · exact ⟨(ys.flatMap fun x => x ++ o.arg) ++ x, by simp⟩

/-- An operator that writes its argument after each value writes what it has captured up to the last
piece. -/
theorem write_bound_after (ho : o.Checked) (hkind : o.kind = .after) (htext : text ∈ o.recorded)
    (hne : text ≠ []) (hget : m.get o.first.1 = o.gives text o.first.1) :
    ∃ written last, o.write m.bound false = (written, none) ∧ text = written ++ last ∧
      (Text.splitBy o.arg text).getLast? = some last := by
  rw [recorded, hkind] at htext
  have harg : o.arg ≠ [] := ho.arg_ne_nil (by rw [hkind]; rfl)
  -- The argument occurs, so some piece stands before the last one.
  obtain ⟨w, hw⟩ := exists_append_arg htext hne
  obtain ⟨qs, last, hqs, hsplit⟩ :=
    Text.exists_splitBy_of_infix harg (hw ▸ (List.suffix_append w o.arg).isInfix)
  have hbound : m.boundOf o.first.1 = qs := by
    rw [gives, if_pos ho.first_mem_names, hkind, hsplit] at hget
    refine Multimap.boundOf_map_some (hget.trans ((if_neg hne).trans ?_))
    rw [List.dropLast_concat]
  have hvalues := Multimap.get?_bound_of_ne_nil (hbound ▸ hqs)
  have hjoin := Text.join_splitBy o.arg harg text
  rw [hsplit, Text.join_append _ _ (List.cons_ne_nil last [])] at hjoin
  refine ⟨_, last, ?_, hjoin.symm, by rw [hsplit, List.getLast?_concat]⟩
  rw [write, hkind, map_writeValue]
  simp only [valuesOf, hvalues, hbound]

/-- The last piece is empty, if the argument has a slash, which no value has, or cannot overlap
itself. -/
theorem getLast?_splitBy (harg : o.arg ≠ []) (htext : text ∈ (slashFree * {o.arg})∗)
    (hne : text ≠ []) (h : '/' ∈ o.arg ∨ Text.overlapsItself o.arg = false) :
    (Text.splitBy o.arg text).getLast? = some [] := by
  rcases h with hslash | hoverlaps
  · obtain ⟨xs, hxs, rfl⟩ := exists_values_of_mem_kstar htext
    have hjoin := Text.join_append o.arg xs (List.cons_ne_nil [] [])
    rw [Text.join, List.append_nil] at hjoin
    rw [← hjoin, Text.splitBy_join hslash (by simp) (List.forall_mem_append.mpr ⟨hxs, by simp⟩),
      List.getLast?_concat]
  · obtain ⟨w, rfl⟩ := exists_append_arg htext hne
    obtain ⟨qs, -, hsplit⟩ := Text.exists_splitBy_append harg hoverlaps w
    rw [hsplit, List.getLast?_concat]

/-- If the argument has no slash and overlaps itself, some text is captured of which the last piece is
not empty. -/
theorem exists_getLast?_splitBy (hslash : '/' ∉ o.arg)
    (hoverlaps : Text.overlapsItself o.arg = true) :
    ∃ u ∈ (slashFree * {o.arg} : Language Char)∗, u ≠ [] ∧
      ∃ r, r ≠ [] ∧ (Text.splitBy o.arg u).getLast? = some r := by
  obtain ⟨u, r, hu, hr, hsplit⟩ := Text.exists_splitBy_of_overlapsItself hoverlaps
  have hfree : u ∈ slashFree := fun hmem => hslash (hu hmem)
  have hone : u ++ o.arg ∈ (slashFree * {o.arg} : Language Char) :=
    Language.append_mem_mul hfree rfl
  refine ⟨u ++ o.arg, ?_, ?_, r, hr, by rw [hsplit]; rfl⟩
  · have hrow := append_mem_kstar hone (Language.nil_mem_kstar _)
    rwa [List.append_nil] at hrow
  -- The empty text would be one piece.
  · intro hnil
    rw [hnil, Text.splitBy_nil] at hsplit
    cases hsplit

/-! ## Operators on one variable -/

/-- An operator on one variable writes what it has captured, up to the last piece if its argument
stands after each value. -/
theorem write_captured (ho : o.Checked) (hunary : o.kind.isUnary = true) (htext : text ∈ o.recorded)
    (hne : text ≠ []) (start : Nat) (b : Bindings) :
    ∃ written last,
      o.write (o.bind (some (text, start)) b).values.bound false = (written, none) ∧
        text = written ++ last ∧ (o.kind ≠ .after → last = []) ∧
        (o.kind = .after → (Text.splitBy o.arg text).getLast? = some last) := by
  have hget := get_bind ho (OperatorKind.cutsAtArgument_of_isUnary hunary) ho.first_mem_names text
    start b
  cases hk : o.kind with
  | negate | option | join =>
      rw [hk] at hunary
      cases hunary
  | before =>
      have hwrite := write_bound_before_of_ne_nil ho hk htext hne hget
      exact ⟨text, [], hwrite, by simp, fun _ => rfl, fun h => by cases h⟩
  | after =>
      obtain ⟨written, last, hwrite, hsplit, hlast⟩ := write_bound_after ho hk htext hne hget
      exact ⟨written, last, hwrite, hsplit, fun h => absurd rfl h, fun _ => hlast⟩
  | list =>
      have hwrite := write_bound_list ho hk hget
      exact ⟨text, [], hwrite, by simp, fun _ => rfl, fun h => by cases h⟩

end Operator

/-- What an operator on one variable binds for a captured text that is not empty, it writes as that
text, less the last piece if the argument stands after each value; the first piece of a text with the
argument before each value is empty.  Nothing is lost, whatever is captured, unless the argument
stands after each value, has no slash and overlaps itself. -/
theorem Template.writes_captured_iff {text : Text} {opts : CompileOptions} {t : Template}
    {o : Operator} (ht : (Template.compileWith text opts).value = .ok t)
    (ho : .operator o ∈ t.elements) (hunary : o.kind.isUnary = true) :
    (∀ u, o.CanCapture u → u ≠ [] → ∀ start b,
      (o.kind = .before → (Text.splitBy o.arg u).head? = some []) ∧
      ∃ written last,
        o.write (o.bind (some (u, start)) b).values.bound false = (written, none) ∧
          u = written ++ last ∧ (o.kind ≠ .after → last = []) ∧
          (o.kind = .after → (Text.splitBy o.arg u).getLast? = some last)) ∧
    ((∀ u, o.CanCapture u → u ≠ [] → ∀ start b,
        o.write (o.bind (some (u, start)) b).values.bound false = (u, none)) ↔
      (o.kind = .after → '/' ∈ o.arg ∨ Text.overlapsItself o.arg = false)) := by
  obtain ⟨-, hchecked⟩ := (wellFormed_of_compileWith ht).1.built _ ho
  have harg : o.arg ≠ [] :=
    hchecked.arg_ne_nil (OperatorKind.cutsAtArgument_of_isUnary hunary)
  have hrecorded : ∀ u, o.CanCapture u ↔ u ∈ o.recorded :=
    fun u => Operator.canCapture_iff hchecked.vars_ne_nil
  constructor
  · intro u hu hne start b
    have hu := (hrecorded u).mp hu
    refine ⟨fun hkind => ?_, Operator.write_captured hchecked hunary hu hne start b⟩
    rw [Operator.recorded, hkind] at hu
    obtain ⟨rest, rfl⟩ := Operator.exists_arg_append hu hne
    rw [Text.splitBy_append harg, List.head?_cons]
  · constructor
    · intro hall hkind
      by_contra hnot
      obtain ⟨hslash, hoverlaps⟩ := not_or.mp hnot
      obtain ⟨u, hu, hne, r, hr, hlast⟩ :=
        Operator.exists_getLast?_splitBy hslash (Bool.not_eq_false _ ▸ hoverlaps)
      have hu : u ∈ o.recorded := by
        rw [Operator.recorded, hkind]
        exact hu
      obtain ⟨written, last, hwrite, hsplit, -, hlast'⟩ :=
        Operator.write_captured hchecked hunary hu hne 0 .empty
      obtain rfl : last = r := Option.some.inj ((hlast' hkind).symm.trans hlast)
      -- The last piece is lost.
      obtain rfl : u = written :=
        (Prod.mk.inj ((hall u ((hrecorded u).mpr hu) hne 0 .empty).symm.trans hwrite)).1
      exact hr (List.self_eq_append_right.mp hsplit)
    · intro hsafe u hu hne start b
      have hu := (hrecorded u).mp hu
      obtain ⟨written, last, hwrite, hsplit, hother, hafter⟩ :=
        Operator.write_captured hchecked hunary hu hne start b
      have hlast : last = [] := by
        by_cases hkind : o.kind = .after
        · rw [Operator.recorded, hkind] at hu
          have hnil := Operator.getLast?_splitBy harg hu hne (hsafe hkind)
          exact Option.some.inj ((hafter hkind).symm.trans hnil)
        · exact hother hkind
      rw [hlast, List.append_nil] at hsplit
      obtain rfl := hsplit
      exact hwrite

theorem Template.writes_captured_iff_fields :
    ∃ t o, (Template.compileWith "\x7b-suffix|;|x\x7d".toList ⟨.extended, true⟩).value = .ok t ∧
      t.elements = [.operator o] ∧
      ∀ u, o.CanCapture u → u ≠ [] → ∀ start b,
        o.write (o.bind (some (u, start)) b).values.bound false = (u, none) := by
  let o : Operator := ⟨.after, [';'], [("x".toList, none)], 2⟩
  have hok : (Template.compileWith "\x7b-suffix|;|x\x7d".toList
      ⟨.extended, true⟩).value.toOption.any (fun t => t.elements == [.operator o]) = true := by
    decide +kernel
  rcases exists_ok_of_any hok with ⟨t, ht, helements⟩
  have helements := eq_of_beq helements
  have ho : .operator o ∈ t.elements := by
    rw [helements]
    exact List.mem_cons_self
  have hsafe : o.kind = .after → '/' ∈ o.arg ∨ Text.overlapsItself o.arg = false :=
    fun _ => .inr (by decide)
  exact ⟨t, o, ht, helements, (writes_captured_iff ht ho rfl).2.mpr hsafe⟩

/-- An argument of two equal letters after each value: of three such letters the first two are cut
off, the third is lost. -/
theorem Template.loses_last_piece :
    ∃ t o, (Template.compileWith "\x7b-suffix|aa|x\x7d".toList ⟨.extended, true⟩).value = .ok t ∧
      t.elements = [.operator o] ∧ o.CanCapture "aaa".toList ∧
      o.write (o.bind (some ("aaa".toList, 0)) .empty).values.bound false = ("aa".toList, none) := by
  let o : Operator := ⟨.after, "aa".toList, [("x".toList, none)], 2⟩
  have hok : (Template.compileWith "\x7b-suffix|aa|x\x7d".toList
      ⟨.extended, true⟩).value.toOption.any (fun t => t.elements == [.operator o]) = true := by
    decide +kernel
  rcases exists_ok_of_any hok with ⟨t, ht, helements⟩
  have hvalue : ['a'] ∈ slashFree := show '/' ∉ ['a'] by decide
  have hone : "aaa".toList ∈ (slashFree * {"aa".toList} : Language Char) :=
    Language.append_mem_mul (a := ['a']) hvalue rfl
  have hrecorded : "aaa".toList ∈ o.recorded := append_mem_kstar hone (Language.nil_mem_kstar _)
  have hcapture : o.CanCapture "aaa".toList := (Operator.canCapture_iff (by decide)).mpr hrecorded
  exact ⟨t, o, ht, eq_of_beq helements, hcapture, by decide⟩

end PathTemplate
