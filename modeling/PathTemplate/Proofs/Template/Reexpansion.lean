import PathTemplate.Proofs.Template.Expansion
import PathTemplate.Proofs.Template.Starts

/-!
# Reexpansion — what a match binds expands to what it matched

- `Element.IsReversible`   : elements that give back the text they have captured
- `Multimap.bound`         : the bound values of each name that has any
- `Template.get_bindings_of_nodup` : the values of a name are what the one element of the name gives
- `Element.write_bound`    : an element writes the text that it has captured
- `Matcher.expand_bound`   : the values of a match expand to the text of the head group
-/

namespace PathTemplate

open scoped Computability

/-- A literal without escapes, a variable without a constraint, an operator that writes its argument
before each value and has no default, or one that writes it between values. -/
def Element.IsReversible : Element → Prop
  | .literal t => '%' ∉ t
  | .variable v => v.constraint = none
  | .operator o => (o.kind = .before ∧ ∀ v ∈ o.vars, v.2 = none) ∨ o.kind = .list

theorem Element.IsReversible.isPlain {d : Dialect} {e : Element} (he : e.IsReversible)
    (hbuilt : e.IsBuilt d) : e.IsPlain := by
  cases e with
  | literal t => trivial
  | «variable» v => exact he
  | operator o => exact hbuilt.2.vars_ne_nil

/-! ## Bound values -/

namespace Multimap

variable {m : Multimap (Option Text)} {name : Text}

def boundOf (m : Multimap (Option Text)) (name : Text) : List Text := (m.get name).filterMap id

/-- The bound values of each name that has any. -/
def bound (m : Multimap (Option Text)) : Multimap Text :=
  ⟨(m.keys.map fun name => (name, m.boundOf name)).filter fun e => !e.2.isEmpty⟩

theorem mem_bound_iff {e : Text × List Text} :
    e ∈ m.bound.entries ↔ e.1 ∈ m.keys ∧ e.2 = m.boundOf e.1 ∧ e.2 ≠ [] := by
  rw [bound, List.mem_filter, List.mem_map]
  constructor
  · rintro ⟨⟨name, hname, rfl⟩, hbound⟩
    exact ⟨hname, rfl, by simpa using hbound⟩
  · rintro ⟨hname, hbound, hne⟩
    exact ⟨⟨e.1, hname, by rw [← hbound]⟩, by simpa using hne⟩

theorem get?_bound_of_eq_nil (h : m.boundOf name = []) : m.bound.get? name = none := by
  have hnone : m.bound.entries.find? (fun e => e.1 == name) = none := by
    apply List.find?_eq_none.mpr
    intro e he hname
    rcases mem_bound_iff.mp he with ⟨_, hbound, hne⟩
    rw [eq_of_beq hname, h] at hbound
    exact hne hbound
  rw [get?, hnone]
  rfl

theorem get?_bound_of_ne_nil (h : m.boundOf name ≠ []) :
    m.bound.get? name = some (m.boundOf name) := by
  have hget : m.get name ≠ [] := by
    intro hnil
    exact h (by rw [boundOf, hnil]; rfl)
  have hentry : (name, m.boundOf name) ∈ m.bound.entries :=
    mem_bound_iff.mpr ⟨List.mem_map_of_mem (mem_entries_of_get_ne_nil hget), rfl, h⟩
  rw [get?]
  cases hfind : m.bound.entries.find? (fun e => e.1 == name) with
  | none => exact absurd (beq_self_eq_true name) (List.find?_eq_none.mp hfind _ hentry)
  | some e =>
      have hname : e.1 = name := eq_of_beq (List.find?_some hfind :)
      rcases mem_bound_iff.mp (List.mem_of_find?_eq_some hfind) with ⟨_, hbound, _⟩
      rw [Option.map_some, hbound, hname]

/-- Values that are all bound. -/
theorem boundOf_map_some {xs : List Text} (h : m.get name = xs.map some) : m.boundOf name = xs := by
  rw [boundOf, h, List.filterMap_map]
  exact List.filterMap_some

end Multimap

/-! ## Names of one element each -/

namespace Template

variable {t : Template} {trace : Trace} {path name : Text}

/-- The values of a name are what the element of the name gives. -/
theorem get_bindings_of_nodup (hwell : t.WellFormed)
    (hnames : (t.elements.flatMap Element.names).Nodup) {e : Element} (he : e ∈ t.elements)
    (hname : name ∈ e.names) :
    (t.bindings trace path).values.get name = e.gives (e.captureIn trace path) name := by
  rcases List.append_of_mem he with ⟨before, after, hsplit⟩
  rw [hsplit, List.flatMap_append, List.flatMap_cons] at hnames
  -- The name stands neither before the element nor after it.
  refine get_bindings_of_only hwell hsplit ?_ ?_
  · intro e' he' hname'
    exact List.disjoint_of_nodup_append hnames (List.mem_flatMap.mpr ⟨e', he', hname'⟩)
      (List.mem_append_left _ hname)
  · intro e' he' hname'
    exact List.disjoint_of_nodup_append hnames.of_append_right hname
      (List.mem_flatMap.mpr ⟨e', he', hname'⟩)

end Template

/-! ## Writing what was captured -/

theorem map_writeValue (xs : List Text) : xs.map (writeValue false) = xs := List.map_id xs

namespace Operator

variable {o : Operator} {m : Multimap (Option Text)} {text : Text}

/-- Values with the argument before each of them begin with the argument. -/
theorem exists_arg_append (htext : text ∈ ({o.arg} * slashFree)∗) (hne : text ≠ []) :
    ∃ rest, text = o.arg ++ rest := by
  rcases Language.mem_kstar.mp htext with ⟨us, rfl, hus⟩
  cases us with
  | nil => exact absurd rfl hne
  | cons u us =>
      rcases Language.mem_mul.mp (hus u List.mem_cons_self) with ⟨_, rfl, x, _, rfl⟩
      exact ⟨x ++ us.flatten, by simp⟩

/-- Values with the argument before each of them are found where the text is cut. -/
theorem flatMap_tail_splitBy (harg : o.arg ≠ []) (htext : text ∈ ({o.arg} * slashFree)∗)
    (hne : text ≠ []) :
    (Text.splitBy o.arg text).tail ≠ [] ∧
      ((Text.splitBy o.arg text).tail.flatMap fun x => o.arg ++ x) = text := by
  -- The text begins with the argument, so the first piece is empty.
  rcases exists_arg_append htext hne with ⟨rest, rfl⟩
  have hjoin := Text.join_splitBy o.arg harg (o.arg ++ rest)
  rw [Text.splitBy_append harg, Text.join_cons, List.nil_append] at hjoin
  rw [Text.splitBy_append harg]
  exact ⟨Text.splitBySkipping_ne_nil _ _ _, hjoin⟩

/-- An operator that writes its argument before each value writes what it has captured, if that is
not empty. -/
theorem write_bound_before_of_ne_nil (ho : o.Checked) (hkind : o.kind = .before)
    (htext : text ∈ o.recorded) (hne : text ≠ [])
    (hget : m.get o.first.1 = o.gives text o.first.1) :
    o.write m.bound false = (text, none) := by
  rw [recorded, hkind] at htext
  have hcut := flatMap_tail_splitBy (ho.arg_ne_nil (by rw [hkind]; rfl)) htext hne
  have hbound : m.boundOf o.first.1 = (Text.splitBy o.arg text).tail := by
    rw [gives, if_pos ho.first_mem_names, hkind] at hget
    exact Multimap.boundOf_map_some (hget.trans (if_neg hne))
  have hvalues := Multimap.get?_bound_of_ne_nil (hbound ▸ hcut.1)
  rw [write, hkind, map_writeValue]
  simp [valuesOf, hvalues, hbound, hcut.2]

/-- An operator that writes its argument before each value writes what it has captured, if its
variable has no default. -/
theorem write_bound_before (ho : o.Checked) (hkind : o.kind = .before)
    (hdefault : ∀ v ∈ o.vars, v.2 = none) (htext : text ∈ o.recorded)
    (hget : m.get o.first.1 = o.gives text o.first.1) :
    o.write m.bound false = (text, none) := by
  by_cases hne : text = []
  -- Without a text no value is bound, and nothing is written.
  · have hbound : m.boundOf o.first.1 = [] := by
      rw [Multimap.boundOf, hget, gives, if_pos ho.first_mem_names, hkind]
      simp [hne]
    have hfirst : o.first.2 = none := hdefault o.first ho.first_mem
    rw [write, hkind, map_writeValue]
    simp [valuesOf, Multimap.get?_bound_of_eq_nil hbound, hfirst, hne]
  · exact write_bound_before_of_ne_nil ho hkind htext hne hget

/-- An operator that writes its argument between values writes what it has captured. -/
theorem write_bound_list (ho : o.Checked) (hkind : o.kind = .list)
    (hget : m.get o.first.1 = o.gives text o.first.1) :
    o.write m.bound false = (text, none) := by
  have harg : o.arg ≠ [] := ho.arg_ne_nil (by rw [hkind]; rfl)
  have hpieces : Text.splitBy o.arg text ≠ [] := Text.splitBySkipping_ne_nil _ _ _
  rw [gives, if_pos ho.first_mem_names, hkind] at hget
  rw [write, hkind, map_writeValue]
  have hbound : m.boundOf o.first.1 = Text.splitBy o.arg text := Multimap.boundOf_map_some hget
  have hvalues := Multimap.get?_bound_of_ne_nil (hbound ▸ hpieces)
  simp [valuesOf, hvalues, hbound, Text.join_splitBy o.arg harg]

end Operator

/-- An element writes the text that it has captured. -/
theorem Element.write_bound {e : Element} {d : Dialect} {m : Multimap (Option Text)}
    {trace : Trace} {path : Text} (he : e.IsReversible) (hbuilt : e.IsBuilt d)
    (hrecords : ∀ k, e.group? = some k → e.Records ((trace.capture path k).map (·.1)))
    (hget : ∀ name ∈ e.names, m.get name = e.gives (e.captureIn trace path) name) :
    e.write m.bound false = (Template.pieceOf trace path e, none) := by
  cases e with
  | literal t =>
      rw [write, Percent.decode_eq_self he]
      rfl
  | «variable» v =>
      rcases hrecords v.group rfl with ⟨u, _, hu⟩
      have hvalue := hget v.name List.mem_cons_self
      rw [gives, if_pos rfl, captureIn, group?, Option.bind_some, hu] at hvalue
      have hbound : m.boundOf v.name = [u] := by
        rw [Multimap.boundOf, hvalue]
        rfl
      have hvalues := Multimap.get?_bound_of_ne_nil (hbound ▸ List.cons_ne_nil u [])
      have hpiece : Template.pieceOf trace path (.variable v) = u := by
        rw [Template.pieceOf, group?, Option.bind_some, hu, Option.getD_some]
        exact fun t h => by cases h
      rw [hpiece]
      simp [write, Variable.write, Multimap.getFirst?, Multimap.get, hvalues, hbound, writeValue]
  | operator o =>
      have hvalue := hget o.first.1 hbuilt.2.first_mem_names
      have hpiece : Template.pieceOf trace path (.operator o) =
          ((trace.capture path o.group).map (·.1)).getD [] := rfl
      have hkind : o.kind.mayBeAbsent = false := by
        rcases he with ⟨hkind, _⟩ | hkind
        · rw [hkind]
          rfl
        · rw [hkind]
          rfl
      -- The group takes part, and what it holds is what the operator writes.
      rcases hrecords o.group rfl with ⟨habsent, _⟩ | ⟨u, hu, hcapture⟩
      · rw [hkind] at habsent
        cases habsent
      · rw [gives, captureIn, group?, Option.bind_some, hcapture] at hvalue
        rw [hpiece, hcapture, Option.getD_some, write]
        rcases he with ⟨hbefore, hdefault⟩ | hlist
        · exact Operator.write_bound_before hbuilt.2 hbefore hdefault hu hvalue
        · exact Operator.write_bound_list hbuilt.2 hlist hvalue

/-! ## Matchers -/

namespace Matcher

/-- What is matched can be expanded again: where literals have no escapes, variables no constraint,
and operators stand before values without a default or between values, all with different names, the
bound values of a match expand to the text that the head group has captured. -/
theorem expand_bound {text path : Text} {o : CompileOptions} {m' : Matcher} (m : Matcher)
    (ht : (Template.compileWith text o).value = .ok m.template)
    (hes : ∀ e ∈ m.template.elements, e.IsReversible)
    (hnames : (m.template.elements.flatMap Element.names).Nodup)
    (hrun : (m.run path).value = (true, m')) :
    ∃ values head, m'.allValues false = .ok values ∧
      m'.groupText Template.headGroup = .ok head ∧
      m.template.expand values.bound false = .ok head := by
  rcases Template.wellFormed_of_compileWith ht with ⟨hwell, _⟩
  rcases matched_of_run hrun with ⟨trace, htrace, rfl⟩
  have hplain : ∀ e ∈ m.template.elements, e.IsPlain :=
    fun e he => (hes e he).isPlain (hwell.built e he)
  rcases hwell.splits_of_search hplain htrace with ⟨tail, _, hhead, _⟩
  -- Both the head group and the expansion are the texts under the elements in a row.
  have hgroup : groupText ⟨m.template, path, some trace⟩ Template.headGroup =
      .ok (m.template.elements.map (Template.pieceOf trace path)).flatten := by
    simp [groupText, matched, hhead, bind, Except.bind]
  have hwrite : ∀ e ∈ m.template.elements,
      e.write (m.template.bindings trace path).values.bound false =
        (Template.pieceOf trace path e, none) := by
    intro e he
    apply Element.write_bound (hes e he) (hwell.built e he)
    · intro k hk
      exact hwell.records_capture hplain htrace he hk
    · intro name hname
      exact Template.get_bindings_of_nodup hwell hnames he hname
  have hexpand : m.template.expand (m.template.bindings trace path).values.bound false =
      .ok (m.template.elements.map (Template.pieceOf trace path)).flatten := by
    apply Template.expand_eq_ok_iff.mpr
    apply Element.writeAll_eq_ok_iff.mpr
    exact ⟨_, List.forall₂_map_right_iff.mpr (List.forall₂_same.mpr hwrite), rfl⟩
  exact ⟨_, _, rfl, hgroup, hexpand⟩

theorem expand_bound_tags :
    ∃ t m' values, (Template.compileWith
        "v/\x7bid\x7d\x7b-prefix|/|tag\x7d;\x7b-list|,|x\x7d".toList
        ⟨.extended, true⟩).value = .ok t ∧
      (t.matcher.run "v/7/a//b;1,,2/rest".toList).value = (true, m') ∧
      m'.allValues false = .ok values ∧
      t.expand values.bound false = .ok "v/7/a//b;1,,2".toList := by
  let text := "v/\x7bid\x7d\x7b-prefix|/|tag\x7d;\x7b-list|,|x\x7d".toList
  let path := "v/7/a//b;1,,2/rest".toList
  let id : Variable := ⟨"id".toList, none, none, 2⟩
  let tags : Operator := ⟨.before, ['/'], [("tag".toList, none)], 3⟩
  let xs : Operator := ⟨.list, [','], [("x".toList, none)], 4⟩
  have hok : (Template.compileWith text ⟨.extended, true⟩).value.toOption.any (fun t =>
      (t.matcher.run path).value.1 &&
        (t.matcher.run path).value.2.groupText Template.headGroup == .ok "v/7/a//b;1,,2".toList &&
        t.elements == [.literal "v/".toList, .variable id, .operator tags, .literal [';'],
          .operator xs]) = true := by
    decide +kernel
  rcases exists_ok_of_any hok with ⟨t, ht, htest⟩
  simp only [Bool.and_eq_true] at htest
  rcases htest with ⟨⟨hmatched, hhead⟩, helements⟩
  have helements := eq_of_beq helements
  have hes : ∀ e ∈ t.elements, e.IsReversible := by
    rw [helements]
    simp [Element.IsReversible, id, tags, xs]
  have hnames : (t.elements.flatMap Element.names).Nodup := by
    rw [helements]
    decide
  have hrun : (t.matcher.run path).value = (true, (t.matcher.run path).value.2) :=
    Prod.ext hmatched rfl
  rcases expand_bound t.matcher ht hes hnames hrun with ⟨values, head, hvalues, hgroup, hexpand⟩
  cases hgroup.symm.trans (eq_of_beq hhead)
  exact ⟨t, _, values, ht, hrun, hvalues, hexpand⟩

end Matcher
end PathTemplate
