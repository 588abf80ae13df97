import Mathlib.Algebra.Ring.Nat
import Mathlib.Data.Finset.Card
import PathTemplate.Proofs.Percent
import PathTemplate.Proofs.Template.Recording

/-!
# Bookkeeping — what a compiled template knows about its elements

Along with the elements the compiler counts groups, literal characters and constraints, and notes
for each name which elements bind it.  All of this can be read off the elements of the result.

- `Part.names`            : the names that a part declares, as written
- `Template.groups`       : the numbers of the groups that the elements own
- `Builder.Counted`       : the counts of a builder are those of its elements
- `Builder.names_addParts` : names are bound in the order in which the parts declare them
- `Template.accounts_for_elements` : all of it for a template that compiles
-/

namespace PathTemplate

/-- The names that a part declares, as written: an operator may repeat a name. -/
def Part.names : Part → List Text
  | .literal _ => []
  | .variable name _ _ => [name]
  | .operator _ _ vars => vars.map (·.1)

namespace Template

def groups (t : Template) : List Nat := t.elements.filterMap Element.group?

theorem Numbered.groups_eq {k l : Nat} {es : List Element} (h : Numbered k es l) :
    es.filterMap Element.group? = List.range' k (es.filterMap Element.group?).length ∧
      l = k + (es.filterMap Element.group?).length := by
  induction h with
  | nil k => exact ⟨rfl, rfl⟩
  | literal t h ih => exact ih
  | owner hk h ih =>
      rw [List.filterMap_cons_some hk, List.length_cons, List.range'_succ]
      obtain ⟨hgroups, hlast⟩ := ih
      exact ⟨congrArg _ hgroups, by omega⟩

namespace Builder

variable {d : Dialect} {b b' : Builder} {p : Part} {ps : List Part} {s text : Text}

/-! ## Counts -/

structure Counted (b : Builder) : Prop where
  literalChars : b.literalChars = (b.elements.map Element.literalLength).sum
  constrained : b.constrained = b.elements.countP Element.isConstrained
  literals : ∀ s, .literal s ∈ b.elements → s ≠ [] ∧ s.all Reader.isLiteralChar = true

theorem counted_empty : Counted {} where
  literalChars := rfl
  constrained := rfl
  literals := fun s hs => by cases hs

/-- The element of a literal text is not empty, be the text encoded or as written. -/
theorem ne_nil_of_literalElements (h : literalElements d text = [.literal s]) : s ≠ [] := by
  have hmem : .literal s ∈ literalElements d text := h ▸ List.mem_singleton_self _
  obtain ⟨hne, hs⟩ := mem_literalElements_iff.mp hmem
  cases hs
  cases d with
  | simple => exact Percent.encodeLiteral_ne_nil hne
  | extended => exact hne

theorem Counted.addLiteral (hb : b.Counted) (h : b.addLiteral d text = .ok b') : b'.Counted := by
  rcases addLiteral_cases h with ⟨-, rfl⟩ | ⟨s, hone, hall, rfl⟩
  · exact hb
  · refine ⟨?_, ?_, ?_⟩
    · simp [hb.literalChars, Element.literalLength]
    · simp [hb.constrained, Element.isConstrained]
    · intro u hu
      rcases List.mem_append.mp hu with hu | hu
      · exact hb.literals u hu
      · cases List.mem_singleton.mp hu
        exact ⟨ne_nil_of_literalElements hone, hall⟩

theorem Counted.addElement (hb : b.Counted) {e : Element} (he : e.group?.isSome = true) :
    (b.addElement e).Counted := by
  -- An element with a group is no literal.
  have hlength : e.literalLength = 0 := by
    cases e with
    | literal s => cases he
    | «variable» v | operator o => rfl
  refine ⟨?_, ?_, ?_⟩
  · simp [Builder.addElement, hb.literalChars, hlength]
  · simp [Builder.addElement, hb.constrained, List.countP_singleton]
  · intro u hu
    rcases List.mem_append.mp hu with hu | hu
    · exact hb.literals u hu
    · cases List.mem_singleton.mp hu
      cases he

/-- Adding a part keeps the counts right. -/
theorem Counted.addPart (hb : b.Counted) (h : b.addPart d p = .ok b') : b'.Counted := by
  cases p with
  | literal text => exact hb.addLiteral h
  | «variable» name constraint default =>
      cases h
      exact hb.addElement rfl
  | operator name arg vars =>
      obtain ⟨o, -, h⟩ := bind_eq_ok.mp h
      cases h
      exact hb.addElement rfl

/-- Adding parts keeps the counts right. -/
theorem Counted.addParts (hb : b.Counted) (h : ps.foldlM (Builder.addPart d) b = .ok b') :
    b'.Counted :=
  addParts_induction (motive := fun _ c => c.Counted) h hb fun _ _ _ _ _ hc => hc.addPart

theorem counted_ofParsed? {parsed : Parsed} (h : ofParsed? d parsed = .ok b) : b.Counted := by
  obtain ⟨b₁, hparts, h⟩ := bind_eq_ok.mp h
  exact (counted_empty.addParts hparts).addLiteral h

/-! ## Names in the order of their declaration -/

def boundNames (b : Builder) : List Text := b.elements.flatMap Element.names

theorem boundNames_addLiteral (h : b.addLiteral d text = .ok b') :
    b'.boundNames = b.boundNames := by
  rcases addLiteral_cases h with ⟨-, rfl⟩ | ⟨s, -, -, rfl⟩
  · rfl
  · rw [boundNames, List.flatMap_append]
    exact List.append_nil _

/-- An element binds the names that its part declares, each once. -/
theorem boundNames_addPart (h : b.addPart d p = .ok b') :
    b'.boundNames = b.boundNames ++ p.names.eraseDups := by
  cases p with
  | literal text => exact (boundNames_addLiteral h).trans (List.append_nil _).symm
  | «variable» name constraint default =>
      cases h
      exact List.flatMap_append
  | operator name arg vars =>
      obtain ⟨o, ho, h⟩ := bind_eq_ok.mp h
      cases h
      obtain ⟨kind, -, -, -, rfl⟩ := Operator.make?_eq_ok_iff.mp ho
      calc (b.elements ++ [Element.operator ⟨kind, arg, Operator.mergeVars vars, _⟩]).flatMap
            Element.names
          = b.boundNames ++ (Operator.mergeVars vars).map (·.1) := by
            simp [boundNames, Element.names, Operator.names]
        _ = b.boundNames ++ (vars.map (·.1)).eraseDups := by rw [Operator.names_mergeVars]

/-- Names are bound first in the order in which the parts declare them first. -/
theorem names_addParts (h : ps.foldlM (Builder.addPart d) b = .ok b') :
    b'.boundNames.eraseDups = (b.boundNames ++ ps.flatMap Part.names).eraseDups := by
  refine addParts_induction (motive := fun qs c =>
    c.boundNames.eraseDups = (b.boundNames ++ qs.flatMap Part.names).eraseDups) h ?_ ?_
  · rw [List.flatMap_nil, List.append_nil]
  · intro qs p c c' _ hc hp
    -- Names that the part repeats do not matter, and what is bound before counts by its names only.
    calc c'.boundNames.eraseDups
        = (c.boundNames ++ p.names.eraseDups).eraseDups := by rw [boundNames_addPart hp]
      _ = (c.boundNames ++ p.names).eraseDups := eraseDups_append_eraseDups _ _
      _ = p.names.foldl insertLast c.boundNames.eraseDups := (foldl_insertLast _ _).symm
      _ = p.names.foldl insertLast (b.boundNames ++ qs.flatMap Part.names).eraseDups := by
          rw [hc]
      _ = (b.boundNames ++ qs.flatMap Part.names ++ p.names).eraseDups := foldl_insertLast _ _
      _ = (b.boundNames ++ (qs ++ [p]).flatMap Part.names).eraseDups := by simp

theorem names_ofParsed? {parsed : Parsed} (h : ofParsed? d parsed = .ok b) :
    b.boundNames.eraseDups = (parsed.parts.flatMap Part.names).eraseDups := by
  obtain ⟨b₁, hparts, h⟩ := bind_eq_ok.mp h
  rw [boundNames_addLiteral h, names_addParts hparts]
  rfl

end Builder

/-! ## Compiled templates -/

theorem map_fst_bindingPairs (es : List Element) :
    (bindingPairs es).map (·.1) = es.flatMap Element.names := by
  induction es using List.reverseRecOn with
  | nil => rfl
  | append_singleton es e ih =>
      rw [bindingPairs_append_singleton, List.map_append, ih, List.flatMap_append, List.map_map]
      simp [Function.comp_def]

variable {t : Template}

/-- The names of a template are those that its elements bind, by their first occurrence. -/
theorem WellFormed.names_eq (hwell : t.WellFormed) :
    t.names = (t.elements.flatMap Element.names).eraseDups := by
  rw [names, hwell.binders, Multimap.keys_ofPairs, map_fst_bindingPairs]

theorem WellFormed.variableCount_eq (hwell : t.WellFormed) :
    t.variableCount = (t.elements.flatMap Element.names).toFinset.card := by
  have hset : (t.elements.flatMap Element.names).toFinset = t.names.toFinset := by
    ext name
    rw [List.mem_toFinset, List.mem_toFinset, hwell.names_eq, List.mem_eraseDups]
  have hnodup : t.names.Nodup := keys_nodup hwell
  rw [hset, List.toFinset_card_of_nodup hnodup]
  exact (List.length_map _).symm

/-- An entry has the indices of the elements that bind its name, going up. -/
theorem WellFormed.indices_of_entry (hwell : t.WellFormed) {name : Text} {indices : List Nat}
    (h : (name, indices) ∈ t.binders.entries) :
    indices.Pairwise (· < ·) ∧
      ∀ i, i ∈ indices ↔ ∃ e, t.elements[i]? = some e ∧ name ∈ e.names := by
  have hget : t.binders.get name = indices := Multimap.get_of_mem (keys_nodup hwell) h
  rw [← hget]
  exact ⟨pairwise_get_binders hwell name, fun i => mem_get_binders hwell⟩

/-- A template that compiles accounts for its elements.  Their groups have the numbers from 2 on,
in template order, and the tail has the next one.  Its names are those that its elements bind, in
the order in which the text declares them first, and each is noted with the indices of the elements
that bind it, going up.  It counts the characters of its literals, its different names and its
variables with a constraint; and no literal is empty or has a brace. -/
theorem accounts_for_elements {text : Text} {o : CompileOptions}
    (h : (compileWith text o).value = .ok t) :
    (t.groups = List.range' 2 t.groups.length ∧ t.tailGroup = 2 + t.groups.length) ∧
    (t.names = (t.elements.flatMap Element.names).eraseDups ∧
      ∃ parsed, Parsed.ofText? o.dialect (o.prepare text) = .ok parsed ∧
        t.names = (parsed.parts.flatMap Part.names).eraseDups) ∧
    (∀ name indices, (name, indices) ∈ t.binders.entries →
      indices.Pairwise (· < ·) ∧
        ∀ i, i ∈ indices ↔ ∃ e, t.elements[i]? = some e ∧ name ∈ e.names) ∧
    t.literalChars = (t.elements.map Element.literalLength).sum ∧
    t.variableCount = (t.elements.flatMap Element.names).toFinset.card ∧
    t.constrained = t.elements.countP Element.isConstrained ∧
    ∀ s, .literal s ∈ t.elements → s ≠ [] ∧ '{' ∉ s ∧ '}' ∉ s := by
  obtain ⟨hwell, -⟩ := wellFormed_of_compileWith h
  rw [value_compileWith] at h
  obtain ⟨parsed, b, hparsed, hb, h⟩ := make?_eq_ok h
  obtain ⟨p, -, -, rfl⟩ := ofBuilder?_eq_ok h
  have hcounted := Builder.counted_ofParsed? hb
  refine ⟨hwell.numbered.groups_eq, ⟨hwell.names_eq, parsed, hparsed, ?_⟩,
    fun name indices => hwell.indices_of_entry, hcounted.literalChars, hwell.variableCount_eq,
    hcounted.constrained, ?_⟩
  · exact hwell.names_eq.trans (Builder.names_ofParsed? hb)
  · intro s hs
    obtain ⟨hne, hall⟩ := hcounted.literals s hs
    have hchar : ∀ c ∈ s, Reader.isLiteralChar c = true := List.all_eq_true.mp hall
    refine ⟨hne, ?_, ?_⟩
    · intro hopen
      cases hchar _ hopen
    · intro hclose
      cases hchar _ hclose

/-- A name three times, twice of them in one operator, and a slash at the end. -/
theorem accounts_for_elements_join :
    ∃ t, (compileWith "u{b}-{-join|&|a,b,a}/".toList { dialect := .extended }).value = .ok t ∧
      t.groups = List.range' 2 t.groups.length ∧ t.groups.length = 2 ∧
      t.names = ["b".toList, "a".toList] ∧ t.binders.entries =
        [("b".toList, [1, 3]), ("a".toList, [3])] ∧ t.literalChars = 2 := by
  have hok : (compileWith "u{b}-{-join|&|a,b,a}/".toList { dialect := .extended
      }).value.toOption.any (fun t => t.groups.length == 2 &&
        t.binders.entries == [("b".toList, [1, 3]), ("a".toList, [3])] &&
          (t.elements.map Element.literalLength).sum == 2) = true := by
    decide +kernel
  obtain ⟨t, ht, htest⟩ := exists_ok_of_any hok
  simp only [Bool.and_eq_true, beq_iff_eq] at htest
  obtain ⟨⟨hlength, hentries⟩, hsum⟩ := htest
  obtain ⟨⟨hgroups, -⟩, -, -, hchars, -⟩ := accounts_for_elements ht
  refine ⟨t, ht, hgroups, hlength, ?_, hentries, hchars.trans hsum⟩
  rw [names, Multimap.keys, hentries]
  rfl

end Template
end PathTemplate
