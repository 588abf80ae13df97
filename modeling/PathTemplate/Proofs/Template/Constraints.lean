import PathTemplate.Proofs.Regex.Enclosure
import PathTemplate.Proofs.Template.Decomposition

/-!
# Constraints — constraints that do not change what is around them

The text of a constraint becomes a part of the text of the pattern, and the pattern is read as a
whole.  A constraint that is a regular expression by itself and between parentheses denotes a group
there, and the literals around it are what they are.

- `Constraint.StandsAlone`    : such a constraint
- `Template.leads_fragments`  : what the fragments of elements with such constraints add
- `WellFormed.captures_of_search` : what a search finds with such constraints
- `Matcher.run_of_standsAlone` : every variable takes part in a match, and the path is accounted for
-/

namespace PathTemplate

open RegexReader (Leads Encloses Denotes)

/-- The constraint is a regular expression as it is written.  With its groups unrecorded it is one
by itself and between parentheses. -/
structure Constraint.StandsAlone (written : Text) : Prop where
  valid : (Pattern.ofText? written).isSome = true
  encloses : Encloses (neutralize written)

namespace Element

variable {e : Element} {k : Nat}

/-- Something is recorded of the element, and it is the text of a literal. -/
def Captures (e : Element) (piece : Option Text) : Prop :=
  ∃ u, piece = some u ∧ ∀ t, e = .literal t → u = t

/-- A literal, or a variable whose expression denotes a group between its parentheses. -/
def IsEnclosed : Element → Prop
  | .literal _ => True
  | .variable v => Encloses v.valuePattern
  | .operator _ => False

theorem spans_literal (t : Text) : Template.Spans Captures (.literal t) (Pattern.ofChars t) := by
  intro c s d h
  rcases (matches_expressions_iff (e := .literal t) trivial).mp h with ⟨_, rfl, hs, hpass⟩
  refine ⟨some t, ⟨t, rfl, ?_⟩, hs, hpass⟩
  rintro _ ⟨⟩
  rfl

/-- Whatever a group without groups in it matches, it records. -/
theorem spans_group {p : Pattern} (he : e.group? = some k) (hp : p.GroupFree) :
    Template.Spans Captures e [.group k p] := by
  intro c s d h
  rcases Regex.matches_group_iff.mp h with ⟨t, hbody, rfl⟩
  have ht := hbody.trace_eq_nil hp.regex
  subst ht
  rcases hbody.passes with ⟨u, hpass⟩
  refine ⟨some u, ⟨u, rfl, ?_⟩, ?_, hpass⟩
  · rintro t rfl
    cases he
  · rw [hpass.index_eq]
    simp [boundaries, he]

end Element

namespace Template

variable {es : List Element} {a b k : Nat}

theorem head?_fragments_ne (es : List Element) :
    (es.flatMap Element.fragment).head? ≠ some '?' := by
  induction es with
  | nil =>
      intro h
      cases h
  | cons e es ih => exact RegexReader.head?_append_ne (RegexReader.head?_fragment_ne e) ih

/-- What the fragments of elements add to the pattern, from number `k` on.  If the numbers end where
the groups of the elements do, then each element has its own group and no more. -/
theorem leads_fragments (hes : ∀ e ∈ es, e.IsEnclosed) (h : Numbered a es b) (hk : a ≤ k) :
    ∃ pss l, Leads k (es.flatMap Element.fragment) pss.flatten l ∧ b + k ≤ l + a ∧
      (l = b → List.Forall₂ (Spans Element.Captures) es pss) := by
  induction h generalizing k with
  | nil a => exact ⟨[], k, .nil k, Nat.le_of_eq (Nat.add_comm a k), fun _ => .nil⟩
  | @literal a b es t h ih =>
      rcases ih (fun e he => hes e (List.mem_cons_of_mem _ he)) hk with
        ⟨pss, l, hleads, hle, hspans⟩
      refine ⟨Pattern.ofChars t :: pss, l, ?_, hle, fun hl => ?_⟩
      · exact (Denotes.escape t).leads.append hleads (head?_fragments_ne es)
      · exact .cons (Element.spans_literal t) (hspans hl)
  | @owner a b e es he h ih =>
      have hclosed := hes e List.mem_cons_self
      cases e with
      | literal t => cases he
      | operator o => exact hclosed.elim
      | «variable» v =>
          rcases hclosed.leads with ⟨n, hgroup⟩
          rcases hgroup k with ⟨p, hfree, hgroup⟩
          -- A constraint with groups pushes all later numbers on, and they do not end at `b` then.
          have hstart : a + 1 ≤ k + 1 + n := by omega
          rcases ih (fun e he => hes e (List.mem_cons_of_mem _ he)) hstart with
            ⟨pss, l, hleads, hle, hspans⟩
          refine ⟨[.group k p] :: pss, l, hgroup.append hleads (head?_fragments_ne es), ?_, ?_⟩
          · omega
          · intro hl
            obtain ⟨rfl, rfl⟩ : k = a ∧ n = 0 := by omega
            exact .cons (Element.spans_group he (hfree rfl)) (hspans hl)

/-- If the pattern of elements with such constraints has no group more than it should, then it is
made of one group for each variable, and the characters of the literals. -/
theorem ofText?_framed {tailGroup : Nat} {p : Pattern} (hes : ∀ e ∈ es, e.IsEnclosed)
    (hn : Numbered 2 es tailGroup) (hp : Pattern.ofText? (patternText es) = some p)
    (hbound : p.groupBound = tailGroup + 1) :
    ∃ pss, p = framed pss.flatten es tailGroup ∧ List.Forall₂ (Spans Element.Captures) es pss := by
  rcases leads_fragments hes hn (Nat.le_refl 2) with ⟨pss, l, hleads, hle, hspans⟩
  have hhead := hleads.group (head?_fragments_ne es)
  have htail := (RegexReader.denotes_tail (k := l) es).leads
  have hstart := (Denotes.textStart (k := 1)).leads
  have hend := (Denotes.textEnd (k := l + 1)).leads
  have hopens : (tailFragment es).head? ≠ some '?' := by
    rw [tailFragment]
    split <;> simp
  have hall := hstart.append ((hhead.append htail hopens).append hend (by simp)) (by simp [inGroup])
  have hframed : p = framed pss.flatten es l := hall.ofText?_eq hp
  -- The tail has the last number, and the number of groups is as expected.
  have hl : l = tailGroup := by
    have hlast : l + 1 ≤ p.groupBound := by
      simp only [hframed, framed, Pattern.seqs, Pattern.groupBound]
      omega
    omega
  subst hl
  exact ⟨pss, hframed, hspans rfl⟩

namespace WellFormed

variable {t : Template} {path : Text} {trace : Trace}

/-- What a search finds, in a template whose constraints stay between their parentheses. -/
theorem captures_of_search (ht : t.WellFormed) (hes : ∀ e ∈ t.elements, e.IsEnclosed)
    (h : t.regex.search path = some trace) :
    ∃ us tail, List.Forall₂ Element.Captures t.elements us ∧
      path = Element.textOf us ++ tail ∧ trace = matchTrace t.elements us tail t.tailGroup := by
  rcases ht.regex with ⟨p, hp, hbound, hregex⟩
  rcases ofText?_framed hes ht.numbered hp hbound with ⟨pss, rfl, hspans⟩
  rw [hregex] at h
  rcases pieces_of_search hspans h with ⟨us, tail, hus, _, hpath, htrace⟩
  exact ⟨us, tail, hus, hpath, htrace⟩

end WellFormed

/-- If something is recorded of every element, every group takes part in the match. -/
theorem isSome_capture {us : List (Option Text)} {tail : Text} {tailGroup : Nat}
    (hn : Numbered 2 es tailGroup) (hus : List.Forall₂ Element.Captures es us) {e : Element}
    (he : e ∈ es) (hk : e.group? = some k) :
    ((matchTrace es us tail tailGroup).capture (Element.textOf us ++ tail) k).isSome = true := by
  obtain ⟨x, hx, _⟩ : Element.Captures e
      (((matchTrace es us tail tailGroup).capture (Element.textOf us ++ tail) k).map (·.1)) :=
    forall₂_capture hn hus he hk
  exact Option.isSome_map.symm.trans (congrArg Option.isSome hx)

end Template

/-! ## Constraints as written -/

def Part.constraint? : Part → Option Text
  | .variable _ constraint _ => constraint
  | _ => none

def Parsed.constraints (p : Parsed) : List Text := p.parts.filterMap Part.constraint?

def Element.constraint? : Element → Option Text
  | .variable v => v.constraint
  | _ => none

namespace Template

namespace Builder

variable {d : Dialect} {b b' : Builder}

def constraints (b : Builder) : List Text := b.elements.filterMap Element.constraint?

theorem constraints_addLiteral {text : Text} (h : b.addLiteral d text = .ok b') :
    b'.constraints = b.constraints := by
  rcases addLiteral_cases h with ⟨-, rfl⟩ | ⟨s, -, -, rfl⟩
  · rfl
  · rw [constraints, List.filterMap_append]
    exact List.append_nil _

/-- A part adds its constraint, with its groups unrecorded. -/
theorem constraints_addPart {p : Part} (h : b.addPart d p = .ok b') :
    b'.constraints = b.constraints ++ p.constraint?.toList.map Constraint.neutralize := by
  cases p with
  | literal text => simpa [Part.constraint?] using constraints_addLiteral h
  | operator name arg vars =>
      rcases bind_eq_ok.mp h with ⟨o, _, h⟩
      cases h
      simp [constraints, addElement, Element.constraint?, Part.constraint?]
  | «variable» name constraint default =>
      cases h
      cases constraint <;> simp [constraints, addElement, Element.constraint?, Part.constraint?]

theorem constraints_addParts {ps : List Part} (h : ps.foldlM (addPart d) b = .ok b') :
    b'.constraints =
      b.constraints ++ (ps.filterMap Part.constraint?).map Constraint.neutralize := by
  refine addParts_induction (motive := fun qs c => c.constraints =
    b.constraints ++ (qs.filterMap Part.constraint?).map Constraint.neutralize) h ?_ ?_
  · simp
  · intro qs p c c' _ hc hp
    rw [constraints_addPart hp, hc]
    cases hconstraint : p.constraint? <;> simp [hconstraint]

/-- The constraints of what is built are those of the parts, in order and with their groups
unrecorded. -/
theorem constraints_ofParsed? {p : Parsed} (h : ofParsed? d p = .ok b) :
    b.constraints = p.constraints.map Constraint.neutralize := by
  rcases bind_eq_ok.mp h with ⟨b₁, hparts, htrailing⟩
  rw [constraints_addLiteral htrailing]
  exact constraints_addParts hparts

end Builder

/-- The constraints of the elements are those of the template as written, in order and with their
groups unrecorded. -/
theorem constraints_of_make? {text : Text} {d : Dialect} {t : Template} {parsed : Parsed}
    (h : make? text d = .ok t) (hparsed : Parsed.ofText? d text = .ok parsed) :
    t.elements.filterMap Element.constraint? = parsed.constraints.map Constraint.neutralize := by
  rcases make?_eq_ok h with ⟨parsed', b, hparsed', hb, h⟩
  cases hparsed.symm.trans hparsed'
  rcases ofBuilder?_eq_ok h with ⟨p, _, _, rfl⟩
  exact Builder.constraints_ofParsed? hb

theorem encloses_someValue : Encloses someValue := ⟨by decide +kernel, by decide +kernel⟩

theorem isEnclosed_of_constraints {t : Template} (ht : t.WellFormed) (hd : t.dialect = .simple)
    (h : ∀ r ∈ t.elements.filterMap Element.constraint?, Encloses r) :
    ∀ e ∈ t.elements, e.IsEnclosed := by
  intro e he
  cases e with
  | literal s => trivial
  | operator o => exact absurd he (ht.operator_notMem hd o)
  | «variable» v =>
      show Encloses v.valuePattern
      cases hc : v.constraint with
      | none =>
          rw [Variable.valuePattern, hc]
          exact encloses_someValue
      | some r =>
          rw [Variable.valuePattern, hc]
          exact h r (List.mem_filterMap.mpr ⟨_, he, hc⟩)

end Template

/-! ## Matchers -/

namespace Matcher

open Template (pieceOf)

/-- If every constraint stands alone, then every variable takes part in a match, and the path is
made up of the literals, the texts of the variables and the tail. -/
theorem run_of_standsAlone {text : Text} {o : CompileOptions} {parsed : Parsed} (m : Matcher)
    (hd : o.dialect = .simple) (ht : (Template.compileWith text o).value = .ok m.template)
    (hparsed : Parsed.ofText? .simple (o.prepare text) = .ok parsed)
    (halone : ∀ written ∈ parsed.constraints, Constraint.StandsAlone written) :
    (m.template.elements.filterMap Element.constraint? =
        parsed.constraints.map Constraint.neutralize ∧
      ∀ written ∈ parsed.constraints, (Pattern.ofText? written).isSome = true) ∧
      ∀ path m', (m.run path).value = (true, m') →
        ∃ trace tail, m'.matched = .ok trace ∧ m'.tail false = .ok tail ∧
          (∀ v, .variable v ∈ m.template.elements →
            (trace.capture path v.group).isSome = true) ∧
          path = (m.template.elements.map (pieceOf trace path)).flatten ++ tail := by
  rcases Template.wellFormed_of_compileWith ht with ⟨hwell, hdialect⟩
  rw [Template.value_compileWith, hd] at ht
  have hconstraints := Template.constraints_of_make? ht hparsed
  refine ⟨⟨hconstraints, fun written hwritten => (halone written hwritten).valid⟩, ?_⟩
  have henclosed : ∀ e ∈ m.template.elements, e.IsEnclosed := by
    refine Template.isEnclosed_of_constraints hwell (hdialect.trans hd) ?_
    intro r hr
    rw [hconstraints] at hr
    rcases List.mem_map.mp hr with ⟨written, hwritten, rfl⟩
    exact (halone written hwritten).encloses
  intro path m' hrun
  rcases matched_of_run hrun with ⟨trace, htrace, rfl⟩
  rcases hwell.captures_of_search henclosed htrace with ⟨us, tail, hus, rfl, rfl⟩
  -- A literal is recorded as its text, so no text is lost between the pieces.
  have hfits : List.Forall₂ Template.LiteralFits m.template.elements us := by
    refine hus.imp ?_
    rintro e _ ⟨u, rfl, hu⟩ t rfl
    rw [hu t rfl]
  refine ⟨_, tail, rfl, ?_, ?_, ?_⟩
  · simp [Matcher.tail, groupText, matched, Template.capture_tailGroup, bind, Except.bind, decoded]
  · intro v hv
    exact Template.isSome_capture hwell.numbered hus hv rfl
  · rw [Template.map_pieceOf hwell.numbered hfits, Template.textOf_eq_flatten]

theorem run_of_standsAlone_serial :
    ∃ t parsed, (Template.compileWith "p/{x:[a-z]+(-[0-9]+)*}/{y}".toList {}).value = .ok t ∧
      Parsed.ofText? .simple (CompileOptions.prepare {} "p/{x:[a-z]+(-[0-9]+)*}/{y}".toList) =
        .ok parsed ∧
      (∀ written ∈ parsed.constraints, Constraint.StandsAlone written) ∧
      ∃ m' trace, (t.matcher.run "p/ab-12/q/r".toList).value = (true, m') ∧
        m'.matched = .ok trace ∧ ∀ v, .variable v ∈ t.elements →
          (trace.capture "p/ab-12/q/r".toList v.group).isSome = true := by
  let text := "p/{x:[a-z]+(-[0-9]+)*}/{y}".toList
  let path := "p/ab-12/q/r".toList
  have hok : (Template.compileWith text {}).value.toOption.any
      (fun t => (t.matcher.run path).value.1) = true := by decide +kernel
  have hread : (Parsed.ofText? .simple (CompileOptions.prepare {} text)).toOption.any
      (fun p => p.constraints == ["[a-z]+(-[0-9]+)*".toList]) = true := by decide +kernel
  rcases exists_ok_of_any hok with ⟨t, ht, hrun⟩
  rcases exists_ok_of_any hread with ⟨parsed, hparsed, hconstraints⟩
  have halone : ∀ written ∈ parsed.constraints, Constraint.StandsAlone written := by
    rw [eq_of_beq hconstraints]
    intro written hwritten
    rw [List.mem_singleton.mp hwritten]
    exact ⟨by decide +kernel, by decide +kernel, by decide +kernel⟩
  have hmatch : (t.matcher.run path).value = (true, (t.matcher.run path).value.2) :=
    Prod.ext hrun rfl
  have hall := run_of_standsAlone t.matcher rfl ht hparsed halone
  rcases hall.2 path _ hmatch with ⟨trace, _, hmatched, _, hcapture, _⟩
  exact ⟨t, parsed, ht, hparsed, halone, _, trace, hmatch, hmatched, hcapture⟩

/-- A constraint that closes its own group and opens another one is no regular expression, but the
template compiles.  It matches a path without its literal, and its variable takes no part. -/
theorem run_of_rebracketed :
    ∃ t parsed m' trace v, (Template.compileWith "p/{x:a)|(b}".toList {}).value = .ok t ∧
      Parsed.ofText? .simple (CompileOptions.prepare {} "p/{x:a)|(b}".toList) = .ok parsed ∧
      parsed.constraints = ["a)|(b".toList] ∧ Pattern.ofText? "a)|(b".toList = none ∧
      t.elements = [.literal "p/".toList, .variable v] ∧
      (t.matcher.run ['b']).value = (true, m') ∧ m'.matched = .ok trace ∧
      trace.capture ['b'] v.group = none ∧
      ∀ tail, ['b'] ≠ (t.elements.map (pieceOf trace ['b'])).flatten ++ tail := by
  let v : Variable := ⟨['x'], some "a)|(?:b".toList, none, 2⟩
  have hok : (Template.compileWith "p/{x:a)|(b}".toList {}).value.toOption.any
      (fun t => t.elements == [.literal "p/".toList, .variable v] &&
        (t.regex.search ['b']).any fun trace => (trace.capture ['b'] 2).isNone) = true := by
    decide +kernel
  have hread : (Parsed.ofText? .simple
      (CompileOptions.prepare {} "p/{x:a)|(b}".toList)).toOption.any
      (fun p => p.constraints == ["a)|(b".toList]) = true := by decide +kernel
  have hinvalid : (Pattern.ofText? "a)|(b".toList).isNone = true := by decide +kernel
  rcases exists_ok_of_any hok with ⟨t, ht, htest⟩
  rcases exists_ok_of_any hread with ⟨parsed, hparsed, hconstraints⟩
  rcases Bool.and_eq_true_iff.mp htest with ⟨helements, hsearch⟩
  rcases Option.any_eq_true _ _ |>.mp hsearch with ⟨trace, htrace, hcapture⟩
  have helements' := eq_of_beq helements
  refine ⟨t, parsed, (t.matcher.run ['b']).value.2, trace, v, ht, hparsed, eq_of_beq hconstraints,
    Option.isNone_iff_eq_none.mp hinvalid, helements', ?_, ?_,
    Option.isNone_iff_eq_none.mp hcapture, ?_⟩
  · exact Prod.ext (by simp [run, Template.matcher, htrace]) rfl
  · simp [run, Template.matcher, matched, htrace]
  · intro tail
    simp [helements', pieceOf]

end Matcher
end PathTemplate
