import PathTemplate.Proofs.Template.Recording

/-!
# Starts — where the values of a match begin in the path

All pieces of one captured text are recorded with the start of that text.

- `Template.HasSource`        : a bound value comes from a capture that begins at its start
- `Template.aligned_bindings` : all bound values of a match do
- `WellFormed.records_capture` : what the group of an element has captured, its element records
- `Matcher.run_starts`        : the values of a template that compiles, and their starts
-/

namespace PathTemplate

/-- Related lists have related elements at each index. -/
theorem exists_getElem?_of_forall₂ {α β : Type} {R : α → β → Prop} {xs : List α} {ys : List β}
    (h : List.Forall₂ R xs ys) {i : Nat} {x : α} (hx : xs[i]? = some x) :
    ∃ y, ys[i]? = some y ∧ R x y := by
  induction h generalizing i with
  | nil => cases hx
  | @cons a b xs ys hab _ ih =>
      cases i with
      | zero =>
          cases hx
          exact ⟨b, rfl, hab⟩
      | succ i => exact ih hx

namespace Template

variable {t : Template} {trace : Trace} {path name : Text}

/-! ## Sources -/

/-- A bound value has a start: there begins the capture of an element that has contributed it. -/
def HasSource (t : Template) (trace : Trace) (path name : Text) (value : Option Text)
    (start : Option Nat) : Prop :=
  ∀ v, value = some v → ∃ s, start = some s ∧ ∃ e ∈ t.elements, ∃ text,
    e.captureIn trace path = some (text, s) ∧ some v ∈ e.gives (some (text, s)) name

/-- What an element with a group records is what its group has captured. -/
theorem WellFormed.records_capture (hwell : t.WellFormed) (hplain : ∀ e ∈ t.elements, e.IsPlain)
    (h : t.regex.search path = some trace) {e : Element} {k : Nat} (he : e ∈ t.elements)
    (hk : e.group? = some k) : e.Records ((trace.capture path k).map (·.1)) := by
  rcases hwell.records_of_search hplain h with ⟨us, tail, hus, _, rfl, rfl⟩
  exact forall₂_capture hwell.numbered hus he hk

/-- The group of a list takes part in every match. -/
theorem WellFormed.exists_capture_of_list (hwell : t.WellFormed)
    (h : t.regex.search path = some trace) {o : Operator} (ho : .operator o ∈ t.elements)
    (hkind : o.kind = .list) : ∃ c, (Element.operator o).captureIn trace path = some c := by
  have hrecords := hwell.records_capture (hwell.isPlain_of_operator ho) h ho rfl
  rcases hrecords with ⟨habsent, _⟩ | ⟨u, _, hu⟩
  · rw [hkind] at habsent
    cases habsent
  · rcases Option.map_eq_some_iff.mp hu with ⟨c, hc, _⟩
    exact ⟨c, hc⟩

theorem hasSource_of_mem_gives (hwell : t.WellFormed) (h : t.regex.search path = some trace)
    {e : Element} (he : e ∈ t.elements) {value : Option Text}
    (hvalue : value ∈ e.gives (e.captureIn trace path) name) :
    t.HasSource trace path name value ((e.captureIn trace path).map (·.2)) := by
  rintro v rfl
  cases hcapture : e.captureIn trace path with
  | some c =>
      rw [hcapture] at hvalue
      exact ⟨c.2, rfl, e, he, c.1, hcapture, hvalue⟩
  | none =>
      -- Only a list contributes without a capture, and it always has one.
      rw [hcapture] at hvalue
      rcases Element.eq_list_of_mem_gives_none hvalue with ⟨o, rfl, hkind⟩
      rcases hwell.exists_capture_of_list h he hkind with ⟨c, hc⟩
      rw [hc] at hcapture
      cases hcapture

/-- The bound values of a match have starts, place by place. -/
theorem aligned_bindings (hwell : t.WellFormed) (h : t.regex.search path = some trace) :
    (t.bindings trace path).Aligned (t.HasSource trace path) := by
  rw [bindings_eq]
  induction t.recordingOrder using List.reverseRecOn with
  | nil => exact Bindings.aligned_empty _
  | append_singleton order i ih =>
      rw [List.foldl_append, List.foldl_cons, List.foldl_nil]
      cases hi : t.elements[i]? with
      | none =>
          rw [bindElement, hi]
          exact ih
      | some e =>
          have he := List.mem_of_getElem? hi
          rw [bindElement_eq hi]
          exact e.aligned_bind (hwell.built e he) ih fun name v hv =>
            hasSource_of_mem_gives hwell h he hv

end Template

/-- A captured text stands in the path where its capture begins. -/
theorem Trace.occursAt_of_capture {trace : Trace} {path text : Text} {k start : Nat}
    (h : trace.capture path k = some (text, start)) : path.OccursAt start text := by
  rcases Option.map_eq_some_iff.mp h with ⟨⟨i, j⟩, _, heq⟩
  cases heq
  refine ⟨path.take i, (path.drop i).drop (j - i), ?_, rfl⟩
  rw [Text.slice, List.append_assoc, List.take_append_drop, List.take_append_drop]

theorem Element.occursAt_of_captureIn {trace : Trace} {path text : Text} {e : Element}
    {start : Nat} (h : e.captureIn trace path = some (text, start)) : path.OccursAt start text := by
  rcases Option.bind_eq_some_iff.mp h with ⟨k, _, hcapture⟩
  exact Trace.occursAt_of_capture hcapture

/-! ## Matchers -/

namespace Matcher

/-- Every bound value of a match has a start, and there begins the captured text of an element that
contributes to the name.  The value lies in this text, and it starts there itself if and only if it
begins the text.  So it does if no operator replaces the values of the name. -/
theorem run_starts {text : Text} {o : CompileOptions} (m : Matcher)
    (ht : (Template.compileWith text o).value = .ok m.template) {path : Text} {m' : Matcher}
    (hrun : (m.run path).value = (true, m')) :
    ∃ trace b, m'.matched = .ok trace ∧ m'.bindings = .ok b ∧
      ∀ (name : Text) (i : Nat) (v : Text), (b.values.get name)[i]? = some (some v) →
        ∃ start, (b.starts.get name)[i]? = some (some start) ∧
          (∃ e ∈ m.template.elements, e.contributes name = true ∧
            ∃ captured, e.captureIn trace path = some (captured, start) ∧
              path.OccursAt start captured ∧ v <:+: captured ∧
              (path.OccursAt start v ↔ v <+: captured)) ∧
          ((∀ o, .operator o ∈ m.template.elements → o.replaces name = false) →
            path.OccursAt start v) := by
  rcases Template.wellFormed_of_compileWith ht with ⟨hwell, _⟩
  rcases matched_of_run hrun with ⟨trace, htrace, rfl⟩
  refine ⟨trace, m.template.bindings trace path, rfl, rfl, ?_⟩
  intro name i v hvalue
  rcases exists_getElem?_of_forall₂ (Template.aligned_bindings hwell htrace name) hvalue with
    ⟨_, hstart, hsource⟩
  rcases hsource v rfl with ⟨start, rfl, e, he, captured, hcapture, hgives⟩
  have hoccurs := e.occursAt_of_captureIn hcapture
  have hinfix := e.infix_of_mem_gives (hwell.built e he) hgives
  have hcontributes : e.contributes name = true := by
    by_contra hnone
    rw [e.gives_eq_nil _ (Bool.not_eq_true _ ▸ hnone)] at hgives
    cases hgives
  refine ⟨start, hstart, ⟨e, he, hcontributes, captured, hcapture, hoccurs, hinfix,
    hoccurs.part_iff hinfix⟩, ?_⟩
  intro hnone
  -- What contributes is then a variable, and contributes all that it has captured.
  cases e with
  | literal s => cases hgives
  | operator o =>
      rw [Element.contributes, hnone o he] at hcontributes
      cases hcontributes
  | «variable» w =>
      rw [Element.eq_of_mem_gives_variable hgives]
      exact hoccurs

/-- Offsets count octets, and two of them are before the slash. -/
theorem run_starts_names :
    ∃ t m' b,
      (Template.compileWith "{y}/{x}".toList {}).value = .ok t ∧
      (t.matcher.run "é/ab".toList).value = (true, m') ∧ m'.bindings = .ok b ∧
      (b.starts.get ['x'])[0]? = some (some 3) ∧ Text.OccursAt "é/ab".toList 3 "ab".toList := by
  let path := "é/ab".toList
  have hok : (Template.compileWith "{y}/{x}".toList {}).value.toOption.any (fun t =>
      t.elements.all (!·.replaces ['x']) &&
      (t.regex.search path).any fun trace =>
        decide ((t.bindings trace path).values.get ['x'] = [some "ab".toList] ∧
          (t.bindings trace path).starts.get ['x'] = [some 3])) = true := by
    decide +kernel
  rcases exists_ok_of_any hok with ⟨t, ht, htest⟩
  rcases Bool.and_eq_true_iff.mp htest with ⟨helements, hsearch⟩
  rcases Option.any_eq_true _ _ |>.mp hsearch with ⟨trace, htrace, hb⟩
  rcases of_decide_eq_true hb with ⟨hvalues, hstarts⟩
  have hmatch : (t.matcher.run path).value = (true, ⟨t, path, some trace⟩) := by
    simp [run, Template.matcher, htrace]
  rcases run_starts t.matcher ht hmatch with ⟨trace', b, _, hbindings, hall⟩
  obtain rfl : t.bindings trace path = b := by
    cases hbindings
    rfl
  rcases hall ['x'] 0 "ab".toList (by rw [hvalues]; rfl) with ⟨start, hstart, _, hoccurs⟩
  have hvariable : ∀ o, .operator o ∈ t.elements → o.replaces ['x'] = false := by
    intro o ho
    simpa [Element.replaces] using List.all_eq_true.mp helements _ ho
  rw [hstarts] at hstart
  cases hstart
  refine ⟨t, _, _, ht, hmatch, rfl, ?_, hoccurs hvariable⟩
  rw [hstarts]
  rfl

/-- All pieces of a list have the start of the first one. -/
theorem run_shared_start :
    ∃ t m' b,
      (Template.compileWith "{-list|,|x}".toList { dialect := .extended }).value = .ok t ∧
      (t.matcher.run "a,b".toList).value = (true, m') ∧ m'.bindings = .ok b ∧
      b.values.get ['x'] = [some ['a'], some ['b']] ∧ b.starts.get ['x'] = [some 0, some 0] ∧
      ¬ Text.OccursAt "a,b".toList 0 ['b'] := by
  let path := "a,b".toList
  have hok : (Template.compileWith "{-list|,|x}".toList
      { dialect := .extended }).value.toOption.any (fun t =>
        (t.regex.search path).any fun trace =>
          decide ((t.bindings trace path).values.get ['x'] = [some ['a'], some ['b']] ∧
            (t.bindings trace path).starts.get ['x'] = [some 0, some 0])) = true := by
    decide +kernel
  rcases exists_ok_of_any hok with ⟨t, ht, hsearch⟩
  rcases Option.any_eq_true _ _ |>.mp hsearch with ⟨trace, htrace, hb⟩
  rcases of_decide_eq_true hb with ⟨hvalues, hstarts⟩
  have hmatch : (t.matcher.run path).value = (true, ⟨t, path, some trace⟩) := by
    simp [run, Template.matcher, htrace]
  refine ⟨t, _, _, ht, hmatch, rfl, hvalues, hstarts, ?_⟩
  rintro ⟨before, after, heq, hlength⟩
  rw [Text.eq_nil_of_byteLength_eq_zero hlength] at heq
  cases heq

end Matcher
end PathTemplate
