import PathTemplate.Proofs.Element.Binding
import PathTemplate.Proofs.Template.Decomposition
import Mathlib.Data.List.Pairwise

/-!
# Recording — the values that a match binds to a name

A match is recorded name by name, in the order in which names occur first, and for each name the
elements that bind it are recorded in template order.  An element with several names is recorded
once for each of them, and an operator replaces what is recorded for its names before.

- `Template.recordingOrder` : the indices of elements in the order in which they are recorded
- `Template.get_bindings_since` : the values of a name are those given since the last replacement
- `Template.KeepsValues`    : nothing is recorded for a name before an operator replaces its values
- `Template.get_bindings_of_keeps` : then the values are what the elements contribute, in order
- `Template.get_bindings_of_only`  : the values of a name that only one element has
- `Matcher.run_contributions` : both for a template that compiles
-/

namespace PathTemplate

/-- The capture of an element's group; nothing for a literal, which has none. -/
def Element.captureIn (trace : Trace) (path : Text) (e : Element) : Capture :=
  e.group?.bind (trace.capture path)

/-- From the last element with the property on.  If there is none, the whole list. -/
def sinceLast {α : Type} (p : α → Bool) : List α → List α
  | [] => []
  | x :: xs => if xs.any p then sinceLast p xs else x :: xs

theorem sinceLast_append_singleton {α : Type} (p : α → Bool) (xs : List α) (x : α) :
    sinceLast p (xs ++ [x]) = if p x = true then [x] else sinceLast p xs ++ [x] := by
  induction xs with
  | nil => simp [sinceLast]
  | cons y ys ih =>
      rw [List.cons_append, sinceLast, sinceLast, List.any_append]
      by_cases hx : p x = true
      · simpa [hx] using ih
      · by_cases hys : ys.any p = true
        · simpa [hx, hys] using ih
        · simp [hx, hys]

theorem sinceLast_eq_self {α : Type} {p : α → Bool} {xs : List α} (h : ∀ x ∈ xs, p x = false) :
    sinceLast p xs = xs := by
  cases xs with
  | nil => rfl
  | cons x xs =>
      rw [sinceLast, if_neg]
      intro hany
      rcases List.any_eq_true.mp hany with ⟨y, hy, hpy⟩
      rw [h y (List.mem_cons_of_mem x hy)] at hpy
      cases hpy

namespace Template

variable {t : Template} {trace : Trace} {path name : Text}

/-! ## Recording in order -/

/-- The indices of the elements in the order in which they are recorded: for each name in turn the
elements that bind it. -/
def recordingOrder (t : Template) : List Nat := t.binders.entries.flatMap (·.2)

theorem bindings_eq (t : Template) (trace : Trace) (path : Text) :
    t.bindings trace path = t.recordingOrder.foldl (t.bindElement trace path) .empty := by
  rw [bindings, recordingOrder, List.foldl_flatMap]

def givesAt (t : Template) (trace : Trace) (path name : Text) (i : Nat) : List (Option Text) :=
  t.elements[i]?.toList.flatMap fun e => e.gives (e.captureIn trace path) name

def replacesAt (t : Template) (name : Text) (i : Nat) : Bool :=
  t.elements[i]?.any (Element.replaces name)

def contributesAt (t : Template) (name : Text) (i : Nat) : Bool :=
  t.elements[i]?.any (Element.contributes name)

theorem givesAt_eq_nil {i : Nat} (h : t.contributesAt name i = false) :
    t.givesAt trace path name i = [] := by
  rw [contributesAt] at h
  rw [givesAt]
  cases hi : t.elements[i]? with
  | none => rfl
  | some e =>
      rw [hi] at h
      simpa using e.gives_eq_nil _ h

theorem contributesAt_of_replacesAt {i : Nat} (h : t.replacesAt name i = true) :
    t.contributesAt name i = true := by
  rcases Option.any_eq_true _ _ |>.mp h with ⟨e, hi, he⟩
  exact Option.any_eq_true _ _ |>.mpr ⟨e, hi, e.contributes_of_replaces he⟩

/-- Recording an element is recording its capture, be there a group or not. -/
theorem bindElement_eq {b : Bindings} {i : Nat} {e : Element} (hi : t.elements[i]? = some e) :
    t.bindElement trace path b i = e.bind (e.captureIn trace path) b := by
  rw [bindElement, hi]
  cases e with
  | literal s => rfl
  | «variable» v => rfl
  | operator o => rfl

/-- Recording the element at an index replaces the values of a name, or appends to them. -/
theorem get_bindElement_eq (hwell : t.WellFormed) (b : Bindings) (i : Nat) :
    (t.bindElement trace path b i).values.get name =
      if t.replacesAt name i = true then t.givesAt trace path name i
      else b.values.get name ++ t.givesAt trace path name i := by
  cases hi : t.elements[i]? with
  | none => simp [bindElement, replacesAt, givesAt, hi]
  | some e =>
      have hbuilt := hwell.built e (List.mem_of_getElem? hi)
      have hrecorded := e.recorded_bind hbuilt (e.captureIn trace path) b name
      have hvalues := congrArg Prod.fst hrecorded
      rw [apply_ite Prod.fst] at hvalues
      rw [bindElement_eq hi]
      simpa [replacesAt, givesAt, hi, Bindings.recorded] using hvalues

/-- The values of a name are what has been contributed to it since it was last replaced. -/
theorem get_recorded_since (hwell : t.WellFormed) (order : List Nat) :
    (order.foldl (t.bindElement trace path) .empty).values.get name =
      (sinceLast (t.replacesAt name) order).flatMap (t.givesAt trace path name) := by
  -- Each element is recorded on top of those before it.
  induction order using List.reverseRecOn with
  | nil => rfl
  | append_singleton order i ih =>
      rw [List.foldl_append, List.foldl_cons, List.foldl_nil, get_bindElement_eq hwell,
        sinceLast_append_singleton, ih]
      split
      · simp
      · simp

theorem get_bindings_since (hwell : t.WellFormed) (name : Text) :
    (t.bindings trace path).values.get name =
      (sinceLast (t.replacesAt name) t.recordingOrder).flatMap (t.givesAt trace path name) := by
  rw [bindings_eq, get_recorded_since hwell]

/-! ## Names and their elements -/

theorem keys_nodup (hwell : t.WellFormed) : t.binders.keys.Nodup :=
  hwell.binders ▸ Multimap.nodup_keys_ofPairs _

theorem WellFormed.nodup_names (hwell : t.WellFormed) {e : Element} (he : e ∈ t.elements) :
    e.names.Nodup := by
  have hbuilt := hwell.built e he
  cases e with
  | literal s => exact List.nodup_nil
  | «variable» v => exact List.nodup_singleton v.name
  | operator o => exact hbuilt.2.nodup_names

theorem flatMap_once {β : Type} {ns : List Text} (hns : ns.Nodup) (name : Text) (xs : List β) :
    (ns.flatMap fun n => if n = name then xs else []) = if name ∈ ns then xs else [] := by
  induction ns with
  | nil => rfl
  | cons n ns ih =>
      rcases List.nodup_cons.mp hns with ⟨hnew, hns⟩
      rw [List.flatMap_cons, ih hns]
      by_cases hn : n = name
      · subst hn
        simp [hnew]
      · have hn' : name ≠ n := fun h => hn h.symm
        simp [hn, hn']

/-- The indices of a name are those of the elements that have it, in template order. -/
theorem get_binders_eq (hwell : t.WellFormed) (name : Text) :
    t.binders.get name =
      (t.elements.zipIdx.filter fun e => decide (name ∈ e.1.names)).map (·.2) := by
  have hfilter : ∀ es : List (Element × Nat),
      (es.filter fun e => decide (name ∈ e.1.names)).map (·.2) =
        es.flatMap fun e => if name ∈ e.1.names then [e.2] else [] := by
    intro es
    induction es with
    | nil => rfl
    | cons e es ih => by_cases h : name ∈ e.1.names <;> simp [h, ih]
  have hindex : ∀ e ∈ t.elements.zipIdx,
      ((e.1.names.map fun n => (n, e.2)).flatMap fun p => if p.1 = name then [p.2] else []) =
      if name ∈ e.1.names then [e.2] else [] := by
    rintro ⟨e, i⟩ he
    have hi := List.mem_zipIdx_iff_getElem?.mp he
    rw [List.flatMap_map]
    exact flatMap_once (hwell.nodup_names (List.mem_of_getElem? hi)) name [i]
  rw [hfilter, hwell.binders, Multimap.get_ofPairs, bindingPairs, List.flatMap_assoc,
    List.flatMap_def, List.flatMap_def, List.map_congr_left hindex]

theorem mem_get_binders (hwell : t.WellFormed) {i : Nat} :
    i ∈ t.binders.get name ↔ ∃ e, t.elements[i]? = some e ∧ name ∈ e.names := by
  rw [get_binders_eq hwell, List.mem_map]
  constructor
  · rintro ⟨⟨e, j⟩, he, rfl⟩
    rcases List.mem_filter.mp he with ⟨he, hname⟩
    exact ⟨e, List.mem_zipIdx_iff_getElem?.mp he, of_decide_eq_true hname⟩
  · rintro ⟨e, he, hname⟩
    have hmem : (e, i) ∈ t.elements.zipIdx := List.mem_zipIdx_iff_getElem?.mpr he
    exact ⟨(e, i), List.mem_filter.mpr ⟨hmem, decide_eq_true hname⟩, rfl⟩

/-- The indices of a name go up. -/
theorem pairwise_get_binders (hwell : t.WellFormed) (name : Text) :
    (t.binders.get name).Pairwise (· < ·) := by
  rw [get_binders_eq hwell]
  have hsub := (List.filter_sublist (p := fun e : Element × Nat => decide (name ∈ e.1.names))
    (l := t.elements.zipIdx)).map (·.2)
  have hrange : (t.elements.zipIdx.map (·.2)).Pairwise (· < ·) := by
    rw [List.zipIdx_map_snd]
    exact List.pairwise_lt_range'
  exact hrange.sublist hsub

/-- Going through the indices of a name is going through the elements in template order, if only
elements that have the name count. -/
theorem flatMap_binders_get {β : Type} (hwell : t.WellFormed) {f : Element → List β}
    (hf : ∀ e, name ∉ e.names → f e = []) :
    ((t.binders.get name).flatMap fun i => t.elements[i]?.toList.flatMap f) =
      t.elements.flatMap f := by
  have hindex : ∀ e ∈ t.elements.zipIdx.filter fun e => decide (name ∈ e.1.names),
      t.elements[e.2]?.toList.flatMap f = f e.1 := by
    rintro ⟨e, i⟩ he
    have hi := List.mem_zipIdx_iff_getElem?.mp (List.mem_filter.mp he).1
    simp [hi]
  -- Elements without the name give nothing, so it does not matter whether they are asked.
  have hall : ∀ es : List (Element × Nat),
      ((es.filter fun e => decide (name ∈ e.1.names)).flatMap fun e => f e.1) =
        es.flatMap fun e => f e.1 := by
    intro es
    induction es with
    | nil => rfl
    | cons e es ih =>
        by_cases h : name ∈ e.1.names
        · simp [h, ih]
        · simp [h, ih, hf e.1 h]
  calc ((t.binders.get name).flatMap fun i => t.elements[i]?.toList.flatMap f)
      = (t.elements.zipIdx.filter fun e => decide (name ∈ e.1.names)).flatMap fun e => f e.1 := by
        rw [get_binders_eq hwell, List.flatMap_map, List.flatMap_def, List.flatMap_def,
          List.map_congr_left hindex]
    _ = t.elements.zipIdx.flatMap fun e => f e.1 := hall _
    _ = (t.elements.zipIdx.map (·.1)).flatMap f := by rw [List.flatMap_map]
    _ = t.elements.flatMap f := by rw [List.zipIdx_map_fst]

/-- Elements that are recorded for another name count for the name only if they replace. -/
theorem flatMap_recordingOrder {β : Type} (hwell : t.WellFormed) {f : Nat → List β}
    (hf : ∀ i, t.contributesAt name i = false → f i = [])
    (hf' : ∀ i ∈ t.recordingOrder, t.replacesAt name i = true → f i = []) :
    t.recordingOrder.flatMap f = (t.binders.get name).flatMap f := by
  rw [recordingOrder, List.flatMap_assoc]
  refine Multimap.flatMap_entries (keys_nodup hwell) ?_
  intro entry hentry hne
  refine List.flatMap_eq_nil_iff.mpr ?_
  intro i hi
  have horder : i ∈ t.recordingOrder := List.mem_flatMap.mpr ⟨entry, hentry, hi⟩
  cases hreplaces : t.replacesAt name i with
  | true => exact hf' i horder hreplaces
  | false =>
      -- What is left is a variable, which has no name but that of the entry.
      refine hf i ?_
      rw [← Multimap.get_of_mem (keys_nodup hwell) hentry] at hi
      rcases (mem_get_binders hwell).mp hi with ⟨e, he, hname⟩
      rw [replacesAt, he, Option.any_some] at hreplaces
      rw [contributesAt, he, Option.any_some]
      cases e with
      | literal s => rfl
      | operator o => exact hreplaces
      | «variable» v =>
          rw [Element.contributes, beq_eq_false_iff_ne]
          rintro rfl
          exact hne (List.mem_singleton.mp hname)

/-! ## Names that keep their values -/

theorem replacesAt_eq_false (ht : ∀ e ∈ t.elements, e.replaces name = false) (i : Nat) :
    t.replacesAt name i = false := by
  refine Bool.eq_false_iff.mpr fun h => ?_
  rcases Option.any_eq_true _ _ |>.mp h with ⟨e, he, hreplaces⟩
  rw [ht e (List.mem_of_getElem? he)] at hreplaces
  cases hreplaces

/-- Nothing that contributes to the name is recorded before an operator that replaces its values. -/
def KeepsValues (t : Template) (name : Text) : Prop :=
  t.recordingOrder.Pairwise fun i j =>
    t.replacesAt name j = true → i = j ∨ t.contributesAt name i = false

instance (t : Template) (name : Text) : Decidable (t.KeepsValues name) :=
  inferInstanceAs (Decidable (List.Pairwise _ _))

/-- Where no element replaces values, all of them are kept. -/
theorem keepsValues_of_replaces_eq_false (ht : ∀ e ∈ t.elements, e.replaces name = false) :
    t.KeepsValues name := by
  refine List.pairwise_of_forall ?_
  intro i j hj
  rw [replacesAt_eq_false ht] at hj
  cases hj

/-- Only one element can replace values that are kept. -/
theorem KeepsValues.unique (h : t.KeepsValues name) {i j : Nat} (hi : i ∈ t.recordingOrder)
    (hj : j ∈ t.recordingOrder) (hri : t.replacesAt name i = true)
    (hrj : t.replacesAt name j = true) : i = j := by
  let R i j := t.replacesAt name i = true → t.replacesAt name j = true → i = j
  have hsymm : Std.Symm R := ⟨fun i j hij hj hi => (hij hi hj).symm⟩
  have hpairs : t.recordingOrder.Pairwise R := by
    refine h.imp ?_
    intro i j hij hi hj
    rcases hij hj with heq | hnone
    · exact heq
    · rw [contributesAt_of_replacesAt hi] at hnone
      cases hnone
  exact hpairs.forall_of_forall (fun i _ _ _ => rfl) hi hj hri hrj

section

variable {α β : Type} [DecidableEq α] {p : α → Bool} {c : α → List β} {x : α} {xs : List α}

/-- If the only replacement is by `x`, and only `x` contributes before it, then what is left after
the last replacement is what `x` and the others contribute. -/
theorem flatMap_sinceLast (hx : x ∈ xs) (hp : p x = true) (hunique : ∀ y ∈ xs, p y = true → y = x)
    (hbefore : xs.Pairwise fun y z => z = x → y = x ∨ c y = []) :
    (sinceLast p xs).flatMap c = c x ++ xs.flatMap fun y => if y = x then [] else c y := by
  induction xs using List.reverseRecOn with
  | nil => cases hx
  | append_singleton xs y ih =>
      rcases List.pairwise_append.mp hbefore with ⟨hxs, _, hlast⟩
      rw [sinceLast_append_singleton, List.flatMap_append]
      by_cases hy : y = x
      · -- Here everything is replaced, and there was nothing else.
        have hnone : (xs.flatMap fun z => if z = x then [] else c z) = [] := by
          refine List.flatMap_eq_nil_iff.mpr ?_
          intro z hz
          split
          case isTrue => rfl
          case isFalse hne => exact (hlast z hz y List.mem_cons_self hy).resolve_left hne
        rw [hy, if_pos hp, hnone]
        simp
      · have hkeep : ¬ p y = true := fun hpy => hy (hunique y (by simp) hpy)
        have hmem : x ∈ xs := by
          rcases List.mem_append.mp hx with hmem | hmem
          · exact hmem
          · exact absurd (List.mem_singleton.mp hmem).symm hy
        rw [if_neg hkeep, List.flatMap_append,
          ih hmem (fun z hz => hunique z (List.mem_append_left _ hz)) hxs]
        simp [hy]

/-- Where each thing is there once, what comes before `x` contributes nothing. -/
theorem flatMap_eq_first (hx : x ∈ xs) (hnodup : xs.Nodup)
    (hbefore : xs.Pairwise fun y z => z = x → y = x ∨ c y = []) :
    xs.flatMap c = c x ++ xs.flatMap fun y => if y = x then [] else c y := by
  induction xs with
  | nil => cases hx
  | cons y xs ih =>
      rcases List.pairwise_cons.mp hbefore with ⟨hy, hxs⟩
      rcases List.nodup_cons.mp hnodup with ⟨hnew, hnodup⟩
      by_cases heq : y = x
      · subst heq
        have hrest : ∀ z ∈ xs, (if z = y then [] else c z) = c z := by
          intro z hz
          rw [if_neg]
          rintro rfl
          exact hnew hz
        rw [List.flatMap_cons, List.flatMap_cons, if_pos rfl, List.nil_append, List.flatMap_def,
          List.flatMap_def, List.map_congr_left hrest]
      · have hmem : x ∈ xs := (List.mem_cons.mp hx).resolve_left fun h => heq h.symm
        have hnone : c y = [] := (hy x hmem rfl).resolve_left heq
        rw [List.flatMap_cons, List.flatMap_cons, if_neg heq, hnone, ih hmem hnodup hxs]
        rfl

end

/-- Values that are kept are those of the elements, in template order. -/
theorem get_bindings_of_keeps (hwell : t.WellFormed) (hkeeps : t.KeepsValues name) :
    (t.bindings trace path).values.get name =
      t.elements.flatMap fun e => e.gives (e.captureIn trace path) name := by
  let c := t.givesAt trace path name
  have helements : (t.binders.get name).flatMap c =
      t.elements.flatMap fun e => e.gives (e.captureIn trace path) name := by
    refine flatMap_binders_get hwell ?_
    intro e hname
    refine e.gives_eq_nil _ (Bool.eq_false_iff.mpr ?_)
    intro h
    exact hname (e.mem_names_of_contributes h)
  have hnone : ∀ i, t.contributesAt name i = false → c i = [] := fun i h => givesAt_eq_nil h
  rw [get_bindings_since hwell, ← helements]
  by_cases hreplaced : ∃ i ∈ t.recordingOrder, t.replacesAt name i = true
  · rcases hreplaced with ⟨i, hi, hri⟩
    have hbefore : t.recordingOrder.Pairwise fun j k => k = i → j = i ∨ c j = [] := by
      refine hkeeps.imp ?_
      intro j k hjk hk
      subst hk
      exact (hjk hri).imp id (hnone j)
    -- The operator has the name, so its index is one of those of the name.
    have hmem : i ∈ t.binders.get name := by
      rcases Option.any_eq_true _ _ |>.mp hri with ⟨e, he, hre⟩
      exact (mem_get_binders hwell).mpr
        ⟨e, he, e.mem_names_of_contributes (e.contributes_of_replaces hre)⟩
    have hsub : (t.binders.get name).Sublist t.recordingOrder := by
      have hentry := Multimap.mem_entries_of_get_ne_nil (List.ne_nil_of_mem hmem)
      rw [recordingOrder, List.flatMap_def]
      exact List.sublist_flatten_of_mem (List.mem_map.mpr ⟨_, hentry, rfl⟩)
    have hothers : (t.recordingOrder.flatMap fun j => if j = i then [] else c j) =
        (t.binders.get name).flatMap fun j => if j = i then [] else c j := by
      refine flatMap_recordingOrder hwell ?_ ?_
      · intro j hj
        rw [hnone j hj]
        exact ite_self []
      · intro j hj hrj
        exact if_pos (hkeeps.unique hj hi hrj hri)
    have hnodup : (t.binders.get name).Nodup :=
      (pairwise_get_binders hwell name).imp Nat.ne_of_lt
    rw [flatMap_sinceLast hi hri (fun j hj hrj => hkeeps.unique hj hi hrj hri) hbefore,
      flatMap_eq_first hmem hnodup (hbefore.sublist hsub), hothers]
  · have hkept : ∀ i ∈ t.recordingOrder, t.replacesAt name i = false := by
      intro i hi
      exact Bool.eq_false_iff.mpr fun h => hreplaced ⟨i, hi, h⟩
    rw [sinceLast_eq_self hkept]
    refine flatMap_recordingOrder hwell hnone ?_
    intro i hi hri
    exact absurd ⟨i, hi, hri⟩ hreplaced

/-! ## Names of one element -/

section

variable {before after : List Element} {e : Element}

/-- The index of the only element that has a name. -/
theorem eq_length_of_mem_names (hbefore : ∀ x ∈ before, name ∉ x.names)
    (hafter : ∀ x ∈ after, name ∉ x.names) {i : Nat} {x : Element}
    (hx : (before ++ e :: after)[i]? = some x) (hname : name ∈ x.names) : i = before.length := by
  rcases Nat.lt_trichotomy i before.length with hlt | heq | hgt
  · rw [List.getElem?_append_left hlt] at hx
    exact absurd hname (hbefore x (List.mem_of_getElem? hx))
  · exact heq
  · obtain ⟨j, rfl⟩ := Nat.exists_eq_add_of_lt hgt
    rw [List.getElem?_append_right (Nat.le_of_lt hgt), Nat.add_assoc, Nat.add_sub_cancel_left,
      List.getElem?_cons_succ] at hx
    exact absurd hname (hafter x (List.mem_of_getElem? hx))

/-- An operator replaces nothing that others contribute, if no other element has its names. -/
theorem keepsValues_of_only (helements : t.elements = before ++ e :: after)
    (hbefore : ∀ x ∈ before, name ∉ x.names) (hafter : ∀ x ∈ after, name ∉ x.names) :
    t.KeepsValues name := by
  have hindex : ∀ {i : Nat}, t.contributesAt name i = true → i = before.length := by
    intro i hi
    rcases Option.any_eq_true _ _ |>.mp hi with ⟨x, hx, hcontributes⟩
    rw [helements] at hx
    exact eq_length_of_mem_names hbefore hafter hx (x.mem_names_of_contributes hcontributes)
  apply List.pairwise_of_forall
  intro i j hreplaces
  cases hcontributes : t.contributesAt name i with
  | false => exact .inr rfl
  | true =>
      exact .inl ((hindex hcontributes).trans
        (hindex (contributesAt_of_replacesAt hreplaces)).symm)

/-- The values of a name that one element has are what this element gives. -/
theorem get_bindings_of_only (hwell : t.WellFormed) (helements : t.elements = before ++ e :: after)
    (hbefore : ∀ x ∈ before, name ∉ x.names) (hafter : ∀ x ∈ after, name ∉ x.names) :
    (t.bindings trace path).values.get name = e.gives (e.captureIn trace path) name := by
  have hnone : ∀ es : List Element, (∀ x ∈ es, name ∉ x.names) →
      (es.flatMap fun x => x.gives (x.captureIn trace path) name) = [] := by
    intro es hes
    apply List.flatMap_eq_nil_iff.mpr
    intro x hx
    apply x.gives_eq_nil
    apply Bool.eq_false_iff.mpr
    intro hcontributes
    exact hes x hx (x.mem_names_of_contributes hcontributes)
  rw [get_bindings_of_keeps hwell (keepsValues_of_only helements hbefore hafter), helements,
    List.flatMap_append, List.flatMap_cons, hnone before hbefore, hnone after hafter,
    List.nil_append, List.append_nil]

end

end Template

/-! ## Matchers -/

namespace Matcher

/-- The values of a name are what the elements that are recorded since its values were last replaced
contribute from their own captures.  If nothing is recorded for the name before an operator replaces
its values, they are what all elements contribute, in template order. -/
theorem run_contributions {text : Text} {o : CompileOptions} (m : Matcher)
    (ht : (Template.compileWith text o).value = .ok m.template) {path : Text} {m' : Matcher}
    (hrun : (m.run path).value = (true, m')) :
    ∃ trace values, m'.matched = .ok trace ∧ m'.allValues false = .ok values ∧
      ∀ name,
        values.get name =
          (sinceLast (m.template.replacesAt name) m.template.recordingOrder).flatMap
            (m.template.givesAt trace path name) ∧
        (m.template.KeepsValues name →
          values.get name =
            m.template.elements.flatMap fun e => e.gives (e.captureIn trace path) name) := by
  rcases Template.wellFormed_of_compileWith ht with ⟨hwell, _⟩
  rcases matched_of_run hrun with ⟨trace, _, rfl⟩
  refine ⟨trace, (m.template.bindings trace path).values, rfl, rfl, ?_⟩
  intro name
  exact ⟨Template.get_bindings_since hwell name, Template.get_bindings_of_keeps hwell⟩

/-- A list and then a variable of the same name. -/
theorem run_contributions_tags :
    ∃ t m' values,
      (Template.compileWith "{-list|,|x}/{x}".toList { dialect := .extended }).value = .ok t ∧
      (t.matcher.run "1,2/3".toList).value = (true, m') ∧ t.KeepsValues ['x'] ∧
      m'.allValues false = .ok values ∧
      values.get ['x'] = [some ['1'], some ['2'], some ['3']] := by
  let path := "1,2/3".toList
  have hok : (Template.compileWith "{-list|,|x}/{x}".toList
      { dialect := .extended }).value.toOption.any (fun t =>
        decide (t.KeepsValues ['x']) && (t.regex.search path).any fun trace =>
          (t.elements.flatMap fun e => e.gives (e.captureIn trace path) ['x']) ==
            [some ['1'], some ['2'], some ['3']]) = true := by
    decide +kernel
  rcases exists_ok_of_any hok with ⟨t, ht, htest⟩
  rcases Bool.and_eq_true_iff.mp htest with ⟨hkeeps, hsearch⟩
  rcases Option.any_eq_true _ _ |>.mp hsearch with ⟨trace, htrace, hgives⟩
  have hkeeps' : t.KeepsValues ['x'] := of_decide_eq_true hkeeps
  have hmatch : (t.matcher.run path).value = (true, ⟨t, path, some trace⟩) := by
    simp [run, Template.matcher, htrace]
  rcases run_contributions t.matcher ht hmatch with ⟨trace', values, htrace', hvalues, hall⟩
  obtain rfl : trace = trace' := by
    cases htrace'
    rfl
  refine ⟨t, _, values, ht, hmatch, hkeeps', hvalues, ?_⟩
  rw [(hall ['x']).2 hkeeps']
  exact eq_of_beq hgives

/-- A list replaces the value of a variable of its name that stands before it. -/
theorem run_replaced_value :
    ∃ t trace m' values,
      (Template.compileWith "{x}/{-list|,|x}".toList { dialect := .extended }).value = .ok t ∧
      (t.matcher.run "1/2,3".toList).value = (true, m') ∧ m'.matched = .ok trace ∧
      m'.allValues false = .ok values ∧
      (t.elements.flatMap fun e => e.gives (e.captureIn trace "1/2,3".toList) ['x']) =
        [some ['1'], some ['2'], some ['3']] ∧
      values.get ['x'] = [some ['2'], some ['3']] := by
  let path := "1/2,3".toList
  have hok : (Template.compileWith "{x}/{-list|,|x}".toList
      { dialect := .extended }).value.toOption.any (fun t =>
        (t.regex.search path).any fun trace =>
          (t.elements.flatMap fun e => e.gives (e.captureIn trace path) ['x']) ==
            [some ['1'], some ['2'], some ['3']] &&
          (t.bindings trace path).values.get ['x'] == [some ['2'], some ['3']]) = true := by
    decide +kernel
  rcases exists_ok_of_any hok with ⟨t, ht, htest⟩
  rcases Option.any_eq_true _ _ |>.mp htest with ⟨trace, htrace, htest⟩
  rcases Bool.and_eq_true_iff.mp htest with ⟨hgives, hvalues⟩
  have hmatch : (t.matcher.run path).value = (true, ⟨t, path, some trace⟩) := by
    simp [run, Template.matcher, htrace]
  exact ⟨t, trace, _, _, ht, hmatch, rfl, rfl, eq_of_beq hgives, eq_of_beq hvalues⟩

end Matcher
end PathTemplate
