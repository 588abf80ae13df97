import PathTemplate.Proofs.Percent
import PathTemplate.Proofs.Template.Decomposition
import PathTemplate.Proofs.Text
import PathTemplate.Template.Expansion

/-!
# Expansion — an expanded path is matched by its template

- `Element.writeAll_eq_ok_iff`  : elements are written one after the other
- `Operator.write_mem_pieces`   : what an operator writes is one of its pieces
- `Element.write_mem_pieces`    : the same for every element, if variables have values
- `Matcher.run_expand`          : a template matches its expansions
-/

namespace PathTemplate

open scoped Computability

/-! ## Writing -/

theorem Written.after_eq_ok_iff {t u : Text} {w : Written} :
    Written.after t w = (u, none) ↔ ∃ v, w = (v, none) ∧ u = t ++ v := by
  rcases w with ⟨v, failure⟩
  simp only [Written.after, Prod.mk.injEq]
  constructor
  · rintro ⟨rfl, rfl⟩
    exact ⟨v, ⟨rfl, rfl⟩, rfl⟩
  · rintro ⟨_, ⟨rfl, rfl⟩, rfl⟩
    exact ⟨rfl, rfl⟩

/-- Elements are written one after the other, each without a failure. -/
theorem Element.writeAll_eq_ok_iff {values : Multimap Text} {encode : Bool} {es : List Element}
    {path : Text} :
    Element.writeAll values encode es = (path, none) ↔
      ∃ us, List.Forall₂ (fun e u => e.write values encode = (u, none)) es us ∧
        path = us.flatten := by
  induction es generalizing path with
  | nil =>
      constructor
      · intro h
        cases h
        exact ⟨[], .nil, rfl⟩
      · rintro ⟨_, hus, rfl⟩
        cases hus
        rfl
  | cons e es ih =>
      constructor
      · intro h
        unfold writeAll at h
        split at h
        case h_1 u hu =>
          rcases Written.after_eq_ok_iff.mp h with ⟨v, hv, rfl⟩
          rcases ih.mp hv with ⟨us, hus, rfl⟩
          exact ⟨u :: us, .cons hu hus, rfl⟩
        case h_2 hfailed => exact absurd h (hfailed path)
      · rintro ⟨_, hus, rfl⟩
        cases hus with
        | @cons _ u _ us hu hus =>
            have hrest := ih.mpr ⟨us, hus, rfl⟩
            simp only [writeAll, hu]
            exact Written.after_eq_ok_iff.mpr ⟨us.flatten, hrest, rfl⟩

theorem Template.expand_eq_ok_iff {t : Template} {values : Multimap Text} {encode : Bool}
    {path : Text} :
    t.expand values encode = .ok path ↔
      Element.writeAll values encode t.elements = (path, none) := by
  rw [Template.expand]
  generalize Element.writeAll values encode t.elements = w
  rcases w with ⟨u, failure⟩
  cases failure with
  | none => simp [Written.result]
  | some e => simp [Written.result]

/-! ## Operators -/

/-- Texts of a language in a row, one for each of some things. -/
theorem flatMap_mem_kstar {α : Type} {L : Language Char} {f : α → Text} {xs : List α}
    (h : ∀ x ∈ xs, f x ∈ L) : xs.flatMap f ∈ L∗ := by
  rw [List.flatMap_def]
  refine Language.join_mem_kstar ?_
  intro u hu
  rcases List.mem_map.mp hu with ⟨x, hx, rfl⟩
  exact h x hx

/-- The texts of a language in a row come from a list of things, if each of them comes from one. -/
theorem exists_flatMap_of_mem_kstar {α : Type} {L : Language Char} {P : α → Prop} {f : α → Text}
    (hL : ∀ u ∈ L, ∃ x, P x ∧ u = f x) {t : Text} (ht : t ∈ L∗) :
    ∃ xs : List α, (∀ x ∈ xs, P x) ∧ t = xs.flatMap f := by
  obtain ⟨us, rfl, hus⟩ := Language.mem_kstar.mp ht
  clear ht
  induction us with
  | nil => exact ⟨[], by simp, rfl⟩
  | cons u us ih =>
      obtain ⟨hu, hrest⟩ := List.forall_mem_cons.mp hus
      obtain ⟨x, hx, rfl⟩ := hL u hu
      obtain ⟨xs, hxs, hflatten⟩ := ih hrest
      refine ⟨x :: xs, List.forall_mem_cons.mpr ⟨hx, hxs⟩, ?_⟩
      rw [List.flatten_cons, hflatten, List.flatMap_cons]

theorem append_mem_kstar {L : Language Char} {u v : Text} (hu : u ∈ L) (hv : v ∈ L∗) :
    u ++ v ∈ L∗ :=
  Set.mem_of_mem_of_subset (Language.append_mem_mul hu hv) (mul_kstar_le_kstar (a := L))

theorem writeValue_slashFree (x : Text) : writeValue true x ∈ slashFree :=
  Percent.slash_notMem_encode x

namespace Operator

variable {o : Operator} {values : Multimap Text} {u : Text}

theorem mem_pair {n v : Text} (hn : n ∈ o.names) (hv : '/' ∉ v) : n ++ '=' :: v ∈ o.pair := by
  refine ⟨n, hn, ?_⟩
  have happend : n ++ '=' :: v = (n ++ ['=']) ++ v := by simp
  rw [happend]
  exact Language.append_mem_mul rfl hv

/-- The pairs after the first one, each with the argument before it. -/
theorem writePairs_mem_kstar {vs : List VariableSpec} (hvs : ∀ v ∈ vs, v ∈ o.vars)
    (h : writePairs o.arg values true o.arg vs = (u, none)) : u ∈ ({o.arg} * o.pair)∗ := by
  -- A variable without a value writes no pair and no argument.
  induction vs generalizing u with
  | nil =>
      cases h
      exact Language.nil_mem_kstar _
  | cons v vs ih =>
      have hrest := fun w hw => hvs w (List.mem_cons_of_mem v hw)
      unfold writePairs at h
      split at h
      case h_1 => exact ih hrest h
      case h_2 x _ =>
        rcases Written.after_eq_ok_iff.mp h with ⟨u', hu', rfl⟩
        have hname : v.1 ∈ o.names := List.mem_map_of_mem (hvs v List.mem_cons_self)
        have hpair := mem_pair hname (writeValue_slashFree x)
        have harg : o.arg ∈ ({o.arg} : Language Char) := rfl
        have hround := append_mem_kstar (Language.append_mem_mul harg hpair) (ih hrest hu')
        simpa using hround
      case h_3 => cases h

/-- What a join writes: nothing, or pairs with the argument between them. -/
theorem writePairs_mem_join {vs : List VariableSpec} (hvs : ∀ v ∈ vs, v ∈ o.vars)
    (h : writePairs o.arg values true [] vs = (u, none)) :
    u ∈ 1 + o.pair * ({o.arg} * o.pair)∗ := by
  induction vs generalizing u with
  | nil =>
      cases h
      exact mem_one_add.mpr (.inl rfl)
  | cons v vs ih =>
      have hrest := fun w hw => hvs w (List.mem_cons_of_mem v hw)
      unfold writePairs at h
      split at h
      case h_1 => exact ih hrest h
      -- After the first pair, the argument stands before each.
      case h_2 x _ =>
        rcases Written.after_eq_ok_iff.mp h with ⟨u', hu', rfl⟩
        refine mem_one_add.mpr (.inr (Language.append_mem_mul ?_ ?_))
        · exact mem_pair (List.mem_map_of_mem (hvs v List.mem_cons_self)) (writeValue_slashFree x)
        · exact writePairs_mem_kstar hrest hu'
      case h_3 => cases h

/-- What an operator writes is one of its pieces. -/
theorem write_mem_pieces (h : o.write values true = (u, none)) : u ∈ o.pieces := by
  have hvalues : ∀ x ∈ (valuesOf o.first values).map (writeValue true), x ∈ slashFree := by
    intro x hx
    rcases List.mem_map.mp hx with ⟨y, _, rfl⟩
    exact writeValue_slashFree y
  have hafter : ∀ x ∈ slashFree, o.arg ++ x ∈ ({o.arg} * slashFree : Language Char) :=
    fun x hx => Language.append_mem_mul rfl hx
  unfold write at h
  rw [pieces, recorded]
  -- A negation or option writes its argument or nothing; the others write values without slashes.
  cases hk : o.kind with
  | negate =>
      simp only [hk, Prod.mk.injEq, and_true] at h
      refine mem_one_add.mpr ?_
      split at h
      · exact .inl h.symm
      · exact .inr h.symm
  | option =>
      simp only [hk, Prod.mk.injEq, and_true] at h
      refine mem_one_add.mpr ?_
      split at h
      · exact .inr h.symm
      · exact .inl h.symm
  | before =>
      simp only [hk, Prod.mk.injEq, and_true] at h
      rw [← h]
      exact flatMap_mem_kstar fun x hx => hafter x (hvalues x hx)
  | after =>
      simp only [hk, Prod.mk.injEq, and_true] at h
      rw [← h]
      exact flatMap_mem_kstar fun x hx => Language.append_mem_mul (hvalues x hx) rfl
  | list =>
      simp only [hk, Prod.mk.injEq, and_true] at h
      rw [← h]
      generalize (valuesOf o.first values).map (writeValue true) = written at hvalues
      cases written with
      | nil => exact Language.append_mem_mul (a := []) List.not_mem_nil (Language.nil_mem_kstar _)
      | cons x xs =>
          rw [Text.join_cons]
          refine Language.append_mem_mul (hvalues x List.mem_cons_self) (flatMap_mem_kstar ?_)
          exact fun y hy => hafter y (hvalues y (List.mem_cons_of_mem x hy))
  | join =>
      simp only [hk] at h
      exact writePairs_mem_join (fun v hv => hv) h

end Operator

/-! ## Elements and templates -/

/-- What an element writes is one of its pieces, unless it is a variable with the empty value. -/
theorem Element.write_mem_pieces {e : Element} {values : Multimap Text} {u : Text}
    (hvalue : ∀ v, e = .variable v → ∀ x, (values.getFirst? v.name).or v.default = some x → x ≠ [])
    (h : e.write values true = (u, none)) : u ∈ e.pieces := by
  cases e with
  | literal t =>
      cases h
      rfl
  | operator o => exact Operator.write_mem_pieces h
  | «variable» v =>
      rw [Element.write, Variable.write] at h
      split at h
      case h_1 x hx =>
        cases h
        exact ⟨Percent.encode_ne_nil (hvalue v rfl x hx), writeValue_slashFree x⟩
      case h_2 => cases h

theorem Element.forall₂_write_pieces {es : List Element} {values : Multimap Text} {us : List Text}
    (hvalue : ∀ v, .variable v ∈ es → ∀ x, (values.getFirst? v.name).or v.default = some x → x ≠ [])
    (h : List.Forall₂ (fun e u => e.write values true = (u, none)) es us) :
    List.Forall₂ (fun e u => u ∈ e.pieces) es us := by
  induction h with
  | nil => exact .nil
  | @cons e u es us hu hus ih =>
      refine .cons (Element.write_mem_pieces ?_ hu) (ih fun v hv => ?_)
      · rintro v rfl
        exact hvalue v List.mem_cons_self
      · exact hvalue v (List.mem_cons_of_mem e hv)

theorem Template.nil_mem_tails (es : List Element) : [] ∈ Template.tails es := by
  rw [Template.tails]
  split
  · exact List.not_mem_nil
  · exact mem_one_add.mpr (.inl rfl)

namespace Matcher

/-- What a template without constraints expands to, with escapes, the template matches, unless some
variable has the empty value. -/
theorem run_expand {text path : Text} {o : CompileOptions} {values : Multimap Text} (m : Matcher)
    (ht : (Template.compileWith text o).value = .ok m.template)
    (hfree : o.dialect = .simple → ∀ e ∈ m.template.elements, e.isConstrained = false)
    (hexpand : m.template.expand values true = .ok path)
    (hvalue : ∀ v, .variable v ∈ m.template.elements →
      ∀ x, (values.getFirst? v.name).or v.default = some x → x ≠ []) :
    (m.run path).value.1 = true := by
  rcases Template.wellFormed_of_compileWith ht with ⟨hwell, hdialect⟩
  have hplain := hwell.isPlain fun hd => hfree (hdialect.symm.trans hd)
  rcases Element.writeAll_eq_ok_iff.mp (Template.expand_eq_ok_iff.mp hexpand) with ⟨us, hus, rfl⟩
  have hpieces := Element.forall₂_write_pieces hvalue hus
  refine (hwell.isSome_search_iff hplain).mpr ⟨us, [], hpieces, Template.nil_mem_tails _, ?_⟩
  exact (List.append_nil _).symm

theorem run_expand_tags :
    ∃ t path,
      (Template.compileWith "users/\x7bid=me\x7d\x7b-prefix|/|tag\x7d".toList
        ⟨.extended, true⟩).value = .ok t ∧
      t.expand (.ofPairs [("tag".toList, "a/b".toList), ("tag".toList, [])]) true = .ok path ∧
      (t.matcher.run path).value.1 = true := by
  let values : Multimap Text := .ofPairs [("tag".toList, "a/b".toList), ("tag".toList, [])]
  let me : Variable := ⟨"id".toList, none, some "me".toList, 2⟩
  let tags : Operator := ⟨.before, ['/'], [("tag".toList, none)], 3⟩
  have hok : (Template.compileWith "users/\x7bid=me\x7d\x7b-prefix|/|tag\x7d".toList
      ⟨.extended, true⟩).value.toOption.any (fun t =>
        (t.expand values true).toOption.isSome &&
          t.elements == [.literal "users/".toList, .variable me, .operator tags]) = true := by
    decide +kernel
  rcases exists_ok_of_any hok with ⟨t, ht, htest⟩
  rcases Bool.and_eq_true_iff.mp htest with ⟨hexpand, helements⟩
  have hvalue : ∀ v, .variable v ∈ t.elements →
      ∀ x, (values.getFirst? v.name).or v.default = some x → x ≠ [] := by
    intro v hv x hx
    rw [eq_of_beq helements] at hv
    obtain rfl : v = me := by simpa using hv
    have hdefault : (values.getFirst? me.name).or me.default = some "me".toList := by
      decide +kernel
    cases hdefault.symm.trans hx
    decide
  cases hpath : t.expand values true with
  | error e => simp [hpath, Except.toOption] at hexpand
  | ok path =>
      exact ⟨t, path, ht, hpath, run_expand t.matcher ht (fun h => by cases h) hpath hvalue⟩

end Matcher
end PathTemplate
