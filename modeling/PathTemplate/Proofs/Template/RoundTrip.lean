import PathTemplate.Proofs.Template.Bindings
import PathTemplate.Proofs.Template.Expansion

/-!
# Round trip — a match gives back the values that were expanded

- `Template.SlashSeparated` : between any two variables stands a literal with a slash
- `Template.expandedValues` : the values that are expanded for a name
- `Splits.unique`           : the pieces of a path are determined by the path
- `Matcher.recovers_values` : matching an expanded path gives the values back
-/

namespace PathTemplate
namespace Template

/-- Between any two variables stands a literal with a slash. -/
def SlashSeparated (es : List Element) : Prop :=
  ∀ as v bs w cs, es = as ++ .variable v :: (bs ++ .variable w :: cs) →
    ∃ s, .literal s ∈ bs ∧ '/' ∈ s

namespace SlashSeparated

variable {es : List Element} {s : Text} {v : Variable}

theorem literal (h : SlashSeparated es) : SlashSeparated (.literal s :: es) := by
  intro as v bs w cs heq
  cases as with
  | nil => cases heq
  | cons a as => exact h as v bs w cs (List.cons.inj heq).2

theorem variable_literal (h : SlashSeparated es) (hs : '/' ∈ s) :
    SlashSeparated (.variable v :: .literal s :: es) := by
  intro as v bs w cs heq
  cases as with
  | nil =>
      -- The literal is the first element between the two variables.
      have hrest := (List.cons.inj heq).2
      cases bs with
      | nil => cases hrest
      | cons b bs =>
          obtain rfl : .literal s = b := (List.cons.inj hrest).1
          exact ⟨s, List.mem_cons_self, hs⟩
  | cons a as => exact h.literal as v bs w cs (List.cons.inj heq).2

theorem single (v : Variable) : SlashSeparated [.variable v] := by
  intro as v bs w cs heq
  have hlength := congrArg List.length heq
  simp at hlength
  omega

theorem of_cons {e : Element} (h : SlashSeparated (e :: es)) : SlashSeparated es := by
  rintro as v bs w cs rfl
  exact h (e :: as) v bs w cs rfl

end SlashSeparated

def valueOf (values : Multimap Text) (v : Variable) : Option Text :=
  (values.getFirst? v.name).or v.default

/-- The values that are expanded for a name, in the order of the template. -/
def expandedValues (values : Multimap Text) (name : Text) (es : List Element) : List Text :=
  es.filterMap fun
    | .variable v => if v.name = name then valueOf values v else none
    | _ => none

/-! ## Counting slashes -/

def literalSlashes : List Element → Nat
  | [] => 0
  | .literal s :: es => s.count '/' + literalSlashes es
  | _ :: es => literalSlashes es

variable {es : List Element} {us vs : List Text} {path tail : Text}

/-- All slashes in the pieces of flat elements are those of the literals. -/
theorem count_slash_flatten (hes : ∀ e ∈ es, e.IsFlat)
    (h : List.Forall₂ (fun e u => u ∈ e.pieces) es us) :
    us.flatten.count '/' = literalSlashes es := by
  induction h with
  | nil => rfl
  | @cons e u es us hu _ ih =>
      have hrest := ih fun x hx => hes x (List.mem_cons_of_mem e hx)
      have he := hes e List.mem_cons_self
      rw [List.flatten_cons, List.count_append, hrest]
      cases e with
      | literal s =>
          obtain rfl : u = s := hu
          rfl
      | «variable» | operator =>
          rw [List.count_eq_zero.mpr (he u hu), Nat.zero_add]
          rfl

/-- Where pieces alone make up the path, no tail is left. -/
theorem Splits.tail_eq_nil (hes : ∀ e ∈ es, e.IsFree) (hus : Splits es us [] path)
    (hvs : Splits es vs tail path) : tail = [] := by
  -- Both ways of cutting the path have the slashes of the literals, so the tail has none.
  have hflat : ∀ e ∈ es, e.IsFlat := fun e he => (hes e he).isFlat
  have hcount := congrArg (List.count '/') (hus.path_eq.symm.trans hvs.path_eq)
  rw [List.append_nil, List.count_append, count_slash_flatten hflat hus.forall₂,
    count_slash_flatten hflat hvs.forall₂] at hcount
  have hnone : tail.count '/' = 0 := by omega
  by_cases hnil : es = []
  · -- Without elements the tail is the path, and the path is empty.
    subst hnil
    have hpath := hus.path_eq.symm.trans hvs.path_eq
    rw [List.forall₂_nil_left_iff.mp hus.forall₂, List.forall₂_nil_left_iff.mp hvs.forall₂] at hpath
    exact hpath.symm
  · rcases (mem_tails_iff hnil).mp hvs.tail_mem with htail | ⟨rest, rfl, -⟩
    · exact htail
    · exact absurd List.mem_cons_self (List.count_eq_zero.mp hnone)

/-! ## Aligning pieces -/

def leadingText : List Element → Text
  | .literal s :: es => s ++ leadingText es
  | _ => []

/-- The pieces begin with the leading text. -/
theorem exists_flatten_eq_leadingText (h : List.Forall₂ (fun e u => u ∈ e.pieces) es us) :
    ∃ rest, us.flatten = leadingText es ++ rest := by
  induction h with
  | nil => exact ⟨[], rfl⟩
  | @cons e u es us hu _ ih =>
      cases e with
      | «variable» v => exact ⟨_, rfl⟩
      | operator o => exact ⟨_, rfl⟩
      | literal s =>
          rcases ih with ⟨rest, hrest⟩
          obtain rfl : u = s := hu
          exact ⟨rest, by rw [List.flatten_cons, hrest, leadingText, List.append_assoc]⟩

/-- Either there is no variable, or the literals before the first one are in the leading text. -/
theorem first_variable (hes : ∀ e ∈ es, e.IsFree) :
    (∀ w, .variable w ∉ es) ∨ ∃ bs w cs, es = bs ++ .variable w :: cs ∧
      ∀ s, .literal s ∈ bs → ∀ x ∈ s, x ∈ leadingText es := by
  -- The literals are collected up to the first variable, which ends the leading text.
  induction es with
  | nil => exact .inl fun w hw => by cases hw
  | cons e es ih =>
      have he := hes e List.mem_cons_self
      cases e with
      | operator o => exact he.elim
      | «variable» v => exact .inr ⟨[], v, es, rfl, fun s hs => by cases hs⟩
      | literal t =>
          rcases ih fun x hx => hes x (List.mem_cons_of_mem _ hx) with hnone | ⟨bs, w, cs, rfl, hbs⟩
          · refine .inl fun w hw => ?_
            rcases List.mem_cons.mp hw with hw | hw
            · cases hw
            · exact hnone w hw
          · refine .inr ⟨.literal t :: bs, w, cs, rfl, ?_⟩
            intro s hs x hx
            rcases List.mem_cons.mp hs with hs | hs
            · cases hs
              exact List.mem_append_left _ hx
            · exact List.mem_append_right _ (hbs s hs x hx)

/-- After a variable, the leading text has a slash unless no variable follows. -/
theorem SlashSeparated.slash_mem_leadingText {v : Variable} (h : SlashSeparated (.variable v :: es))
    (hes : ∀ e ∈ es, e.IsFree) : '/' ∈ leadingText es ∨ ∀ w, .variable w ∉ es := by
  rcases first_variable hes with hnone | ⟨bs, w, cs, hsplit, hbs⟩
  · exact .inr hnone
  · rcases h [] v bs w cs (by rw [hsplit]; rfl) with ⟨s, hs, hslash⟩
    exact .inl (hbs s hs '/' hslash)

/-- Literals alone have their own pieces only. -/
theorem pieces_unique_of_literals (hes : ∀ e ∈ es, e.IsFree) (hnone : ∀ w, .variable w ∉ es)
    (hus : List.Forall₂ (fun e u => u ∈ e.pieces) es us)
    (hvs : List.Forall₂ (fun e u => u ∈ e.pieces) es vs) : us = vs := by
  induction hus generalizing vs with
  | nil => exact (List.forall₂_nil_left_iff.mp hvs).symm
  | @cons e u es us hu _ ih =>
      cases hvs with
      | @cons _ v _ vs hv hvs =>
          have hrest := ih (fun x hx => hes x (List.mem_cons_of_mem e hx))
            (fun w hw => hnone w (List.mem_cons_of_mem e hw)) hvs
          have he := hes e List.mem_cons_self
          cases e with
          | operator o => exact he.elim
          | «variable» w => exact absurd List.mem_cons_self (hnone w)
          | literal s =>
              obtain rfl : u = s := hu
              obtain rfl : v = u := hv
              rw [hrest]

/-- Two slash-free texts before one text with a slash are equal. -/
theorem eq_of_append_slash {u v lead x y : Text} (hu : '/' ∉ u) (hv : '/' ∉ v)
    (hlead : '/' ∈ lead) (h : u ++ (lead ++ x) = v ++ (lead ++ y)) : u = v := by
  -- Up to the first slash the two texts are equal, and the slash is the one in the literal.
  rcases List.eq_append_cons_of_mem hlead with ⟨a, b, rfl, ha⟩
  have hsplit : (u ++ a) ++ '/' :: (b ++ x) = (v ++ a) ++ '/' :: (b ++ y) := by simpa using h
  have hua : '/' ∉ u ++ a := by simp [hu, ha]
  have hva : '/' ∉ v ++ a := by simp [hv, ha]
  have hprefix := congrArg (List.takeWhile (· != '/')) hsplit
  rw [(Reader.span_append_cons (Text.bne_of_notMem hua) (by decide)).1,
    (Reader.span_append_cons (Text.bne_of_notMem hva) (by decide)).1] at hprefix
  exact List.append_cancel_right hprefix

/-- With slashes between the variables, a path has at most one list of pieces. -/
theorem pieces_unique (hes : ∀ e ∈ es, e.IsFree) (hsep : SlashSeparated es)
    (hus : List.Forall₂ (fun e u => u ∈ e.pieces) es us)
    (hvs : List.Forall₂ (fun e u => u ∈ e.pieces) es vs) (h : us.flatten = vs.flatten) :
    us = vs := by
  induction hus generalizing vs with
  | nil => exact (List.forall₂_nil_left_iff.mp hvs).symm
  | @cons e u es us hu hus ih =>
      cases hvs with
      | @cons _ v _ vs hv hvs =>
          have he := hes e List.mem_cons_self
          have hes' : ∀ x ∈ es, x.IsFree := fun x hx => hes x (List.mem_cons_of_mem e hx)
          rw [List.flatten_cons, List.flatten_cons] at h
          -- The first pieces are equal, and so is what follows them.
          have hfirst : u = v := by
            cases e with
            | operator o => exact he.elim
            | literal s => exact (show u = s from hu).trans (show v = s from hv).symm
            | «variable» w =>
                rcases hsep.slash_mem_leadingText hes' with hslash | hnone
                · rcases exists_flatten_eq_leadingText hus with ⟨x, hx⟩
                  rcases exists_flatten_eq_leadingText hvs with ⟨y, hy⟩
                  rw [hx, hy] at h
                  exact eq_of_append_slash hu.2 hv.2 hslash h
                · rw [pieces_unique_of_literals hes' hnone hus hvs] at h
                  exact List.append_cancel_right h
          subst hfirst
          rw [ih hes' hsep.of_cons hvs (List.append_cancel_left h)]

/-- With slashes between the variables, a path that pieces make up is taken apart in one way. -/
theorem Splits.unique (hes : ∀ e ∈ es, e.IsFree) (hsep : SlashSeparated es)
    (hus : Splits es us [] path) (hvs : Splits es vs tail path) : vs = us ∧ tail = [] := by
  have htail := hus.tail_eq_nil hes hvs
  subst htail
  have hpath := hvs.path_eq.symm.trans hus.path_eq
  rw [List.append_nil, List.append_nil] at hpath
  exact ⟨pieces_unique hes hsep hvs.forall₂ hus.forall₂ hpath, rfl⟩

/-! ## Values -/

/-- Literals and variables with values are written. -/
theorem exists_written {values : Multimap Text} (hes : ∀ e ∈ es, e.IsFree)
    (hvalue : ∀ v, .variable v ∈ es → ∃ x, valueOf values v = some x ∧ x ≠ []) :
    ∃ us, List.Forall₂ (fun e u => e.write values true = (u, none)) es us := by
  induction es with
  | nil => exact ⟨[], .nil⟩
  | cons e es ih =>
      rcases ih (fun x hx => hes x (List.mem_cons_of_mem e hx))
        (fun v hv => hvalue v (List.mem_cons_of_mem e hv)) with ⟨us, hus⟩
      have he := hes e List.mem_cons_self
      cases e with
      | operator o => exact he.elim
      | literal s => exact ⟨s :: us, .cons rfl hus⟩
      | «variable» v =>
          rcases hvalue v List.mem_cons_self with ⟨x, hx, _⟩
          rw [valueOf] at hx
          have hwrite : (Element.variable v).write values true = (Percent.encode x, none) := by
            simp [Element.write, Variable.write, hx, writeValue]
          exact ⟨Percent.encode x :: us, .cons hwrite hus⟩

/-- A capture that is not empty has been recorded. -/
theorem capture_of_pieceOf_ne_nil {trace : Trace} {v : Variable}
    (h : pieceOf trace path (.variable v) ≠ []) :
    (trace.capture path v.group).map (·.1) = some (pieceOf trace path (.variable v)) := by
  have hpiece : pieceOf trace path (.variable v) =
      ((trace.capture path v.group).map (·.1)).getD [] := rfl
  rw [hpiece] at h ⊢
  cases hcapture : trace.capture path v.group with
  | none => simp [hcapture] at h
  | some c => rfl

/-- Variables that hold their encoded values are bound to these values. -/
theorem boundTo_eq {trace : Trace} {values : Multimap Text} {e : Element} (name : Text)
    (he : e.IsFree) (hwrite : e.write values true = (pieceOf trace path e, none))
    (hvalue : ∀ v, e = .variable v → ∃ x, valueOf values v = some x ∧ x ≠ []) :
    ((e.boundTo trace path name).filterMap id).map (Matcher.decoded true) =
      expandedValues values name [e] := by
  cases e with
  | literal s => rfl
  | operator o => exact he.elim
  | «variable» v =>
      by_cases hname : v.name = name
      · rcases hvalue v rfl with ⟨x, hx, hne⟩
        have hpiece : pieceOf trace path (.variable v) = Percent.encode x := by
          rw [Element.write, Variable.write, ← valueOf, hx] at hwrite
          exact (Prod.mk.inj hwrite).1.symm
        -- A group that took no part would have the empty text, but the value is not empty.
        have hcovered : pieceOf trace path (.variable v) ≠ [] :=
          hpiece ▸ Percent.encode_ne_nil hne
        have hcapture := capture_of_pieceOf_ne_nil hcovered
        rw [Element.boundTo, if_pos hname, hcapture, hpiece]
        simp [expandedValues, hname, hx, Matcher.decoded, Percent.decode_encode]
      · simp [Element.boundTo, expandedValues, hname]

/-- The values of a name in elements are those in each of them. -/
theorem expandedValues_eq_flatMap (values : Multimap Text) (name : Text) (es : List Element) :
    expandedValues values name es = es.flatMap fun e => expandedValues values name [e] := by
  induction es with
  | nil => rfl
  | cons e es ih =>
      have hcons : expandedValues values name (e :: es) =
          expandedValues values name [e] ++ expandedValues values name es := by
        rw [expandedValues, expandedValues, expandedValues, ← List.filterMap_append,
          List.singleton_append]
      rw [List.flatMap_cons, hcons, ih]

theorem decoded_flatMap_boundTo {trace : Trace} {values : Multimap Text} {name : Text}
    (hes : ∀ e ∈ es, e.IsFree)
    (hwrite : ∀ e ∈ es, e.write values true = (pieceOf trace path e, none))
    (hvalue : ∀ v, .variable v ∈ es → ∃ x, valueOf values v = some x ∧ x ≠ []) :
    ((es.flatMap (Element.boundTo trace path name)).filterMap id).map (Matcher.decoded true) =
      expandedValues values name es := by
  rw [expandedValues_eq_flatMap]
  induction es with
  | nil => rfl
  | cons e es ih =>
      have hfirst := boundTo_eq name (hes e List.mem_cons_self)
        (hwrite e List.mem_cons_self) (by rintro v rfl; exact hvalue v List.mem_cons_self)
      have hrest := ih (fun x hx => hes x (List.mem_cons_of_mem e hx))
        (fun x hx => hwrite x (List.mem_cons_of_mem e hx))
        (fun v hv => hvalue v (List.mem_cons_of_mem e hv))
      rw [List.flatMap_cons, List.flatMap_cons, List.filterMap_append, List.map_append, hfirst,
        hrest]

/-- What a search finds in the expansion of a template with slashes between its variables. -/
theorem WellFormed.search_expansion {t : Template} (hwell : t.WellFormed)
    (hes : ∀ e ∈ t.elements, e.IsFree) (hsep : SlashSeparated t.elements)
    {values : Multimap Text}
    (hvalue : ∀ v, .variable v ∈ t.elements → ∃ x, valueOf values v = some x ∧ x ≠ [])
    (hus : List.Forall₂ (fun e u => e.write values true = (u, none)) t.elements us) :
    ∃ trace, t.regex.search us.flatten = some trace ∧
      (∀ e ∈ t.elements, e.write values true = (pieceOf trace us.flatten e, none)) ∧
      (trace.capture us.flatten t.tailGroup).map (·.1) = some [] := by
  have hplain : ∀ e ∈ t.elements, e.IsPlain := fun e he => (hes e he).isPlain
  have hpieces := Element.forall₂_write_pieces (fun v hv x hx => by
    rcases hvalue v hv with ⟨y, hy, hne⟩
    obtain rfl : y = x := Option.some.inj (hy.symm.trans hx)
    exact hne) hus
  have hsplits : Splits t.elements us [] us.flatten :=
    ⟨hpieces, Template.nil_mem_tails _, (List.append_nil _).symm⟩
  have hfound := (hwell.isSome_search_iff hplain).mpr ⟨us, [], hsplits⟩
  rcases Option.isSome_iff_exists.mp hfound with ⟨trace, htrace⟩
  rcases hwell.splits_of_search hplain htrace with ⟨tail, hsplits', _, htail⟩
  -- The search may find another way to cut the path, but there is none.
  rcases hsplits.unique hes hsep hsplits' with ⟨heq, rfl⟩
  refine ⟨trace, htrace, ?_, htail⟩
  rw [← heq] at hus
  exact List.forall₂_same.mp (List.forall₂_map_right_iff.mp hus)

end Template

namespace Matcher

open Template (SlashSeparated valueOf expandedValues)

/-- Recovery: where a template of literals and unconstrained variables has a slash between any two
of its variables, and its variables have values that are not empty, its expansion succeeds, is
matched exactly, and gives back the values. -/
theorem recovers_values {text : Text} {o : CompileOptions} {values : Multimap Text} (m : Matcher)
    (ht : (Template.compileWith text o).value = .ok m.template)
    (hes : ∀ e ∈ m.template.elements, e.IsFree) (hsep : SlashSeparated m.template.elements)
    (hvalue : ∀ v, .variable v ∈ m.template.elements →
      ∃ x, valueOf values v = some x ∧ x ≠ []) :
    ∃ path m', m.template.expand values true = .ok path ∧ (m.run path).value = (true, m') ∧
      m'.isExact = .ok true ∧ m'.tail false = .ok [] ∧
      ∀ name, m'.values name true = .ok (expandedValues values name m.template.elements) := by
  rcases Template.wellFormed_of_compileWith ht with ⟨hwell, _⟩
  rcases Template.exists_written hes hvalue with ⟨us, hus⟩
  rcases hwell.search_expansion hes hsep hvalue hus with ⟨trace, htrace, hwrite, htail⟩
  -- The search has found the written pieces again, with nothing left for the tail.
  let m' : Matcher := ⟨m.template, us.flatten, some trace⟩
  have htail' : m'.tail false = .ok [] := by
    simp [m', Matcher.tail, groupText, matched, htail, bind, Except.bind, decoded]
  refine ⟨us.flatten, m', ?_, ?_, ?_, htail', ?_⟩
  · exact Template.expand_eq_ok_iff.mpr (Element.writeAll_eq_ok_iff.mpr ⟨us, hus, rfl⟩)
  · simp [run, htrace, m']
  · rw [isExact, htail']
    rfl
  · intro name
    have hbindings : m'.bindings = .ok (m.template.bindings trace us.flatten) := rfl
    rw [Matcher.values, hbindings]
    simp only [bind, Except.bind, Template.get_bindings hwell hes,
      Template.decoded_flatMap_boundTo hes hwrite hvalue]

theorem recovers_values_post :
    ∃ t path m', (Template.compileWith "/users/{id}/posts/{id}".toList {}).value = .ok t ∧
      t.expand (.ofPairs [("id".toList, "a/b é".toList)]) true = .ok path ∧
      (t.matcher.run path).value = (true, m') ∧
      m'.values "id".toList true = .ok ["a/b é".toList, "a/b é".toList] := by
  let values : Multimap Text := .ofPairs [("id".toList, "a/b é".toList)]
  let first : Variable := ⟨"id".toList, none, none, 2⟩
  let second : Variable := ⟨"id".toList, none, none, 3⟩
  have hok : (Template.compileWith "/users/{id}/posts/{id}".toList {}).value.toOption.any
      (fun t => t.elements == [.literal "users/".toList, .variable first,
        .literal "/posts/".toList, .variable second]) = true := by
    decide +kernel
  rcases exists_ok_of_any hok with ⟨t, ht, htest⟩
  have helements := eq_of_beq htest
  have hes : ∀ e ∈ t.elements, e.IsFree := by
    rw [helements]
    simp [Element.IsFree, first, second]
  have hsep : SlashSeparated t.elements := by
    rw [helements]
    exact .literal (.variable_literal (.single second) (by decide))
  have hvalue : ∀ v, .variable v ∈ t.elements → ∃ x, valueOf values v = some x ∧ x ≠ [] := by
    rw [helements]
    intro v hv
    refine ⟨"a/b é".toList, ?_, by decide⟩
    simp only [List.mem_cons, List.not_mem_nil, or_false, Element.variable.injEq, reduceCtorEq,
      false_or] at hv
    rcases hv with rfl | rfl
    · decide
    · decide
  rcases recovers_values t.matcher ht hes hsep hvalue with ⟨path, m', hpath, hrun, _, _, hvalues⟩
  refine ⟨t, path, m', ht, hpath, hrun, ?_⟩
  rw [hvalues, Template.matcher, helements]
  decide

end Matcher
end PathTemplate
