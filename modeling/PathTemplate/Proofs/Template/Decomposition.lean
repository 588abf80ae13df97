import PathTemplate.Proofs.Template.Building
import PathTemplate.Proofs.Template.Captures

/-!
# Decomposition — a template matches the paths that its pieces make up

- `Template.tails`   : what may follow the elements of a template
- `Template.Splits`  : a path is a piece for each element and a tail
- `Template.Spans`   : patterns match one piece of an element
- `Template.framed`  : the pattern of a template around the expressions of its elements
- `Template.pieces_of_search` : what a search finds is made up of pieces
- `Template.search_of_pieces` : what is made up of pieces is found
- `Matcher.run_iff_splits`    : both for a template that compiles
-/

namespace PathTemplate

open scoped Computability

namespace Template

open Element (textOf boundariesAll)

/-- What may follow the elements: nothing, or a slash and the rest of a line.  Without elements no
slash is needed. -/
def tails (es : List Element) : Language Char :=
  if es = [] then lineFree else 1 + {['/']} * lineFree

/-- A path is a piece for each element in turn, and a tail. -/
structure Splits (es : List Element) (pieces : List Text) (tail path : Text) : Prop where
  forall₂ : List.Forall₂ (fun e u => u ∈ e.pieces) es pieces
  tail_mem : tail ∈ tails es
  path_eq : path = pieces.flatten ++ tail

theorem mem_tails_iff {es : List Element} (hes : es ≠ []) {u : Text} :
    u ∈ tails es ↔ u = [] ∨ ∃ rest, u = '/' :: rest ∧ '\n' ∉ rest := by
  rw [tails, if_neg hes, mem_one_add, Language.mem_mul]
  refine or_congr_right ?_
  constructor
  · rintro ⟨_, rfl, rest, hrest, rfl⟩
    exact ⟨rest, rfl, hrest⟩
  · rintro ⟨rest, rfl, hrest⟩
    exact ⟨['/'], rfl, rest, hrest, rfl⟩

/-- A tail is in one line. -/
theorem notMem_of_mem_tails {es : List Element} {u : Text} (hu : u ∈ tails es) : '\n' ∉ u := by
  by_cases hes : es = []
  · rw [tails, if_pos hes] at hu
    exact hu
  · rcases (mem_tails_iff hes).mp hu with rfl | ⟨rest, rfl, hrest⟩
    · exact List.not_mem_nil
    · simpa using hrest

/-! ## Elements in a row -/

/-- Whatever the patterns match is one piece of an element, which the element's group records. -/
def Spans (R : Element → Option Text → Prop) (e : Element) (ps : List Pattern) : Prop :=
  ∀ c t d, (Pattern.seqs ps).regex.Matches c t d →
    ∃ u, R e u ∧ t = e.boundaries u c.index ∧ c.Passes (u.getD []) d

variable {R : Element → Option Text → Prop} {pss : List (List Pattern)}
variable {es : List Element} {us : List (Option Text)} {c d : Cut} {t : Trace}

theorem spans_expressions (hplain : ∀ e ∈ es, e.IsPlain) :
    List.Forall₂ (Spans Element.Records) es (es.map Element.expressions) :=
  List.forall₂_map_right_iff.mpr <| List.forall₂_same.mpr fun e he _ _ _ =>
    (Element.matches_expressions_iff (hplain e he)).mp

/-- If the patterns of single elements match recorded pieces, then those of elements in a row do,
piece by piece. -/
theorem exists_pieces (hspans : List.Forall₂ (Spans R) es pss)
    (h : (Pattern.seqs pss.flatten).regex.Matches c t d) :
    ∃ us, List.Forall₂ R es us ∧ t = boundariesAll es us c.index ∧ c.Passes (textOf us) d := by
  -- Each element continues at the gap where the one before has ended.
  induction hspans generalizing c t with
  | nil =>
      rcases Regex.matches_empty_iff.mp h with ⟨rfl, rfl⟩
      exact ⟨[], .nil, rfl, Cut.Passes.refl d⟩
  | cons he _ ih =>
      rcases Pattern.matches_seqs_append_iff.mp h with ⟨c₁, t₁, t₂, hfirst, hrest, rfl⟩
      rcases he _ _ _ hfirst with ⟨u, hu, rfl, hpass⟩
      rcases ih hrest with ⟨us, hus, rfl, hpass'⟩
      refine ⟨u :: us, .cons hu hus, ?_, hpass.trans hpass'⟩
      rw [boundariesAll, hpass.index_eq]

/-- The expressions of elements without constraints match their pieces in a row. -/
theorem matches_of_pieces (hplain : ∀ e ∈ es, e.IsPlain) (h : List.Forall₂ Element.Records es us)
    (hpass : c.Passes (textOf us) d) :
    (Pattern.seqs (es.flatMap Element.expressions)).regex.Matches c
      (boundariesAll es us c.index) d := by
  induction h generalizing c with
  | nil =>
      obtain rfl : d = c := hpass.unique (Cut.Passes.refl c)
      exact .empty d
  | @cons e u es us hu hus ih =>
      rcases hpass.split with ⟨hpass, hpass'⟩
      have he := hplain e List.mem_cons_self
      have hfirst := (Element.matches_expressions_iff he).mpr ⟨u, hu, rfl, hpass⟩
      have hrest := ih (fun x hx => hplain x (List.mem_cons_of_mem e hx)) hpass'
      rw [hpass.index_eq] at hrest
      exact Pattern.matches_seqs_append_iff.mpr ⟨_, _, _, hfirst, hrest, rfl⟩

/-! ## The pattern around them -/

/-- The pattern of a template: the head with the expressions of the elements, and the tail. -/
def framed (body : List Pattern) (es : List Element) (tailGroup : Nat) : Pattern :=
  .seqs [.look .textStart, .group headGroup (.seqs body), .group tailGroup (tailExpression es),
    .look .textEnd]

theorem spells_tailExpression (es : List Element) : (tailExpression es).Spells (tails es) := by
  rw [tailExpression, tails]
  cases es with
  | nil =>
      -- The rest of a line may be empty by itself, so the option around it changes nothing.
      have hline : (1 + lineFree : Language Char) = lineFree := by
        ext u
        rw [mem_one_add]
        constructor
        · rintro (rfl | hu)
          · exact List.not_mem_nil
          · exact hu
        · exact fun hu => .inr hu
      have hspells := Pattern.Spells.lineFree.optional
      rw [hline] at hspells
      exact hspells
  | cons e es =>
      have hslash := (Pattern.Spells.single '/').seqs_pair Pattern.Spells.lineFree
      exact hslash.optional

theorem tame_tailExpression (es : List Element) : (tailExpression es).regex.Tame := by
  rw [tailExpression]
  split
  · exact Pattern.tame_optional ⟨⟨rfl, trivial⟩, trivial⟩
  · exact Pattern.tame_optional ⟨trivial, ⟨rfl, trivial⟩, trivial⟩

/-- No repetition in the pattern can go round without a character, if none in the body can. -/
theorem tame_framed {body : List Pattern} {tailGroup : Nat} (hbody : ∀ p ∈ body, p.regex.Tame) :
    (framed body es tailGroup).regex.Tame :=
  ⟨trivial, Pattern.tame_seqs_iff.mpr hbody, tame_tailExpression es, trivial⟩

/-- A match of the pattern covers the whole text: the elements, and then a tail. -/
theorem matches_framed_iff {body : List Pattern} {tailGroup : Nat} :
    (framed body es tailGroup).regex.Matches c t d ↔
      ∃ e t₁ tail, (Pattern.seqs body).regex.Matches c t₁ e ∧ tail ∈ tails es ∧
        e.Passes tail d ∧ c.before = [] ∧ d.after = [] ∧
        t = .opens headGroup c.index :: (t₁ ++ .closes headGroup e.index ::
          [.opens tailGroup e.index, .closes tailGroup (e.index + tail.length)]) := by
  have hstart : Look.textStart.holds c.gap = true ↔ c.before = [] := by
    simp [Look.holds, Cut.gap]
  have hend : Look.textEnd.holds d.gap = true ↔ d.after = [] := by
    simp [Look.holds, Cut.gap]
  -- The four parts are taken off, and put together again, one at a time.
  constructor
  · intro h
    rcases Pattern.matches_seqs_cons_iff.mp h with ⟨c₁, _, _, hlook, hrest, rfl⟩
    rcases Regex.matches_look_iff.mp hlook with ⟨rfl, rfl, hbefore⟩
    rcases Pattern.matches_seqs_cons_iff.mp hrest with ⟨e, _, _, hhead, hrest', rfl⟩
    rcases Regex.matches_group_iff.mp hhead with ⟨t₁, hbody, rfl⟩
    rcases Pattern.matches_seqs_cons_iff.mp hrest' with ⟨d₁, _, _, htail, hlook', rfl⟩
    rcases (Element.matches_group_iff (spells_tailExpression es)).mp htail with
      ⟨tail, hmem, rfl, hpass⟩
    rcases Regex.matches_look_iff.mp hlook' with ⟨rfl, rfl, hafter⟩
    exact ⟨e, t₁, tail, hbody, hmem, hpass, hstart.mp hbefore, hend.mp hafter, by simp⟩
  · rintro ⟨e, t₁, tail, hbody, hmem, hpass, hbefore, hafter, rfl⟩
    have htail := (Element.matches_group_iff (k := tailGroup) (spells_tailExpression es)).mpr
      ⟨tail, hmem, rfl, hpass⟩
    have hlook : (Pattern.seqs [.look .textEnd]).regex.Matches d [] d :=
      Regex.Matches.look (hend.mpr hafter)
    have hrest := Pattern.matches_seqs_cons_iff.mpr ⟨_, _, _, htail, hlook, rfl⟩
    have hhead := Regex.Matches.group headGroup hbody
    have hrest' := Pattern.matches_seqs_cons_iff (p := .group headGroup (.seqs body)).mpr
      ⟨_, _, _, hhead, hrest, rfl⟩
    have hlook' := Regex.Matches.look (hstart.mpr hbefore)
    have hall := Pattern.matches_seqs_cons_iff (p := .look .textStart).mpr
      ⟨_, _, _, hlook', hrest', rfl⟩
    simpa [framed] using hall

variable {path tail : Text} {tailGroup : Nat} {trace : Trace}

/-- What a search finds is made up of pieces and a tail. -/
theorem pieces_of_search (hspans : List.Forall₂ (Spans R) es pss)
    (h : (framed pss.flatten es tailGroup).regex.search path = some trace) :
    ∃ us tail, List.Forall₂ R es us ∧ tail ∈ tails es ∧ path = textOf us ++ tail ∧
      trace = matchTrace es us tail tailGroup := by
  rcases Regex.found_of_search h with ⟨c, d, rfl, hmatch⟩
  rcases matches_framed_iff.mp hmatch with ⟨e, t₁, tail, hbody, htail, hpass, hbefore, hafter, rfl⟩
  rcases exists_pieces hspans hbody with ⟨us, hus, rfl, hpass'⟩
  have hindex : c.index = 0 := by rw [Cut.index, hbefore]; rfl
  refine ⟨us, tail, hus, htail, ?_, ?_⟩
  · rw [Cut.whole, hbefore, (hpass'.trans hpass).1, hafter]
    simp
  · rw [hpass'.index_eq, hindex, Nat.zero_add]
    rfl

/-- What is made up of pieces and a tail is found. -/
theorem search_of_pieces (hplain : ∀ e ∈ es, e.IsPlain)
    (htame : ∀ p ∈ es.flatMap Element.expressions, p.regex.Tame)
    (hus : List.Forall₂ Element.Records es us) (htail : tail ∈ tails es) :
    ((patternExpression es tailGroup).regex.search (textOf us ++ tail)).isSome = true := by
  have hpass : Cut.Passes ⟨[], textOf us ++ tail⟩ (textOf us) ⟨(textOf us).reverse, tail⟩ := by
    simp [Cut.Passes]
  have hpass' : Cut.Passes ⟨(textOf us).reverse, tail⟩ tail
      ⟨tail.reverse ++ (textOf us).reverse, []⟩ := by
    simp [Cut.Passes]
  have hbody := matches_of_pieces hplain hus hpass
  have hmatch : (framed _ es tailGroup).regex.Matches _ _ _ := matches_framed_iff.mpr
    ⟨_, _, tail, hbody, htail, hpass', rfl, rfl, rfl⟩
  exact Regex.isSome_search (tame_framed htame) hmatch

/-! ## Templates that compile -/

theorem textOf_eq_flatten (us : List (Option Text)) :
    textOf us = (us.map fun u => u.getD []).flatten :=
  List.flatMap_def

/-- Recorded pieces are pieces. -/
theorem forall₂_pieces (h : List.Forall₂ Element.Records es us) :
    List.Forall₂ (fun e u => u ∈ e.pieces) es (us.map fun u => u.getD []) := by
  induction h with
  | nil => exact .nil
  | cons hu _ ih => exact .cons (Element.mem_pieces_iff.mpr ⟨_, hu, rfl⟩) ih

/-- Pieces can be recorded. -/
theorem exists_records {pieces : List Text}
    (h : List.Forall₂ (fun e u => u ∈ e.pieces) es pieces) :
    ∃ us, List.Forall₂ Element.Records es us ∧ (us.map fun u => u.getD []) = pieces := by
  induction h with
  | nil => exact ⟨[], .nil, rfl⟩
  | cons hu _ ih =>
      rcases Element.mem_pieces_iff.mp hu with ⟨piece, hpiece, rfl⟩
      rcases ih with ⟨us, hus, rfl⟩
      exact ⟨piece :: us, .cons hpiece hus, rfl⟩

theorem literalFits_of_records (h : List.Forall₂ Element.Records es us) :
    List.Forall₂ LiteralFits es us := by
  refine h.imp ?_
  rintro _ u hu s rfl
  exact hu

namespace WellFormed

variable {t : Template}

theorem tame (ht : t.WellFormed) :
    ∀ p ∈ t.elements.flatMap Element.expressions, p.regex.Tame := by
  intro p hp
  rcases List.mem_flatMap.mp hp with ⟨e, he, hp⟩
  refine Element.tame_expressions ?_ p hp
  rintro o rfl
  exact (ht.built _ he).2.arg_ne_nil

/-- What a search finds, in a template without constraints. -/
theorem records_of_search (ht : t.WellFormed) (hplain : ∀ e ∈ t.elements, e.IsPlain)
    (h : t.regex.search path = some trace) :
    ∃ us tail, List.Forall₂ Element.Records t.elements us ∧ tail ∈ tails t.elements ∧
      path = textOf us ++ tail ∧ trace = matchTrace t.elements us tail t.tailGroup := by
  rw [ht.regex_eq hplain, patternExpression, List.flatMap_def] at h
  exact pieces_of_search (spans_expressions hplain) h

/-- A template without constraints matches the paths that its pieces make up. -/
theorem isSome_search_iff (ht : t.WellFormed) (hplain : ∀ e ∈ t.elements, e.IsPlain) :
    (t.regex.search path).isSome = true ↔ ∃ pieces tail, Splits t.elements pieces tail path := by
  constructor
  · intro h
    rcases Option.isSome_iff_exists.mp h with ⟨trace, htrace⟩
    rcases ht.records_of_search hplain htrace with ⟨us, tail, hus, htail, hpath, _⟩
    exact ⟨_, tail, forall₂_pieces hus, htail, by rw [hpath, textOf_eq_flatten]⟩
  · rintro ⟨pieces, tail, hpieces, htail, rfl⟩
    rcases exists_records hpieces with ⟨us, hus, rfl⟩
    rw [ht.regex_eq hplain, ← textOf_eq_flatten]
    exact search_of_pieces hplain ht.tame hus htail

/-- The texts under the elements in a match are pieces that make up the path, with the tail. -/
theorem splits_of_search (ht : t.WellFormed) (hplain : ∀ e ∈ t.elements, e.IsPlain)
    (h : t.regex.search path = some trace) :
    ∃ tail, Splits t.elements (t.elements.map (pieceOf trace path)) tail path ∧
      trace.capture path headGroup = some ((t.elements.map (pieceOf trace path)).flatten, 0) ∧
      (trace.capture path t.tailGroup).map (·.1) = some tail := by
  rcases ht.records_of_search hplain h with ⟨us, tail, hus, htail, rfl, rfl⟩
  rw [map_pieceOf ht.numbered (literalFits_of_records hus), ← textOf_eq_flatten]
  refine ⟨tail, ⟨forall₂_pieces hus, htail, by rw [textOf_eq_flatten]⟩,
    capture_headGroup ht.numbered, ?_⟩
  rw [capture_tailGroup]
  rfl

end WellFormed
end Template

/-! ## Matchers -/

namespace Matcher

open Template (Splits headGroup pieceOf)

theorem matched_of_run {m m' : Matcher} {path : Text} (h : (m.run path).value = (true, m')) :
    ∃ trace, m.template.regex.search path = some trace ∧ m' = ⟨m.template, path, some trace⟩ := by
  rcases Prod.mk.inj h with ⟨hsome, rfl⟩
  rcases Option.isSome_iff_exists.mp hsome with ⟨trace, htrace⟩
  exact ⟨trace, htrace, by rw [htrace]⟩

theorem run_of_search {t : Template} {path : Text} {trace : Trace}
    (h : t.regex.search path = some trace) :
    (t.matcher.run path).value = (true, ⟨t, path, some trace⟩) := by
  simp [run, Template.matcher, h]

/-- A template without constraints matches a path if and only if the path is a piece for each
element and a tail.  The texts that the groups of a match hold are such pieces: they make up the
head group, and the tail group is the rest. -/
theorem run_iff_splits {text : Text} {o : CompileOptions} (m : Matcher)
    (ht : (Template.compileWith text o).value = .ok m.template)
    (hfree : o.dialect = .simple → ∀ e ∈ m.template.elements, e.isConstrained = false)
    (path : Text) :
    ((m.run path).value.1 = true ↔
        ∃ pieces tail, Splits m.template.elements pieces tail path) ∧
      ∀ m', (m.run path).value = (true, m') →
        ∃ trace head tail, m'.matched = .ok trace ∧
          Splits m.template.elements (m.template.elements.map (pieceOf trace path)) tail path ∧
          m'.groupText headGroup = .ok head ∧ m'.tail false = .ok tail ∧
          head = (m.template.elements.map (pieceOf trace path)).flatten ∧ path = head ++ tail := by
  rcases Template.wellFormed_of_compileWith ht with ⟨hwell, hdialect⟩
  have hplain := hwell.isPlain fun hd => hfree (hdialect.symm.trans hd)
  refine ⟨hwell.isSome_search_iff hplain, ?_⟩
  intro m' hrun
  rcases matched_of_run hrun with ⟨trace, htrace, rfl⟩
  rcases hwell.splits_of_search hplain htrace with ⟨tail, hsplits, hhead, htail⟩
  refine ⟨trace, _, tail, rfl, hsplits, ?_, ?_, rfl, hsplits.path_eq⟩
  · simp [groupText, matched, hhead, bind, Except.bind]
  · simp [Matcher.tail, groupText, matched, htail, bind, Except.bind, decoded]

theorem run_iff_splits_posts :
    ∃ t, (Template.compileWith "users/{id}/posts/{post}".toList {}).value = .ok t ∧
      ∃ pieces tail, Splits t.elements pieces tail "users/jo/posts/7/edit".toList := by
  let path := "users/jo/posts/7/edit".toList
  have hok : (Template.compileWith "users/{id}/posts/{post}".toList {}).value.toOption.any
      (fun t => t.elements.all (!·.isConstrained) && (t.matcher.run path).value.1) = true := by
    decide +kernel
  rcases exists_ok_of_any hok with ⟨t, ht, htest⟩
  rcases Bool.and_eq_true_iff.mp htest with ⟨hfree, hrun⟩
  have hfree' : ∀ e ∈ t.elements, e.isConstrained = false := by simpa using hfree
  exact ⟨t, ht, (run_iff_splits t.matcher ht (fun _ => hfree') path).1.mp hrun⟩

end Matcher
end PathTemplate
