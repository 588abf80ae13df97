import PathTemplate.Proofs.Template.OperatorValues
import PathTemplate.Proofs.Template.PathOperators
import PathTemplate.Proofs.Template.RoundTrip

/-!
# Sub-resources — what a template makes of the paths below those it matches

A template hands on what stands below a matched path as a tail.  A tail is the rest of a line, so
below a line feed only a path operator at the end can help.

- `HasNoSlash`         : a language without slashes
- `Operator.isFlat`    : an operator without a slash in its argument covers no slash
- `Splits.extend`      : a longer path is made up of the same pieces and a longer tail
- `Splits.extend_last` : or of a longer last piece, if that is one of a path operator
- `Splits.below`       : if no element covers a slash but literals, there is no other way
- `Matcher.run_below`  : which paths below a matched path are matched
-/

namespace PathTemplate

open scoped Computability

/-! ## Elements that cover no slash -/

def HasNoSlash (L : Language Char) : Prop := ∀ u ∈ L, '/' ∉ u

namespace HasNoSlash

variable {L M : Language Char}

theorem slashFree : HasNoSlash PathTemplate.slashFree := fun _ hu => hu

theorem singleton {t : Text} (ht : '/' ∉ t) : HasNoSlash {t} := by
  rintro _ rfl
  exact ht

theorem mul (hL : HasNoSlash L) (hM : HasNoSlash M) : HasNoSlash (L * M) := by
  intro w hw
  rcases Language.mem_mul.mp hw with ⟨u, hu, v, hv, rfl⟩
  intro hmem
  rcases List.mem_append.mp hmem with hmem | hmem
  · exact hL u hu hmem
  · exact hM v hv hmem

theorem kstar (hL : HasNoSlash L) : HasNoSlash L∗ := by
  intro w hw
  rcases Language.mem_kstar.mp hw with ⟨us, rfl, hus⟩
  intro hmem
  rcases List.mem_flatten.mp hmem with ⟨u, hu, hslash⟩
  exact hL u (hus u hu) hslash

end HasNoSlash

namespace Operator

variable {o : Operator}

/-- Without a slash in its argument and its names, an operator records none. -/
theorem hasNoSlash_recorded (harg : '/' ∉ o.arg) (hnames : ∀ n ∈ o.names, '/' ∉ n) :
    HasNoSlash o.recorded := by
  have hsep : HasNoSlash {o.arg} := .singleton harg
  have hvalue : HasNoSlash slashFree := .slashFree
  have hpair : HasNoSlash o.pair := by
    rintro w ⟨n, hn, hw⟩
    have hname : '/' ∉ n ++ ['='] := by simp [hnames n hn]
    exact HasNoSlash.mul (.singleton hname) hvalue w hw
  rw [recorded]
  cases o.kind with
  | negate | option => exact hsep
  | before => exact (hsep.mul hvalue).kstar
  | after => exact (hvalue.mul hsep).kstar
  | list => exact hvalue.mul (hsep.mul hvalue).kstar
  | join => exact hpair.mul (hsep.mul hpair).kstar

theorem isFlat (harg : '/' ∉ o.arg) (hnames : ∀ n ∈ o.names, '/' ∉ n) :
    (Element.operator o).IsFlat := by
  intro u hu
  rcases Element.mem_pieces_iff.mp hu with ⟨piece, hpiece | ⟨x, hx, rfl⟩, rfl⟩
  · rw [hpiece.2]
    exact List.not_mem_nil
  · exact hasNoSlash_recorded harg hnames x hx

/-- Any text is its values with slashes between them. -/
theorem mem_values (w : Text) : w ∈ slashFree * ({['/']} * slashFree : Language Char)∗ := by
  obtain ⟨v, vs, hsplit⟩ := List.exists_cons_of_ne_nil (Text.split_ne_nil '/' w)
  have hvalues : ∀ x ∈ v :: vs, x ∈ slashFree :=
    fun x hx => Text.notMem_of_mem_split (hsplit ▸ hx)
  rw [← Text.join_split '/' w, hsplit, Text.join_cons]
  refine Language.append_mem_mul (hvalues v List.mem_cons_self) (flatMap_mem_kstar ?_)
  exact fun x hx => Language.append_mem_mul rfl (hvalues x (List.mem_cons_of_mem v hx))

/-- A path operator covers what goes on with a slash where its own text ends. -/
theorem OfPath.append_mem (ho : o.OfPath) {u : Text} (hu : u ∈ (Element.operator o).pieces)
    (s : Text) : u ++ '/' :: s ∈ (Element.operator o).pieces := by
  change u ∈ o.pieces at hu
  change _ ∈ o.pieces
  rcases ho with ⟨hkind | hkind, harg⟩
  · simp only [pieces, OperatorKind.mayBeAbsent, recorded, hkind, harg] at hu ⊢
    -- The values of what follows the slash are put behind those of the operator's own text.
    obtain ⟨v, hv, w, hw, hvalues⟩ := Language.mem_mul.mp (mem_values s)
    have hround : '/' :: s ∈ ({['/']} * slashFree : Language Char)∗ := by
      rw [← hvalues]
      exact append_mem_kstar (L := {['/']} * slashFree) (Language.append_mem_mul rfl hv) hw
    rcases Language.mem_kstar.mp hu with ⟨us, rfl, hus⟩
    rcases Language.mem_kstar.mp hround with ⟨vs, hvs, hvs'⟩
    rw [hvs, ← List.flatten_append]
    exact Language.join_mem_kstar (List.forall_mem_append.mpr ⟨hus, hvs'⟩)
  · simp only [pieces, OperatorKind.mayBeAbsent, recorded, hkind, harg]
    exact mem_values _

end Operator

namespace Template

variable {es : List Element} {us vs : List Text} {path tail tail' s : Text}

/-! ## Longer paths -/

/-- Below a path that is made up of pieces and a tail, the tail is longer. -/
theorem Splits.extend (hes : es ≠ []) (h : Splits es us tail path) (hs : '\n' ∉ s) :
    Splits es us (tail ++ '/' :: s) (path ++ '/' :: s) := by
  refine ⟨h.forall₂, (mem_tails_iff hes).mpr ?_, by rw [h.path_eq, List.append_assoc]⟩
  rcases (mem_tails_iff hes).mp h.tail_mem with rfl | ⟨rest, rfl, hrest⟩
  · exact .inr ⟨s, rfl, hs⟩
  · exact .inr ⟨rest ++ '/' :: s, rfl, by simp [hrest, hs]⟩

/-- What stands below a path begins with a slash where the pieces end. -/
theorem Splits.exists_slash (hes : es ≠ []) (h : Splits es us tail path) (s : Text) :
    ∃ rest, tail ++ '/' :: s = '/' :: rest := by
  rcases (mem_tails_iff hes).mp h.tail_mem with rfl | ⟨rest, rfl, -⟩
  · exact ⟨s, rfl⟩
  · exact ⟨rest ++ '/' :: s, rfl⟩

/-- The last of some pieces can be longer if it is that of a path operator. -/
theorem exists_longer_last {o : Operator} (ho : o.OfPath)
    (h : List.Forall₂ (fun e u => u ∈ e.pieces) (es ++ [.operator o]) us) (s : Text) :
    ∃ vs, List.Forall₂ (fun e v => v ∈ e.pieces) (es ++ [.operator o]) vs ∧
      vs.flatten = us.flatten ++ '/' :: s := by
  induction es generalizing us with
  | nil =>
      obtain ⟨u, _, hu, hnil, rfl⟩ := List.forall₂_cons_left_iff.mp h
      cases hnil
      exact ⟨[u ++ '/' :: s], .cons (ho.append_mem hu s) .nil, by simp⟩
  | cons e es ih =>
      obtain ⟨u, us, hu, hus, rfl⟩ := List.forall₂_cons_left_iff.mp h
      obtain ⟨vs, hvs, hflatten⟩ := ih hus
      exact ⟨u :: vs, .cons hu hvs, by simp [hflatten]⟩

/-- Where the last element is a path operator, it can cover what stands below. -/
theorem Splits.extend_last {o : Operator} (hlast : es.getLast? = some (.operator o))
    (ho : o.OfPath) (h : Splits es us tail path) (s : Text) :
    ∃ vs, Splits es vs [] (path ++ '/' :: s) := by
  obtain ⟨es, rfl⟩ := List.getLast?_eq_some_iff.mp hlast
  have hes : es ++ [.operator o] ≠ [] := by simp
  obtain ⟨rest, hrest⟩ := h.exists_slash hes s
  obtain ⟨vs, hvs, hflatten⟩ := exists_longer_last ho h.forall₂ rest
  refine ⟨vs, hvs, (mem_tails_iff hes).mpr (.inl rfl), ?_⟩
  rw [h.path_eq, List.append_assoc, hrest, hflatten, List.append_nil]

/-- Two cuts of a text at a character, with as many of these before each, are the same. -/
theorem eq_of_count_eq {a b x y : Text} {c : Char} (hcount : a.count c = b.count c)
    (h : a ++ c :: x = b ++ c :: y) : a = b := by
  -- If one cut were further right, the character would stand once more before it.
  rcases List.append_eq_append_iff.mp h with ⟨w, rfl, hw⟩ | ⟨w, rfl, hw⟩
  · cases w with
    | nil => rw [List.append_nil]
    | cons d w =>
        obtain ⟨rfl, -⟩ := List.cons.inj hw
        rw [List.count_append, List.count_cons_self] at hcount
        omega
  · cases w with
    | nil => rw [List.append_nil]
    | cons d w =>
        obtain ⟨rfl, -⟩ := List.cons.inj hw
        rw [List.count_append, List.count_cons_self] at hcount
        omega

/-- If no element covers a slash but literals, what stands below a path can only be in the tail. -/
theorem Splits.below (hes : es ≠ []) (hflat : ∀ e ∈ es, e.IsFlat) (hus : Splits es us tail path)
    (hvs : Splits es vs tail' (path ++ '/' :: s)) :
    vs.flatten = us.flatten ∧ tail' = tail ++ '/' :: s := by
  have hcount : vs.flatten.count '/' = us.flatten.count '/' :=
    (count_slash_flatten hflat hvs.forall₂).trans (count_slash_flatten hflat hus.forall₂).symm
  obtain ⟨rest, hrest⟩ := hus.exists_slash hes s
  have hpath : vs.flatten ++ tail' = us.flatten ++ (tail ++ '/' :: s) := by
    rw [← hvs.path_eq, hus.path_eq, List.append_assoc]
  have hsame : vs.flatten = us.flatten := by
    rw [hrest] at hpath
    rcases (mem_tails_iff hes).mp hvs.tail_mem with rfl | ⟨rest', rfl, -⟩
    · -- Without a tail the slash would be covered by an element.
      have hslashes := congrArg (List.count '/') hpath
      rw [List.append_nil, List.count_append, List.count_cons_self] at hslashes
      omega
    · exact eq_of_count_eq hcount hpath
  rw [hsame] at hpath
  exact ⟨hsame, List.append_cancel_left hpath⟩

/-- Without slashes in the arguments of operators, no element covers a slash but literals. -/
theorem isFlat_of_compileWith {text : Text} {opts : CompileOptions} {t : Template}
    (ht : (compileWith text opts).value = .ok t)
    (hargs : ∀ o, .operator o ∈ t.elements → '/' ∉ o.arg) : ∀ e ∈ t.elements, e.IsFlat := by
  intro e he
  cases e with
  | literal s => trivial
  | «variable» v => exact fun u hu => hu.2
  | operator o =>
      exact o.isFlat (hargs o he) fun n hn => (isName_of_mem_names ht he hn).notMem (by decide)

end Template

/-! ## Matchers -/

namespace Matcher

open Template (Splits headGroup)

theorem exists_run {m : Matcher} {path : Text} (h : (m.run path).value.1 = true) :
    ∃ m', (m.run path).value = (true, m') :=
  ⟨_, Prod.ext h rfl⟩

/-- What a match says about its path, in a template without constraints. -/
theorem splits_of_run {m m' : Matcher} (hwell : m.template.WellFormed)
    (hplain : ∀ e ∈ m.template.elements, e.IsPlain) {path : Text}
    (hrun : (m.run path).value = (true, m')) :
    ∃ us tail, Splits m.template.elements us tail path ∧
      m'.groupText headGroup = .ok us.flatten ∧ m'.tail false = .ok tail := by
  rcases matched_of_run hrun with ⟨trace, htrace, rfl⟩
  rcases hwell.splits_of_search hplain htrace with ⟨tail, hsplits, hhead, htail⟩
  refine ⟨_, tail, hsplits, ?_, ?_⟩
  · simp [groupText, matched, hhead, bind, Except.bind]
  · simp [Matcher.tail, groupText, matched, htail, bind, Except.bind, decoded]

/-- Below a path that a template matches it matches every path whose added part is in one line; and
every path at all if its last element is a path operator.  If no operator has a slash in its
argument, it matches no others, and what stands below is handed on with the tail. -/
theorem run_below {text : Text} {opts : CompileOptions} (m : Matcher)
    (ht : (Template.compileWith text opts).value = .ok m.template)
    (hfree : opts.dialect = .simple → ∀ e ∈ m.template.elements, e.isConstrained = false)
    (hes : m.template.elements ≠ []) {path : Text} {m' : Matcher}
    (hrun : (m.run path).value = (true, m')) (s : Text) :
    ('\n' ∉ s ∨ (∃ o, m.template.elements.getLast? = some (.operator o) ∧ o.OfPath) →
        (m.run (path ++ '/' :: s)).value.1 = true) ∧
      ((∀ o, .operator o ∈ m.template.elements → '/' ∉ o.arg) →
        ((m.run (path ++ '/' :: s)).value.1 = true ↔ '\n' ∉ s) ∧
        ∀ m'', (m.run (path ++ '/' :: s)).value = (true, m'') →
          ∃ head tail, m'.groupText headGroup = .ok head ∧ m'.tail false = .ok tail ∧
            m''.groupText headGroup = .ok head ∧ m''.tail false = .ok (tail ++ '/' :: s)) := by
  rcases Template.wellFormed_of_compileWith ht with ⟨hwell, hdialect⟩
  have hplain := hwell.isPlain fun hd => hfree (hdialect.symm.trans hd)
  have hmatches : ∀ path, (m.run path).value.1 = true ↔
      ∃ pieces tail, Splits m.template.elements pieces tail path :=
    fun path => hwell.isSome_search_iff hplain
  rcases splits_of_run hwell hplain hrun with ⟨us, tail, hus, hhead, htail⟩
  refine ⟨?_, fun hargs => ?_⟩
  -- The tail takes what stands below, or else the last operator does.
  · rintro (hs | ⟨o, hlast, ho⟩)
    · exact (hmatches _).mpr ⟨us, _, hus.extend hes hs⟩
    · obtain ⟨vs, hvs⟩ := hus.extend_last hlast ho s
      exact (hmatches _).mpr ⟨vs, [], hvs⟩
  · have hflat := Template.isFlat_of_compileWith ht hargs
    refine ⟨⟨?_, fun hs => (hmatches _).mpr ⟨us, _, hus.extend hes hs⟩⟩, ?_⟩
    -- Whatever the match is, the line feed stands in its tail, which has none.
    · intro hmatch hs
      rcases (hmatches _).mp hmatch with ⟨vs, tail', hvs⟩
      have hline := Template.notMem_of_mem_tails hvs.tail_mem
      rw [(hus.below hes hflat hvs).2] at hline
      exact hline (List.mem_append_right tail (List.mem_cons_of_mem '/' hs))
    · intro m'' hrun''
      rcases splits_of_run hwell hplain hrun'' with ⟨vs, tail', hvs, hhead', htail'⟩
      rcases hus.below hes hflat hvs with ⟨hsame, rfl⟩
      exact ⟨us.flatten, tail, hhead, htail, hsame ▸ hhead', htail'⟩

theorem run_below_user :
    ∃ t m' m'', (Template.compileWith "users/{id}".toList {}).value = .ok t ∧
      (t.matcher.run "users/5".toList).value = (true, m') ∧ m'.tail false = .ok [] ∧
      (t.matcher.run ("users/5".toList ++ '/' :: "posts/7".toList)).value = (true, m'') ∧
      m''.tail false = .ok "/posts/7".toList := by
  let path := "users/5".toList
  have hok : (Template.compileWith "users/{id}".toList {}).value.toOption.any (fun t =>
      t.elements == [.literal "users/".toList, .variable ⟨"id".toList, none, none, 2⟩] &&
        (t.regex.search path).any fun trace =>
          (tail ⟨t, path, some trace⟩ false).toOption == some []) = true := by
    decide +kernel
  rcases exists_ok_of_any hok with ⟨t, ht, htest⟩
  rcases Bool.and_eq_true_iff.mp htest with ⟨helements, hsearch⟩
  replace helements := eq_of_beq helements
  rcases Option.any_eq_true _ _ |>.mp hsearch with ⟨trace, htrace, hnil⟩
  have hrun := run_of_search htrace
  have hfree : ∀ e ∈ t.matcher.template.elements, e.isConstrained = false := by
    rw [Template.matcher, helements]
    decide
  have hes : t.matcher.template.elements ≠ [] := by
    rw [Template.matcher, helements]
    exact List.cons_ne_nil _ _
  have hargs : ∀ o, .operator o ∈ t.matcher.template.elements → '/' ∉ o.arg := by
    rw [Template.matcher, helements]
    simp
  rcases run_below t.matcher ht (fun _ => hfree) hes hrun "posts/7".toList with ⟨hbelow, hflat⟩
  rcases exists_run (hbelow (.inl (by decide))) with ⟨m'', hrun''⟩
  rcases (hflat hargs).2 m'' hrun'' with ⟨head, tail, -, htail, -, htail'⟩
  have hsame := eq_of_beq hnil
  rw [htail] at hsame
  obtain rfl : tail = [] := Option.some.inj hsame
  exact ⟨t, _, m'', ht, hrun, htail, hrun'', htail'⟩

/-- A path below another one, with a line feed in it. -/
theorem run_below_lineFeed :
    ∃ t, (Template.compileWith "users/{id}".toList {}).value = .ok t ∧
      t.elements ≠ [] ∧ (∀ e ∈ t.elements, e.isConstrained = false) ∧
      (t.matcher.run "users/5".toList).value.1 = true ∧
      (t.matcher.run ("users/5".toList ++ '/' :: "a\nb".toList)).value.1 = false := by
  have hok : (Template.compileWith "users/{id}".toList {}).value.toOption.any (fun t =>
      !t.elements.isEmpty && t.elements.all (!·.isConstrained) &&
        (t.matcher.run "users/5".toList).value.1 &&
        !(t.matcher.run ("users/5".toList ++ '/' :: "a\nb".toList)).value.1) = true := by
    decide +kernel
  rcases exists_ok_of_any hok with ⟨t, ht, htest⟩
  simp only [Bool.and_eq_true, Bool.not_eq_true', List.isEmpty_eq_false_iff, List.all_eq_true]
    at htest
  rcases htest with ⟨⟨⟨hne, hfree⟩, hrun⟩, hbelow⟩
  exact ⟨t, ht, hne, hfree, hrun, hbelow⟩

end Matcher
end PathTemplate
