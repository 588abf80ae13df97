import PathTemplate.Proofs.Part.SimpleGrammar

/-!
# Expressions — what a template text has between braces, and around them

- `Part.Spells`       : the texts that spell an expression of a dialect
- `Parsed.ofText?_eq_ok_iff_speltBy` : a text is taken apart into the parts that it spells
- `Parsed.literals`   : the literal runs of a template text
- `Parsed.SpeltBy.append_plain` : text without braces behind a template text
- `Parsed.SpeltBy.endsWith_eq` : a template text ends as its last literal run does
- `depth`             : how many braces are open at the end of a text
- `HasExpressions`    : the expressions of a template text, each with its spelling
- `HasExpressions.cut`, `HasExpressions.append` : where no brace is open, a text can be cut

Between its braces an expression has pairs of braces at most, so that the last of its characters is
the first one behind which no brace is open.
-/

namespace PathTemplate

/-- The texts that spell an expression, from behind its opening brace to its closing one. -/
def Part.Spells : Dialect → Part → Text → Prop
  | .simple => SpellsSimple
  | .extended => Reader.SpellsExtended

def Part.literal? : Part → Option Text
  | .literal t => some t
  | .variable .. => none
  | .operator .. => none

/-- The literal runs: those in front of expressions, and the one behind the last. -/
def Parsed.literals (p : Parsed) : List Text := p.parts.filterMap Part.literal? ++ [p.trailing]

variable {d : Dialect} {p : Parsed} {q : Part} {s t r : Text}

theorem Reader.expression_eq_ok_iff :
    Reader.expression d t = .ok (q, r) ↔ ∃ s, q.Spells d s ∧ t = s ++ r := by
  cases d with
  | simple => exact Reader.simpleVariable_eq_ok_iff
  | extended => exact Reader.extendedExpression_eq_ok_iff

/-- A text is taken apart into the parts that it spells. -/
theorem Parsed.ofText?_eq_ok_iff_speltBy :
    ofText? d t = .ok p ↔ p.SpeltBy (Part.Spells d) t :=
  calc
    ofText? d t = .ok p ↔ Reader.template d t = .ok p := ofText?_eq_ok_iff
    _ ↔ p.SpeltBy (Part.Spells d) t := Reader.template_eq_ok_iff Reader.expression_eq_ok_iff

/-! ## Between braces -/

section

variable {accept : Char → Bool} {c : Char} {v : VariableSpec}

theorem isLiteralChar_of_accept (hopen : accept '{' = false) (hclose : accept '}' = false)
    (h : accept c = true) : Reader.isLiteralChar c = true := by
  refine isLiteralChar_iff.mpr ⟨?_, ?_⟩
  · rintro rfl
    exact Bool.noConfusion (hopen.symm.trans h)
  · rintro rfl
    exact Bool.noConfusion (hclose.symm.trans h)

theorem Escaped.literal (hopen : accept '{' = false) (hclose : accept '}' = false)
    (h : Escaped accept t) : ∀ c ∈ t, Reader.isLiteralChar c = true := by
  induction h with
  | nil => exact fun c hc => by cases hc
  | plain hc _ ih =>
      exact List.forall_mem_cons.mpr ⟨isLiteralChar_of_accept hopen hclose hc, ih⟩
  | escape hh hl _ ih =>
      have hdigit : ∀ {c}, Percent.isHexDigit c = true → Reader.isLiteralChar c = true :=
        isLiteralChar_of_accept (by decide) (by decide)
      exact List.forall_mem_cons.mpr ⟨by decide, List.forall_mem_cons.mpr ⟨hdigit hh,
        List.forall_mem_cons.mpr ⟨hdigit hl, ih⟩⟩⟩

theorem IsName.literal (h : IsName t) : ∀ c ∈ t, Reader.isLiteralChar c = true := by
  cases t with
  | nil => cases h
  | cons c t =>
      refine List.forall_mem_cons.mpr ⟨isLiteralChar_of_accept (by decide) (by decide) h.1, ?_⟩
      intro d hd
      exact isLiteralChar_of_accept (by decide) (by decide) (h.2 d hd)

theorem VariableSpec.IsSpec.literal (h : v.IsSpec) :
    ∀ c ∈ v.render, Reader.isLiteralChar c = true := by
  rw [VariableSpec.render]
  refine List.forall_mem_append.mpr ⟨h.name.literal, ?_⟩
  cases hd : v.2 with
  | none => exact fun c hc => by cases hc
  | some d =>
      have hdefault := (h.default d hd).literal (by decide) (by decide)
      exact List.forall_mem_cons.mpr ⟨by decide, hdefault⟩

theorem literal_join {ps : List Text} (h : ∀ p ∈ ps, ∀ c ∈ p, Reader.isLiteralChar c = true) :
    ∀ c ∈ Text.join [','] ps, Reader.isLiteralChar c = true := by
  induction ps with
  | nil => exact fun c hc => by cases hc
  | cons p ps ih =>
      obtain ⟨hp, hps⟩ := List.forall_mem_cons.mp h
      cases ps with
      | nil => exact hp
      | cons q ps =>
          have hcomma : ∀ c ∈ [','], Reader.isLiteralChar c = true :=
            List.forall_mem_singleton.mpr (by decide)
          rw [Text.join]
          exact List.forall_mem_append.mpr ⟨List.forall_mem_append.mpr ⟨hp, hcomma⟩, ih hps⟩

/-- There are no braces between those of an expression of the extended dialect. -/
theorem literal_of_isExtended (h : q.IsExtended) :
    ∃ u, q.render = '{' :: (u ++ ['}']) ∧ ∀ c ∈ u, Reader.isLiteralChar c = true := by
  cases h with
  | @named v hspec => exact ⟨v.render, Reader.render_named v, hspec.literal⟩
  | @operator name arg vars _ hletters harg _ hspecs =>
      refine ⟨_, Reader.render_operator name arg vars, ?_⟩
      have hname : ∀ c ∈ name, Reader.isLiteralChar c = true := by
        intro c hc
        have hopen : Char.isAlpha '{' = false := by decide
        exact isLiteralChar_of_accept hopen (by decide) (hletters c hc)
      have hvars : ∀ c ∈ Text.join [','] (vars.map VariableSpec.render),
          Reader.isLiteralChar c = true := by
        refine literal_join fun p hp => ?_
        obtain ⟨v, hv, rfl⟩ := List.mem_map.mp hp
        exact (hspecs v hv).literal
      rw [Reader.operatorText]
      simp only [List.forall_mem_cons, List.forall_mem_append]
      exact ⟨by decide, hname, by decide, harg.literal (by decide) (by decide), by decide, hvars⟩

end

/-- Between the braces of an expression stands text with pairs of braces at most. -/
theorem Part.Spells.exists_balanced (h : q.Spells d s) : ∃ u, Balanced u ∧ s = u ++ ['}'] := by
  cases d with
  | simple =>
      cases h with
      | @named w n w' s constraint hw hn hw' hs =>
          refine ⟨_, ?_, rfl⟩
          refine ((Balanced.of_blanks hw).append (.of_literal hn.literal)).append
            (.of_blanks hw') |>.append ?_
          cases hs with
          | absent => exact .nil
          | present hv hr hv' =>
              exact .plain (by decide) (((Balanced.of_blanks hv).append hr).append (.of_blanks hv'))
  | extended =>
      obtain ⟨u, hu, hliteral⟩ := literal_of_isExtended h.1
      exact ⟨u, .of_literal hliteral, (List.cons.inj (h.2.symm.trans hu)).2⟩

/-! ## The ends of a text -/

/-- In front of the last literal run stands nothing, or an expression. -/
theorem Parsed.SpeltBy.exists_eq_append (h : p.SpeltBy (Part.Spells d) t) :
    ∃ u, t = u ++ p.trailing ∧ (u = [] ∨ u.getLast? = some '}') := by
  induction h with
  | trailing => exact ⟨[], rfl, .inl rfl⟩
  | @expression lit s t q p _ hs _ ih =>
      obtain ⟨u, rfl, hu⟩ := ih
      obtain ⟨s', -, rfl⟩ := hs.exists_balanced
      refine ⟨lit ++ '{' :: (s' ++ '}' :: u), by simp, .inr ?_⟩
      rcases hu with rfl | hu
      · simp [List.getLast?_cons]
      · simp [List.getLast?_cons, hu]

/-- Text without braces behind a template text belongs to its last literal run. -/
theorem Parsed.SpeltBy.append_plain {Spells : Part → Text → Prop} (h : p.SpeltBy Spells t)
    (hs : ∀ c ∈ s, Reader.isLiteralChar c = true) :
    ({ p with trailing := p.trailing ++ s } : Parsed).SpeltBy Spells (t ++ s) := by
  induction h with
  | trailing hplain => exact .trailing (List.forall_mem_append.mpr ⟨hplain, hs⟩)
  | @expression lit u t q p hplain hu _ ih =>
      rw [List.append_assoc, List.cons_append, List.append_assoc]
      exact .expression hplain hu ih

/-- A template text ends with a slash if its last literal run does. -/
theorem Parsed.SpeltBy.endsWith_eq (h : p.SpeltBy (Part.Spells d) t) :
    t.endsWith '/' = Text.endsWith '/' p.trailing := by
  obtain ⟨u, rfl, hu⟩ := h.exists_eq_append
  cases htrailing : p.trailing with
  | cons c rest => simp [Text.endsWith, List.getLast?_append]
  | nil =>
      rcases hu with rfl | hu
      · rfl
      · simp [Text.endsWith, hu]

/-! ## Open braces -/

/-- How many braces are open at the end of a text, negative if more are closed than opened. -/
def depth (t : Text) : Int := t.count '{' - t.count '}'

theorem depth_append (s t : Text) : depth (s ++ t) = depth s + depth t := by
  simp only [depth, List.count_append]
  omega

theorem depth_literal (h : ∀ c ∈ t, Reader.isLiteralChar c = true) : depth t = 0 := by
  have hopen : '{' ∉ t := fun hmem => absurd (h _ hmem) (by decide)
  have hclose : '}' ∉ t := fun hmem => absurd (h _ hmem) (by decide)
  rw [depth, List.count_eq_zero_of_not_mem hopen, List.count_eq_zero_of_not_mem hclose]
  rfl

theorem depth_open (t : Text) : depth ('{' :: t) = depth t + 1 := by
  simp only [depth, List.count_cons]
  simp
  omega

theorem depth_close (t : Text) : depth ('}' :: t) = depth t - 1 := by
  simp only [depth, List.count_cons]
  simp
  omega

/-- Pairs of braces are closed at the end, and nowhere more are closed than opened. -/
theorem Balanced.depth_eq (h : Balanced s) :
    depth s = 0 ∧ ∀ u v, s = u ++ v → 0 ≤ depth u := by
  induction h with
  | nil =>
      refine ⟨rfl, fun u v huv => ?_⟩
      obtain ⟨rfl, -⟩ := List.append_eq_nil_iff.mp huv.symm
      exact Int.le_refl 0
  | @plain c t hc _ ih =>
      have hcons : ∀ u, depth (c :: u) = depth u := by
        intro u
        have hliteral : depth [c] = 0 := depth_literal (by simpa using hc)
        rw [← List.singleton_append, depth_append, hliteral, Int.zero_add]
      refine ⟨(hcons t).trans ih.1, fun u v huv => ?_⟩
      rcases List.cons_eq_append_iff.mp huv with ⟨rfl, -⟩ | ⟨u, rfl, hu⟩
      · exact Int.le_refl 0
      · rw [hcons]
        exact ih.2 u v hu
  | @braces s t hs _ ih =>
      have hinner : depth s = 0 := depth_literal hs
      constructor
      · rw [depth_open, depth_append, depth_close, hinner, ih.1]
        rfl
      · intro u v huv
        rcases List.cons_eq_append_iff.mp huv with ⟨rfl, -⟩ | ⟨u, rfl, hu⟩
        · exact Int.le_refl 0
        -- The text ends inside of the pair, or behind it.
        · rcases List.append_eq_append_iff.mp hu with ⟨w, rfl, hw⟩ | ⟨w, hs', -⟩
          · rcases List.cons_eq_append_iff.mp hw with ⟨rfl, -⟩ | ⟨w, rfl, hw⟩
            · rw [depth_open, List.append_nil, hinner]
              decide
            · have := ih.2 w v (List.cons.inj hw).2
              rw [depth_open, depth_append, depth_close, hinner]
              omega
          · have hplain : depth u = 0 := depth_literal fun c hc => by
              exact hs c (hs' ▸ List.mem_append_left w hc)
            rw [depth_open, hplain]
            decide

/-- The closing brace of an expression is the first that closes its opening brace. -/
theorem Part.Spells.depth_eq (h : q.Spells d s) :
    depth s = -1 ∧ ∀ u v, s = u ++ v → v ≠ [] → 0 ≤ depth u := by
  obtain ⟨w, hw, rfl⟩ := h.exists_balanced
  obtain ⟨hall, hpart⟩ := hw.depth_eq
  constructor
  · rw [depth_append, hall]
    rfl
  · intro u v huv hv
    obtain ⟨v, c, rfl⟩ := (List.eq_nil_or_concat v).resolve_left hv
    rw [List.concat_eq_append, ← List.append_assoc] at huv
    exact hpart u v (List.append_singleton_inj.mp huv).1

/-! ## Expressions in a row -/

/-- The text `t` has the expressions `es` in a row, each with its spelling from brace to brace, and
else no braces. -/
inductive HasExpressions (d : Dialect) : Text → List (Part × Text) → Prop
  | plain {t : Text} : (∀ c ∈ t, Reader.isLiteralChar c = true) → HasExpressions d t []
  | expression {lit s t : Text} {q : Part} {es : List (Part × Text)} :
      (∀ c ∈ lit, Reader.isLiteralChar c = true) → q.Spells d s → HasExpressions d t es →
        HasExpressions d (lit ++ '{' :: (s ++ t)) ((q, '{' :: s) :: es)

def Parsed.expressions (p : Parsed) : List Part := p.parts.filter fun q => !q.isLiteral

theorem Part.Spells.isLiteral (h : q.Spells d s) : q.isLiteral = false := by
  cases d with
  | simple => exact (Parsed.isSimple_of_spells h).2
  | extended => cases h.1 <;> rfl

theorem Parsed.expressions_literalPart (lit : Text) (hq : q.isLiteral = false) (ps : List Part)
    (tr : Text) :
    expressions ⟨Reader.literalPart lit ++ q :: ps, tr⟩ = q :: expressions ⟨ps, tr⟩ := by
  have hkeep : (!q.isLiteral) = true := by rw [hq]; rfl
  rw [Reader.literalPart, expressions]
  split
  · exact List.filter_cons_of_pos hkeep
  · exact (List.filter_cons_of_neg Bool.false_ne_true).trans (List.filter_cons_of_pos hkeep)

theorem Parsed.SpeltBy.hasExpressions (h : p.SpeltBy (Part.Spells d) t) :
    ∃ es, HasExpressions d t es ∧ p.expressions = es.map (·.1) := by
  induction h with
  | trailing hplain => exact ⟨[], .plain hplain, rfl⟩
  | @expression lit s t q p hplain hs _ ih =>
      obtain ⟨es, hes, hexpressions⟩ := ih
      refine ⟨_, .expression hplain hs hes, ?_⟩
      rw [expressions_literalPart lit hs.isLiteral, hexpressions]
      rfl

/-- A text with expressions in a row can be taken apart. -/
theorem HasExpressions.exists_speltBy {es : List (Part × Text)} (h : HasExpressions d t es) :
    ∃ p : Parsed, p.SpeltBy (Part.Spells d) t ∧ p.expressions = es.map (·.1) := by
  induction h with
  | @plain t hplain => exact ⟨⟨[], t⟩, .trailing hplain, rfl⟩
  | @expression lit s t q es hplain hs _ ih =>
      obtain ⟨p, hp, hexpressions⟩ := ih
      refine ⟨_, .expression hplain hs hp, ?_⟩
      rw [Parsed.expressions_literalPart lit hs.isLiteral, hexpressions]
      rfl

namespace HasExpressions

variable {es fs : List (Part × Text)}

theorem append (hs : HasExpressions d s es) (ht : HasExpressions d t fs) :
    HasExpressions d (s ++ t) (es ++ fs) := by
  induction hs with
  | @expression lit s u q es hplain hs _ ih =>
      rw [List.append_assoc, List.cons_append, List.append_assoc]
      exact .expression hplain hs ih
  | @plain s hplain =>
      -- Plain text goes with the plain text behind it.
      cases ht with
      | plain hplain' => exact .plain (List.forall_mem_append.mpr ⟨hplain, hplain'⟩)
      | @expression lit u t q fs hplain' hs ht =>
          rw [← List.append_assoc]
          exact .expression (List.forall_mem_append.mpr ⟨hplain, hplain'⟩) hs ht

/-- Where no brace is open, a text can be cut. -/
theorem cut (h : HasExpressions d t es) {u v : Text} (ht : t = u ++ v) (hu : depth u = 0) :
    ∃ es₁ es₂, es = es₁ ++ es₂ ∧ HasExpressions d u es₁ ∧ HasExpressions d v es₂ := by
  induction h generalizing u with
  | plain hplain =>
      subst ht
      obtain ⟨hu, hv⟩ := List.forall_mem_append.mp hplain
      exact ⟨[], [], rfl, .plain hu, .plain hv⟩
  | @expression lit s t q es hplain hs hrest ih =>
      rcases List.append_eq_append_iff.mp ht with ⟨w, rfl, hw⟩ | ⟨w, rfl, rfl⟩
      · rcases List.cons_eq_append_iff.mp hw with ⟨rfl, rfl⟩ | ⟨w, rfl, hw⟩
        · have hv := HasExpressions.expression (List.forall_mem_nil _) hs hrest
          exact ⟨[], _, rfl, .plain (by simpa using hplain), hv⟩
        -- The opening brace is in front of the cut, so the closing one is too.
        · have hw' : depth w = -1 := by
            rw [depth_append, depth_literal hplain, depth_open] at hu
            omega
          rcases List.append_eq_append_iff.mp (List.cons.inj hw).2 with ⟨z, rfl, hz⟩ | ⟨z, hz, rfl⟩
          · rw [depth_append, hs.depth_eq.1] at hw'
            obtain ⟨es₁, es₂, rfl, h₁, h₂⟩ := ih hz (by omega)
            exact ⟨_ :: es₁, es₂, rfl, .expression hplain hs h₁, h₂⟩
          · by_cases hnil : z = []
            · subst hnil
              obtain rfl : s = w := by simpa using hz
              have hwhole := HasExpressions.expression hplain hs (.plain (List.forall_mem_nil _))
              exact ⟨[_], es, rfl, by simpa using hwhole, hrest⟩
            · have := hs.depth_eq.2 w z hz hnil
              omega
      · obtain ⟨hplain, hplain'⟩ := List.forall_mem_append.mp hplain
        exact ⟨[], _, rfl, .plain hplain, .expression hplain' hs hrest⟩

/-- Where no brace is open at either end, a piece of a text can be taken out, and its expressions
are taken out with it. -/
theorem remove {u v w : Text} (h : HasExpressions d (u ++ (v ++ w)) es) (hu : depth u = 0)
    (hv : depth v = 0) : ∃ es', HasExpressions d (u ++ w) es' ∧ es'.Sublist es := by
  obtain ⟨es₁, es₂, rfl, h₁, h₂⟩ := h.cut rfl hu
  obtain ⟨es₂, es₃, rfl, -, h₃⟩ := h₂.cut rfl hv
  exact ⟨es₁ ++ es₃, h₁.append h₃, (List.sublist_append_right _ _).append_left es₁⟩

end HasExpressions

end PathTemplate
