import PathTemplate.Proofs.Element.Binding
import PathTemplate.Proofs.Template.Expansion
import PathTemplate.Proofs.Text.Splitting

/-!
# Operator values — what operators write, they bind again

Values are written encoded and thus lack all characters but the unreserved ones and the percent sign.
If the argument has one of the characters that they lack, it is found in the written text where it
was put and nowhere else.

- `Operator.gives_write`  : an operator on one variable cuts what it wrote into the encoded values
- `Operator.write_join`   : what a join writes, as its pairs with the argument between them
- `Operator.pairsOf_join` : the pairs are found again
- `Template.recovers_operator_values` : decoded, the values that are bound are those that were written
-/

namespace PathTemplate

/-! ## Characters that encoded values and names lack -/

theorem IsName.unreserved {n : Text} (hn : IsName n) : ∀ d ∈ n, Percent.isUnreserved d = true := by
  have hword : ∀ d, Reader.isWord d = true → Percent.isUnreserved d = true := by
    intro d hd
    rcases Bool.or_eq_true_iff.mp hd with hd | hd
    · simp [Percent.isUnreserved, hd]
    · rw [eq_of_beq hd]
      rfl
  cases n with
  | nil => exact hn.elim
  | cons c n =>
      intro d hd
      rcases List.mem_cons.mp hd with rfl | hd
      · exact hword d hn.1
      · have hrest := hn.2 d hd
        simp only [Reader.isNameRest, Bool.or_eq_true, beq_iff_eq] at hrest
        rcases hrest with (hd | rfl) | rfl
        · exact hword d hd
        · rfl
        · rfl

theorem IsName.notMem {n : Text} {c : Char} (hn : IsName n) (hc : Percent.isUnreserved c = false) :
    c ∉ n := by
  intro hmem
  rw [hn.unreserved c hmem] at hc
  cases hc

theorem notMem_writeValue {c : Char} (hc : Percent.isUnreserved c = false) (hpercent : c ≠ '%')
    (x : Text) : c ∉ writeValue true x := by
  intro hmem
  rcases Percent.mem_encode hmem with h | h
  · rw [h] at hc
    cases hc
  · exact hpercent h

namespace Operator

variable {o : Operator} {values : Multimap Text} {c : Char}

/-! ## Operators on one variable -/

/-- An operator on one variable cuts what it has written into the encoded values, if a character of
the argument is in none of them. -/
theorem gives_write (ho : o.Checked) (hunary : o.kind.isUnary = true) (hmem : c ∈ o.arg)
    (hc : Percent.isUnreserved c = false) (hpercent : c ≠ '%')
    (hvalues : valuesOf o.first values ≠ []) :
    ∃ written, o.write values true = (written, none) ∧
      o.gives written o.first.1 = (valuesOf o.first values).map fun x => some (Percent.encode x) := by
  let encoded := (valuesOf o.first values).map (writeValue true)
  have hencoded : encoded ≠ [] := by simpa [encoded] using hvalues
  have hlack : ∀ p ∈ encoded, c ∉ p := by
    intro p hp
    obtain ⟨x, _, rfl⟩ := List.mem_map.mp hp
    exact notMem_writeValue hc hpercent x
  have hsome : encoded.map some =
      (valuesOf o.first values).map fun x => some (Percent.encode x) := List.map_map
  -- An empty text would be one empty piece.
  have hwritten : ∀ ps : List Text, 2 ≤ ps.length → (∀ p ∈ ps, c ∉ p) →
      Text.splitBy o.arg (Text.join o.arg ps) = ps ∧ Text.join o.arg ps ≠ [] := by
    intro ps hlength hps
    have hsplit := Text.splitBy_join hmem (List.ne_nil_of_length_pos (by omega)) hps
    refine ⟨hsplit, fun hnil => ?_⟩
    rw [hnil, Text.splitBy_nil] at hsplit
    rw [← hsplit, List.length_singleton] at hlength
    omega
  have hpos : 1 ≤ encoded.length := List.length_pos_iff.mpr hencoded
  simp only [gives, if_pos ho.first_mem_names, write]
  cases hk : o.kind with
  | negate | option | join =>
      rw [hk] at hunary
      cases hunary
  | before =>
      have hjoin : Text.join o.arg ([] :: encoded) = encoded.flatMap fun x => o.arg ++ x := by
        rw [Text.join_cons, List.nil_append]
      obtain ⟨hsplit, hne⟩ := hwritten ([] :: encoded) (by simpa using hpos)
        (List.forall_mem_cons.mpr ⟨List.not_mem_nil, hlack⟩)
      rw [hjoin] at hsplit hne
      refine ⟨_, rfl, ?_⟩
      dsimp only
      rw [if_neg hne, hsplit, List.tail_cons, hsome]
  | after =>
      have hjoin : Text.join o.arg (encoded ++ [[]]) = encoded.flatMap fun x => x ++ o.arg := by
        rw [Text.join_append _ _ (List.cons_ne_nil [] []), Text.join, List.append_nil]
      obtain ⟨hsplit, hne⟩ := hwritten (encoded ++ [[]]) (by simpa using hpos)
        (List.forall_mem_append.mpr ⟨hlack, by simp⟩)
      rw [hjoin] at hsplit hne
      refine ⟨_, rfl, ?_⟩
      dsimp only
      rw [if_neg hne, hsplit, List.dropLast_concat, hsome]
  | list =>
      refine ⟨_, rfl, ?_⟩
      rw [Text.splitBy_join hmem hencoded hlack, hsome]

/-! ## Joins -/

/-- The pair that a join writes for a variable, if it has a value. -/
def pairOf (values : Multimap Text) (v : VariableSpec) : Option (Text × Text) :=
  (valuesOf v values).head?.map fun x => (v.1, writeValue true x)

def pairText (p : Text × Text) : Text := p.1 ++ '=' :: p.2

/-- A variable without two values is left out or has its pair written. -/
theorem writePairs_cons {arg delimiter : Text} {v : VariableSpec} {vs : List VariableSpec}
    (hv : (valuesOf v values).length ≤ 1) :
    writePairs arg values true delimiter (v :: vs) =
      match pairOf values v with
      | none => writePairs arg values true delimiter vs
      | some p => Written.after (delimiter ++ pairText p) (writePairs arg values true arg vs) := by
  rw [writePairs, pairOf]
  match hx : valuesOf v values with
  | [] => rfl
  | [x] => simp [pairText]
  | x :: y :: xs =>
      rw [hx] at hv
      simp at hv

/-- Behind the first pair, each one has the argument before it. -/
theorem writePairs_rest {arg : Text} {vs : List VariableSpec}
    (hvs : ∀ v ∈ vs, (valuesOf v values).length ≤ 1) :
    writePairs arg values true arg vs =
      ((vs.filterMap (pairOf values)).flatMap fun p => arg ++ pairText p, none) := by
  induction vs with
  | nil => rfl
  | cons v vs ih =>
      obtain ⟨hv, hvs⟩ := List.forall_mem_cons.mp hvs
      rw [writePairs_cons hv, ih hvs]
      cases hp : pairOf values v with
      | none => rw [List.filterMap_cons_none hp]
      | some p => rw [List.filterMap_cons_some hp, List.flatMap_cons]; rfl

/-- A join writes its pairs with the argument between them. -/
theorem write_join (hkind : o.kind = .join) (hvs : ∀ v ∈ o.vars, (valuesOf v values).length ≤ 1) :
    o.write values true =
      (Text.join o.arg ((o.vars.filterMap (pairOf values)).map pairText), none) := by
  have hfirst : ∀ vs : List VariableSpec, (∀ v ∈ vs, (valuesOf v values).length ≤ 1) →
      writePairs o.arg values true [] vs =
        (Text.join o.arg ((vs.filterMap (pairOf values)).map pairText), none) := by
    intro vs hvs
    induction vs with
    | nil => rfl
    | cons v vs ih =>
        obtain ⟨hv, hvs⟩ := List.forall_mem_cons.mp hvs
        rw [writePairs_cons hv]
        cases hp : pairOf values v with
        | none => rw [ih hvs, List.filterMap_cons_none hp]
        | some p =>
            rw [writePairs_rest hvs, List.filterMap_cons_some hp, List.map_cons, Text.join_cons,
              List.flatMap_map]
            rfl
  rw [write, hkind]
  exact hfirst o.vars hvs

/-- Pairs that lack a character of the argument are the pieces where they have been joined. -/
theorem splitBy_join_pairs {pairs : List (Text × Text)} (hne : pairs ≠ []) (hmem : c ∈ o.arg)
    (heq : c ≠ '=') (hpairs : ∀ p ∈ pairs, c ∉ p.1 ∧ c ∉ p.2) :
    Text.splitBy o.arg (Text.join o.arg (pairs.map pairText)) = pairs.map pairText := by
  refine Text.splitBy_join hmem (by simpa using hne) fun u hu => ?_
  obtain ⟨p, hp, rfl⟩ := List.mem_map.mp hu
  obtain ⟨hname, hvalue⟩ := hpairs p hp
  simp [pairText, hname, hvalue, heq]

/-- They are found with their names and values, if there is no equals sign in the names. -/
theorem pairsOf_join {pairs : List (Text × Text)} (hmem : c ∈ o.arg) (heq : c ≠ '=')
    (hpairs : ∀ p ∈ pairs, c ∉ p.1 ∧ c ∉ p.2) (hnames : ∀ p ∈ pairs, '=' ∉ p.1) :
    o.pairsOf (Text.join o.arg (pairs.map pairText)) = pairs := by
  by_cases hnil : pairs = []
  · rw [hnil]
    rfl
  · -- A pair has a sign at least.
    have hne : Text.join o.arg (pairs.map pairText) ≠ [] := by
      intro h
      obtain ⟨p, pairs, rfl⟩ := List.exists_cons_of_ne_nil hnil
      simp [Text.join_cons, pairText] at h
    rw [pairsOf, if_neg hne, splitBy_join_pairs hnil hmem heq hpairs, List.map_map]
    refine (List.map_congr_left ?_).trans (List.map_id pairs)
    intro p hp
    rw [Function.comp_apply, pairText, Text.splitOnce_append (hnames p hp)]
    rfl

/-- The value among the pairs of a join is that of the variable. -/
theorem valueAmong_pairOf (ho : o.Checked) {v : VariableSpec} (hv : v ∈ o.vars) :
    valueAmong (o.vars.filterMap (pairOf values)) v.1 = (pairOf values v).map (·.2) := by
  cases hvalue : valueAmong (o.vars.filterMap (pairOf values)) v.1 with
  | some x =>
      obtain ⟨w, hw, hpair⟩ := List.mem_filterMap.mp (mem_of_valueAmong hvalue)
      -- Each name is there once, so the pair is that of the variable.
      have hname : w.1 = v.1 := by
        obtain ⟨y, _, heq⟩ := Option.map_eq_some_iff.mp hpair
        exact (Prod.mk.inj heq).1
      obtain rfl : w = v := List.inj_on_of_nodup_map ho.nodup_names hw hv hname
      rw [hpair]
      rfl
  | none =>
      cases hpair : pairOf values v with
      | none => rfl
      | some p =>
          obtain ⟨y, _, rfl⟩ := Option.map_eq_some_iff.mp hpair
          have hnone := Option.map_eq_none_iff.mp hvalue
          have hmem := List.mem_reverse.mpr (List.mem_filterMap.mpr ⟨v, hv, hpair⟩)
          exact absurd (beq_self_eq_true v.1) (List.find?_eq_none.mp hnone _ hmem)

/-! ## What is bound -/

/-- The first of a variable's values is the one it is given, or else its default. -/
theorem head?_valuesOf {v : VariableSpec} (h : ∀ vs, values.get? v.1 = some vs → vs ≠ []) :
    (valuesOf v values).head? = (values.getFirst? v.1).or v.2 := by
  rw [valuesOf, Multimap.getFirst?, Multimap.get]
  cases hget : values.get? v.1 with
  | none =>
      cases hdefault : v.2 with
      | none => rfl
      | some d => rfl
  | some vs =>
      obtain ⟨x, xs, rfl⟩ := List.exists_cons_of_ne_nil (h vs hget)
      rfl

end Operator

/-- What an operator writes with escapes, it binds again, if some character of its argument is neither
unreserved nor a percent sign: an operator on one variable binds the values in their order; a join
of which each name is given one value or none, and whose argument has such a character besides the
equals sign, binds to each variable its value, or else its default, and nothing to those that have
neither. -/
theorem Template.recovers_operator_values {text : Text} {opts : CompileOptions} {t : Template}
    {o : Operator} {c : Char} (ht : (Template.compileWith text opts).value = .ok t)
    (ho : .operator o ∈ t.elements) (hmem : c ∈ o.arg) (hc : Percent.isUnreserved c = false)
    (hpercent : c ≠ '%') (values : Multimap Text) :
    (o.kind.isUnary = true → Operator.valuesOf o.first values ≠ [] →
      ∃ written, o.write values true = (written, none) ∧ ∀ start b,
        ((o.bind (some (written, start)) b).values.get o.first.1).map (Option.map Percent.decode) =
          (Operator.valuesOf o.first values).map some) ∧
    (o.kind = .join → c ≠ '=' → (∀ name vs, values.get? name = some vs → vs.length = 1) →
      ∃ written, o.write values true = (written, none) ∧ ∀ start b, ∀ v ∈ o.vars,
        ((o.bind (some (written, start)) b).values.get v.1).map (Option.map Percent.decode) =
          [(values.getFirst? v.1).or v.2]) := by
  obtain ⟨-, hchecked⟩ := (wellFormed_of_compileWith ht).1.built _ ho
  constructor
  · intro hunary hvalues
    have hkind := OperatorKind.cutsAtArgument_of_isUnary hunary
    obtain ⟨written, hwritten, hgives⟩ :=
      Operator.gives_write hchecked hunary hmem hc hpercent hvalues
    refine ⟨written, hwritten, fun start b => ?_⟩
    rw [Operator.get_bind hchecked hkind hchecked.first_mem_names, hgives, List.map_map]
    simp only [Function.comp_def, Option.map_some, Percent.decode_encode]
  · intro hkind heq hsingle
    have hlength : ∀ v ∈ o.vars, (Operator.valuesOf v values).length ≤ 1 := by
      intro v _
      rw [Operator.valuesOf]
      cases hget : values.get? v.1 with
      | some vs => exact (hsingle v.1 vs hget).le
      | none => cases v.2 <;> simp
    refine ⟨_, Operator.write_join hkind hlength, fun start b v hv => ?_⟩
    -- Neither names nor encoded values hold the character, and names hold no sign.
    have hrow : ∀ p ∈ o.vars.filterMap (Operator.pairOf values),
        IsName p.1 ∧ c ∉ p.2 := by
      intro p hp
      obtain ⟨w, hw, hpair⟩ := List.mem_filterMap.mp hp
      obtain ⟨x, _, rfl⟩ := Option.map_eq_some_iff.mp hpair
      exact ⟨isName_of_mem_names ht ho (List.mem_map_of_mem hw), notMem_writeValue hc hpercent x⟩
    have hpairs := Operator.pairsOf_join hmem heq
      (fun p hp => ⟨(hrow p hp).1.notMem hc, (hrow p hp).2⟩) fun p hp => (hrow p hp).1.notMem rfl
    have hmemv : v.1 ∈ o.names := List.mem_map_of_mem hv
    have hvalue := Operator.head?_valuesOf (v := v) fun vs hvs =>
      List.ne_nil_of_length_pos (by rw [hsingle v.1 vs hvs]; exact Nat.one_pos)
    rw [Operator.get_bind hchecked (by rw [hkind]; rfl) hmemv, Operator.gives, if_pos hmemv, hkind]
    dsimp only
    rw [hpairs, Operator.valueAmong_pairOf hchecked hv, Operator.pairOf, hvalue]
    cases (values.getFirst? v.1).or v.2 with
    | none => rfl
    | some x => simp [writeValue, Percent.decode_encode]

theorem Template.recovers_operator_values_search :
    ∃ t xs query,
      (Template.compileWith "\x7b-list|,|x\x7d\x7b-join|&|a,b=2,c\x7d".toList
        ⟨.extended, true⟩).value = .ok t ∧
      t.elements = [.operator xs, .operator query] ∧
      (∃ written,
        xs.write (.ofPairs [("x".toList, "p,q".toList), ("x".toList, [])]) true = (written, none) ∧
        ∀ start b, ((xs.bind (some (written, start)) b).values.get xs.first.1).map
          (Option.map Percent.decode) = [some "p,q".toList, some []]) ∧
      ∃ written,
        query.write (.ofPairs [("a".toList, "&b=".toList)]) true = (written, none) ∧
        ∀ start b, query.vars.map (fun v =>
          ((query.bind (some (written, start)) b).values.get v.1).map (Option.map Percent.decode)) =
            [[some "&b=".toList], [some "2".toList], [none]] := by
  let xs : Operator := ⟨.list, [','], [("x".toList, none)], 2⟩
  let query : Operator :=
    ⟨.join, ['&'], [("a".toList, none), ("b".toList, some "2".toList), ("c".toList, none)], 3⟩
  let once : Multimap Text := .ofPairs [("a".toList, "&b=".toList)]
  have hok : (Template.compileWith "\x7b-list|,|x\x7d\x7b-join|&|a,b=2,c\x7d".toList
      ⟨.extended, true⟩).value.toOption.any
        (fun t => t.elements == [.operator xs, .operator query]) = true := by
    decide +kernel
  rcases exists_ok_of_any hok with ⟨t, ht, helements⟩
  have helements := eq_of_beq helements
  have hxs : .operator xs ∈ t.elements := by
    rw [helements]
    exact List.mem_cons_self
  have hquery : .operator query ∈ t.elements := by
    rw [helements]
    exact List.mem_cons_of_mem _ List.mem_cons_self
  -- The only name of the second map has one value.
  have hsingle : ∀ name vs, once.get? name = some vs → vs.length = 1 := by
    intro name vs hvs
    obtain ⟨e, he, rfl⟩ := Option.map_eq_some_iff.mp hvs
    have hentries : once.entries = [("a".toList, ["&b=".toList])] := by decide
    have hmem := List.mem_of_find?_eq_some he
    rw [hentries, List.mem_singleton] at hmem
    rw [hmem]
    rfl
  have hcomma : ',' ∈ xs.arg := List.mem_cons_self
  have hand : '&' ∈ query.arg := List.mem_cons_self
  have hlist := (recovers_operator_values ht hxs hcomma (by decide) (by decide)
    (.ofPairs [("x".toList, "p,q".toList), ("x".toList, [])])).1 rfl (by decide)
  rcases (recovers_operator_values ht hquery hand (by decide) (by decide) once).2 rfl (by decide)
    hsingle with ⟨written, hwritten, hvalues⟩
  refine ⟨t, xs, query, ht, helements, hlist, written, hwritten, fun start b => ?_⟩
  rw [List.map_congr_left (hvalues start b)]
  decide

end PathTemplate
