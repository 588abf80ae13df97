import PathTemplate.Element.Binding
import PathTemplate.Proofs.Multimap
import PathTemplate.Proofs.Template.Building
import PathTemplate.Proofs.Text
import Mathlib.Data.List.Forall2

/-!
# Binding — what an element contributes to the values of a name

An element that is recorded either appends to the values of a name or replaces them, or it leaves
the name alone.  What it contributes depends on its own captured text only.

- `Element.gives`         : the values that an element contributes to a name
- `Operator.bind_eq_foldl` : an operator puts what it contributes under its names
- `Element.replaces`      : whether they take the place of the values that are there
- `Element.recorded_bind` : recording an element, in these terms
- `Bindings.Aligned`      : the values and starts of every name are related place by place
- `Element.aligned_bind`  : recording an element keeps the relation, if what it contributes is so
- `Element.infix_of_mem_gives` : what an element contributes lies in its captured text
-/

namespace PathTemplate

/-! ## Contributions -/

/-- What an operator contributes to the values of a name when its group holds `text`: the pieces
between the occurrences of the argument, or the value next to the name in a join.  An empty text
has no piece that `before` or `after` could keep, and they contribute that nothing is bound. -/
def Operator.gives (o : Operator) (text name : Text) : List (Option Text) :=
  if name ∈ o.names then
    match o.kind with
    | .negate | .option => []
    | .before => if text = [] then [none] else (Text.splitBy o.arg text).tail.map some
    | .after => if text = [] then [none] else (Text.splitBy o.arg text).dropLast.map some
    | .list => (Text.splitBy o.arg text).map some
    | .join => [valueAmong (o.pairsOf text) name]
  else []

/-- What an operator puts under names when its group holds `text`: what it contributes to each. -/
def Operator.puts (o : Operator) (text : Text) : List (Text × List (Option Text)) :=
  let name := o.first.1
  match o.kind with
  | .negate | .option => []
  | .before => [(name, if text = [] then [none] else (Text.splitBy o.arg text).tail.map some)]
  | .after => [(name, if text = [] then [none] else (Text.splitBy o.arg text).dropLast.map some)]
  | .list => [(name, (Text.splitBy o.arg text).map some)]
  | .join => o.names.map fun name => (name, [valueAmong (o.pairsOf text) name])

/-- What an element contributes to the values of a name from its own capture. -/
def Element.gives (capture : Capture) (name : Text) : Element → List (Option Text)
  | .literal _ => []
  | .variable v => if v.name = name then [capture.map (·.1)] else []
  | .operator o => o.gives ((capture.map (·.1)).getD []) name

def Operator.replaces (o : Operator) (name : Text) : Bool :=
  o.kind.cutsAtArgument && o.names.contains name

def Element.replaces (name : Text) : Element → Bool
  | .literal _ => false
  | .variable _ => false
  | .operator o => o.replaces name

/-- Whether an element contributes to the values of a name, be it by appending or by replacing. -/
def Element.contributes (name : Text) : Element → Bool
  | .literal _ => false
  | .variable v => v.name == name
  | .operator o => o.replaces name

theorem Operator.gives_eq_nil {o : Operator} {name : Text} (text : Text)
    (h : o.replaces name = false) : o.gives text name = [] := by
  rw [replaces, Bool.and_eq_false_iff] at h
  rw [gives]
  split
  case isFalse => rfl
  case isTrue hname =>
    have hkind := h.resolve_right (by simp [hname])
    -- The kinds that bind nothing are those whose text is not cut at the argument.
    cases hk : o.kind with
    | negate | option => rfl
    | before | after | list | join =>
        rw [hk] at hkind
        cases hkind

/-- An element contributes nothing to names that it does not bind. -/
theorem Element.gives_eq_nil {e : Element} {name : Text} (capture : Capture)
    (h : e.contributes name = false) : e.gives capture name = [] := by
  cases e with
  | literal t => rfl
  | operator o => exact o.gives_eq_nil _ h
  | «variable» v =>
      rw [gives, if_neg]
      intro heq
      rw [contributes, heq, beq_self_eq_true] at h
      cases h

theorem Element.contributes_of_replaces {e : Element} {name : Text} (h : e.replaces name = true) :
    e.contributes name = true := by
  cases e with
  | literal t => cases h
  | «variable» v => cases h
  | operator o => exact h

theorem Element.mem_names_of_contributes {e : Element} {name : Text}
    (h : e.contributes name = true) : name ∈ e.names := by
  cases e with
  | literal t => cases h
  | «variable» v => exact List.mem_singleton.mpr (eq_of_beq h).symm
  | operator o => exact List.contains_iff_mem.mp (Bool.and_eq_true_iff.mp h).2

/-! ## Recording -/

namespace Bindings

def putAll (b : Bindings) (name : Text) (values : List (Option Text)) (start : Option Nat) :
    Bindings :=
  ⟨b.values.put name values, b.starts.put name (values.map fun _ => start)⟩

theorem putPieces_eq_putAll (b : Bindings) (name : Text) (pieces : List Text)
    (start : Option Nat) : b.putPieces name pieces start = b.putAll name (pieces.map some) start := by
  rw [putPieces, putAll, List.map_map]
  rfl

def recorded (b : Bindings) (name : Text) : List (Option Text) × List (Option Nat) :=
  (b.values.get name, b.starts.get name)

variable {b : Bindings} {n name : Text} {start : Option Nat}

theorem recorded_add (b : Bindings) (n : Text) (value : Option Text) (start : Option Nat)
    (name : Text) :
    (b.add n value start).recorded name =
      if n = name then (b.values.get name ++ [value], b.starts.get name ++ [start])
      else b.recorded name := by
  rw [recorded, add, Multimap.get_add, Multimap.get_add]
  split
  · rfl
  · rw [List.append_nil, List.append_nil, recorded]

theorem recorded_put (b : Bindings) (n : Text) (values : List (Option Text))
    (starts : List (Option Nat)) (name : Text) :
    recorded ⟨b.values.put n values, b.starts.put n starts⟩ name =
      if n = name then (values, starts) else b.recorded name := by
  rw [recorded, Multimap.get_put, Multimap.get_put]
  split <;> rfl

/-- Replacing the values of several names by one value each. -/
theorem recorded_foldl_putSingle (value : Text → Option Text) (start : Option Nat)
    (names : List Text) (b : Bindings) (name : Text) :
    (names.foldl (fun b n => b.putSingle n (value n) start) b).recorded name =
      if name ∈ names then ([value name], [start]) else b.recorded name := by
  induction names generalizing b with
  | nil => rfl
  | cons n names ih =>
      have hput := recorded_put b n [value n] [start] name
      rw [List.foldl_cons, ih, putSingle, Multimap.putSingle, Multimap.putSingle, hput]
      by_cases hmem : name ∈ names
      · rw [if_pos hmem, if_pos (List.mem_cons_of_mem n hmem)]
      · by_cases hn : n = name
        · rw [if_neg hmem, if_pos hn, if_pos (hn ▸ List.mem_cons_self), hn]
        · have hmem' : name ∉ n :: names := by
            intro h
            rcases List.mem_cons.mp h with heq | h
            · exact hn heq.symm
            · exact hmem h
          rw [if_neg hmem, if_neg hn, if_neg hmem']

end Bindings

/-- A unary operator cuts its text at the argument. -/
theorem OperatorKind.cutsAtArgument_of_isUnary {k : OperatorKind} (h : k.isUnary = true) :
    k.cutsAtArgument = true := by
  cases k with
  | negate | option | join => cases h
  | before | after | list => rfl

namespace Operator

variable {o : Operator}

theorem Checked.first_mem (ho : o.Checked) : o.first ∈ o.vars := by
  obtain ⟨v, vs, hvars⟩ := List.exists_cons_of_ne_nil ho.vars_ne_nil
  rw [first, hvars]
  exact List.mem_cons_self

theorem Checked.first_mem_names (ho : o.Checked) : o.first.1 ∈ o.names :=
  List.mem_map_of_mem ho.first_mem

/-- The only name of a unary operator. -/
theorem Checked.names_eq (ho : o.Checked) (hunary : o.kind.isUnary = true) :
    o.names = [o.first.1] := by
  rcases List.length_eq_one_iff.mp (ho.length_vars hunary) with ⟨v, hv⟩
  rw [names, first, hv]
  rfl

/-- Recording an operator puts its values under their names, all with the start of its capture. -/
theorem bind_eq_foldl (o : Operator) (capture : Capture) (b : Bindings) :
    o.bind capture b = (o.puts ((capture.map (·.1)).getD [])).foldl
      (fun b p => b.putAll p.1 p.2 (capture.map (·.2))) b := by
  rw [bind, puts]
  cases o.kind with
  | negate | option => rfl
  | before | after =>
      dsimp only
      split
      · rfl
      · exact Bindings.putPieces_eq_putAll _ _ _ _
  | list =>
      dsimp only
      split
      case isTrue hnil =>
        rw [hnil]
        rfl
      case isFalse => exact Bindings.putPieces_eq_putAll _ _ _ _
  | join =>
      dsimp only
      rw [List.foldl_map]
      rfl

/-- A unary operator puts what it contributes in place of the values of its name. -/
theorem bind_of_isUnary (ho : o.Checked) (hunary : o.kind.isUnary = true) (capture : Capture)
    (b : Bindings) :
    o.bind capture b =
      ⟨b.values.put o.first.1 (o.gives ((capture.map (·.1)).getD []) o.first.1),
        b.starts.put o.first.1
          ((o.gives ((capture.map (·.1)).getD []) o.first.1).map fun _ => capture.map (·.2))⟩ := by
  rw [bind_eq_foldl, puts, gives, if_pos ho.first_mem_names]
  cases hk : o.kind with
  | negate | option | join =>
      rw [hk] at hunary
      cases hunary
  | before | after | list => rfl

/-- An operator replaces the values of its names by what it contributes to them. -/
theorem recorded_bind (ho : o.Checked) (capture : Capture) (b : Bindings) (name : Text) :
    (o.bind capture b).recorded name =
      if o.replaces name = true then
        (o.gives ((capture.map (·.1)).getD []) name,
          (o.gives ((capture.map (·.1)).getD []) name).map fun _ => capture.map (·.2))
      else b.recorded name := by
  by_cases hunary : o.kind.isUnary = true
  · have hkind := OperatorKind.cutsAtArgument_of_isUnary hunary
    rw [bind_of_isUnary ho hunary, Bindings.recorded_put, replaces, hkind, ho.names_eq hunary]
    by_cases hname : o.first.1 = name
    · subst hname
      simp
    · have hname' : name ≠ o.first.1 := fun h => hname h.symm
      simp [hname, hname']
  -- The operators of several variables: two of them record nothing, and a join each name.
  · rw [bind, replaces]
    cases hk : o.kind with
    | before | after | list =>
        rw [hk] at hunary
        exact absurd rfl hunary
    | negate => rfl
    | option => rfl
    | join =>
        dsimp only
        rw [Bindings.recorded_foldl_putSingle, gives, hk]
        by_cases hname : name ∈ o.names
        · simp [hname, OperatorKind.cutsAtArgument]
        · simp [hname]

/-- An operator that binds a name binds what it contributes to it. -/
theorem get_bind (ho : o.Checked) (hkind : o.kind.cutsAtArgument = true) {name : Text}
    (hname : name ∈ o.names) (text : Text) (start : Nat) (b : Bindings) :
    (o.bind (some (text, start)) b).values.get name = o.gives text name := by
  have hreplaces : o.replaces name = true := by
    rw [replaces, hkind, Bool.true_and]
    exact List.contains_iff_mem.mpr hname
  have hrecorded := o.recorded_bind ho (some (text, start)) b name
  rw [if_pos hreplaces] at hrecorded
  exact (Prod.mk.inj hrecorded).1

end Operator

/-- Recording an element replaces the values of a name by what the element contributes, or appends
this to them. -/
theorem Element.recorded_bind {d : Dialect} {e : Element} (he : e.IsBuilt d) (capture : Capture)
    (b : Bindings) (name : Text) :
    (e.bind capture b).recorded name =
      if e.replaces name = true then
        (e.gives capture name, (e.gives capture name).map fun _ => capture.map (·.2))
      else
        (b.values.get name ++ e.gives capture name,
          b.starts.get name ++ (e.gives capture name).map fun _ => capture.map (·.2)) := by
  cases e with
  | literal t => simp [bind, replaces, gives, Bindings.recorded]
  | «variable» v =>
      rw [bind, Bindings.recorded_add, replaces, gives]
      by_cases hname : v.name = name
      · simp [hname]
      · simp [hname, Bindings.recorded]
  | operator o =>
      rw [bind, o.recorded_bind he.2, replaces, gives]
      split
      case isTrue => rfl
      case isFalse hkeeps =>
        rw [o.gives_eq_nil _ (Bool.not_eq_true _ ▸ hkeeps)]
        simp [Bindings.recorded]

/-! ## Values and starts side by side -/

/-- The values of every name are related to its starts, place by place. -/
def Bindings.Aligned (R : Text → Option Text → Option Nat → Prop) (b : Bindings) : Prop :=
  ∀ name, List.Forall₂ (R name) (b.values.get name) (b.starts.get name)

theorem Bindings.aligned_empty (R : Text → Option Text → Option Nat → Prop) :
    Bindings.empty.Aligned R := fun _ => .nil

/-- Recording an element keeps values and starts related, if what the element contributes is related
to the start of its capture. -/
theorem Element.aligned_bind {R : Text → Option Text → Option Nat → Prop} {d : Dialect}
    {e : Element} (he : e.IsBuilt d) {capture : Capture} {b : Bindings} (hb : b.Aligned R)
    (hgives : ∀ name, ∀ v ∈ e.gives capture name, R name v (capture.map (·.2))) :
    (e.bind capture b).Aligned R := by
  intro name
  have hnew : List.Forall₂ (R name) (e.gives capture name)
      ((e.gives capture name).map fun _ => capture.map (·.2)) :=
    List.forall₂_map_right_iff.mpr (List.forall₂_same.mpr (hgives name))
  have hrecorded := e.recorded_bind he capture b name
  split at hrecorded
  case isTrue =>
    rcases Prod.mk.inj hrecorded with ⟨hvalues, hstarts⟩
    rw [hvalues, hstarts]
    exact hnew
  case isFalse =>
    rcases Prod.mk.inj hrecorded with ⟨hvalues, hstarts⟩
    rw [hvalues, hstarts]
    exact List.rel_append (hb name) hnew

/-! ## Where contributed values come from -/

namespace Operator

variable {o : Operator} {text name v : Text}

/-- The value of a name among pairs is the value of one of them. -/
theorem mem_of_valueAmong {pairs : List (Text × Text)} (h : valueAmong pairs name = some v) :
    (name, v) ∈ pairs := by
  rcases Option.map_eq_some_iff.mp h with ⟨⟨n, w⟩, hfind, rfl⟩
  have hname := List.find?_some hfind
  obtain rfl : n = name := eq_of_beq hname
  have hmem := List.mem_of_find?_eq_some hfind
  exact List.mem_reverse.mp hmem

theorem infix_of_mem_pairsOf (harg : o.arg ≠ []) {n : Text} (h : (n, v) ∈ o.pairsOf text) :
    v <:+: text := by
  rw [pairsOf] at h
  split at h
  case isTrue => cases h
  case isFalse =>
    rcases List.mem_map.mp h with ⟨piece, hpiece, heq⟩
    have hinfix := Text.infix_of_mem_splitBy harg hpiece
    cases honce : Text.splitOnce '=' piece with
    | none =>
        rw [honce] at heq
        cases heq
        exact List.nil_infix
    | some pair =>
        -- The value is what stands after the equals sign.
        rw [honce] at heq
        obtain rfl : pair = (n, v) := heq
        have hsuffix : v <:+ piece := ⟨n ++ ['='], by
          rw [Text.append_of_splitOnce honce, List.append_assoc, List.singleton_append]⟩
        exact hsuffix.isInfix.trans hinfix

/-- What an operator contributes lies in its captured text. -/
theorem infix_of_mem_gives (ho : o.Checked) (h : some v ∈ o.gives text name) : v <:+: text := by
  -- Each of the operators that cut the text gives some of its pieces.
  have hpiece : ∀ ps : List Text, (∀ p ∈ ps, p ∈ Text.splitBy o.arg text) →
      o.arg ≠ [] → some v ∈ ps.map some → v <:+: text := by
    intro ps hps harg hv
    rcases List.mem_map.mp hv with ⟨p, hp, heq⟩
    cases heq
    exact Text.infix_of_mem_splitBy harg (hps v hp)
  have harg := ho.arg_ne_nil
  rw [gives] at h
  split at h
  case isFalse => cases h
  case isTrue =>
    cases hk : o.kind with
    | negate | option =>
        rw [hk] at h
        cases h
    | before =>
        simp only [hk] at h harg
        split at h
        case isTrue => simp at h
        case isFalse => exact hpiece _ (fun p hp => List.mem_of_mem_tail hp) (harg rfl) h
    | after =>
        simp only [hk] at h harg
        split at h
        case isTrue => simp at h
        case isFalse => exact hpiece _ (fun p hp => List.mem_of_mem_dropLast hp) (harg rfl) h
    | list =>
        simp only [hk] at h harg
        exact hpiece _ (fun p hp => hp) (harg rfl) h
    | join =>
        simp only [hk, List.mem_singleton] at h harg
        exact infix_of_mem_pairsOf (harg rfl) (mem_of_valueAmong h.symm)

/-- Without a text, only a list contributes a value. -/
theorem eq_list_of_mem_gives_nil (h : some v ∈ o.gives [] name) : o.kind = .list := by
  rw [gives] at h
  split at h
  case isFalse => cases h
  case isTrue =>
    cases hk : o.kind with
    | list => rfl
    | negate | option | before | after | join =>
        rw [hk] at h
        simp [pairsOf, valueAmong] at h

end Operator

namespace Element

variable {e : Element} {d : Dialect} {text name v : Text} {start : Nat}

/-- A variable contributes the whole of its captured text. -/
theorem eq_of_mem_gives_variable {w : Variable}
    (h : some v ∈ gives (some (text, start)) name (.variable w)) : v = text := by
  rw [gives] at h
  split at h
  case isFalse => cases h
  case isTrue =>
    cases List.mem_singleton.mp h
    rfl

theorem infix_of_mem_gives (he : e.IsBuilt d) (h : some v ∈ e.gives (some (text, start)) name) :
    v <:+: text := by
  cases e with
  | literal t => cases h
  | operator o => exact Operator.infix_of_mem_gives he.2 h
  | «variable» w =>
      obtain rfl := eq_of_mem_gives_variable h
      exact List.infix_refl v

/-- An element whose group took no part contributes no value, unless it is a list. -/
theorem eq_list_of_mem_gives_none (h : some v ∈ e.gives none name) :
    ∃ o, e = .operator o ∧ o.kind = .list := by
  cases e with
  | literal t => cases h
  | operator o => exact ⟨o, rfl, Operator.eq_list_of_mem_gives_nil h⟩
  | «variable» w =>
      rw [gives] at h
      split at h
      case isFalse => cases h
      case isTrue => cases List.mem_singleton.mp h

end Element
end PathTemplate
