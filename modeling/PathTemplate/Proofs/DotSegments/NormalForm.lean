import PathTemplate.Proofs.DotSegments.Rewriting
import PathTemplate.Proofs.Text.Splitting

/-!
# NormalForm — what is left to normalize in a normalized path

The stack that resolves dot segments holds names on top of parents, and parents only where there was
nothing to take away.  A normalized path therefore has parents at its beginning, if at all, and its
segments resolve to themselves.  All that a second run can change is one more slash at the
beginning.

- `DotSegments.Resolved`      : names on top of parents
- `DotSegments.Resolved.push` : one segment more on such a stack
- `DotSegments.IsNormal`      : parents, and behind them at least one name
- `DotSegments.isNormal_resolve`   : resolved segments are normal
- `DotSegments.IsNormal.resolve_eq` : normal segments resolve to themselves
- `normalize_normal`          : the normal form of a path, and what a second run does to it
-/

namespace PathTemplate
namespace DotSegments

variable {absolute : Bool} {stack segments names : List Text} {s t uri : Text}

/-! ## The stack -/

/-- A stack of names on top of parents that could not be resolved.  In an absolute path there are
none of these. -/
inductive Resolved (absolute : Bool) : List Text → Prop
  | parents (k : Nat) : (absolute = true → k = 0) → Resolved absolute (List.replicate k dotDot)
  | name {s : Text} {stack : List Text} :
      isDots s = false → Resolved absolute stack → Resolved absolute (s :: stack)

/-- A name is its own way back. -/
theorem push_dotDot_of_name (absolute : Bool) (stack : List Text) (hs : isDots s = false) :
    push absolute (s :: stack) dotDot = stack := by
  rw [push.eq_def, if_neg (by decide), if_pos rfl]
  exact if_pos (isDots_eq_false_iff.mp hs).2

/-- In a relative path one parent comes on top of others. -/
theorem push_dotDot_of_parents (k : Nat) :
    push false (List.replicate k dotDot) dotDot = List.replicate (k + 1) dotDot := by
  cases k with
  | zero => rfl
  | succ k => rfl

/-- One segment more leaves names on top of parents. -/
theorem Resolved.push (h : Resolved absolute stack) (s : Text) :
    Resolved absolute (push absolute stack s) := by
  cases hplain : isDots s with
  | false =>
      rw [push_of_not_isDots absolute stack hplain]
      exact .name hplain h
  | true =>
      rcases isDots_iff.mp hplain with rfl | rfl
      · exact h
      · cases h with
        | name hs hbelow =>
            rw [push_dotDot_of_name absolute _ hs]
            exact hbelow
        | parents k hk =>
            cases absolute with
            | false =>
                rw [push_dotDot_of_parents]
                exact .parents (k + 1) nofun
            | true =>
                -- The root has no parent, and nothing is put on its stack.
                obtain rfl : k = 0 := hk rfl
                exact .parents 0 fun _ => rfl

/-- And so do all segments. -/
theorem Resolved.foldl_push (h : Resolved absolute stack) (segments : List Text) :
    Resolved absolute (segments.foldl (DotSegments.push absolute) stack) := by
  induction segments generalizing stack with
  | nil => exact h
  | cons s segments ih => exact ih (h.push s)

theorem resolved_nil (absolute : Bool) : Resolved absolute [] := .parents 0 fun _ => rfl

/-! ## Normal segments -/

/-- Segments in normal form: parents, none in an absolute path, and behind them at least one
segment, none of which is a dot segment. -/
def IsNormal (absolute : Bool) (segments : List Text) : Prop :=
  ∃ k names, segments = List.replicate k dotDot ++ names ∧ names ≠ [] ∧
    (∀ s ∈ names, isDots s = false) ∧ (absolute = true → k = 0)

/-- Read from its bottom, a stack has its parents first. -/
theorem Resolved.exists_reverse_eq (h : Resolved absolute stack) :
    ∃ k names, stack.reverse = List.replicate k dotDot ++ names ∧
      (∀ s ∈ names, isDots s = false) ∧ (absolute = true → k = 0) := by
  induction h with
  | parents k hk =>
      refine ⟨k, [], ?_, List.forall_mem_nil _, hk⟩
      rw [List.reverse_replicate, List.append_nil]
  | @name s stack hs _ ih =>
      obtain ⟨k, names, hstack, hnames, hk⟩ := ih
      refine ⟨k, names ++ [s], ?_, ?_, hk⟩
      · rw [List.reverse_cons, hstack, List.append_assoc]
      · exact List.forall_mem_append.mpr ⟨hnames, List.forall_mem_singleton.mpr hs⟩

/-- With a name on top, what is on the stack is in normal form. -/
theorem Resolved.isNormal (h : Resolved absolute stack) (hs : isDots s = false) :
    IsNormal absolute (s :: stack).reverse := by
  obtain ⟨k, names, hstack, hnames, hk⟩ := h.exists_reverse_eq
  refine ⟨k, names ++ [s], ?_, ?_, ?_, hk⟩
  · rw [List.reverse_cons, hstack, List.append_assoc]
  · exact List.append_ne_nil_of_right_ne_nil names (List.cons_ne_nil s [])
  · exact List.forall_mem_append.mpr ⟨hnames, List.forall_mem_singleton.mpr hs⟩

/-- Resolved segments are in normal form: the last one is on top of the stack, or else an empty one
is put there. -/
theorem isNormal_resolve (absolute : Bool) (hne : segments ≠ []) :
    IsNormal absolute (resolve absolute segments) := by
  obtain ⟨before, last, rfl⟩ := (List.eq_nil_or_concat segments).resolve_left hne
  rw [List.concat_eq_append, resolve, List.getLast?_concat, Option.any_some]
  cases hlast : isDots last with
  | true =>
      have hall := (resolved_nil absolute).foldl_push (before ++ [last])
      rw [if_pos rfl]
      exact hall.isNormal (s := []) rfl
  | false =>
      have hbefore := (resolved_nil absolute).foldl_push before
      rw [if_neg Bool.false_ne_true, List.foldl_append, List.foldl_cons, List.foldl_nil,
        push_of_not_isDots absolute _ hlast]
      exact hbefore.isNormal hlast

/-- Parents at the beginning of a relative path stay. -/
theorem foldl_push_replicate (k : Nat) :
    (List.replicate k dotDot).foldl (push false) [] = List.replicate k dotDot := by
  induction k with
  | zero => rfl
  | succ k ih =>
      rw [List.replicate_succ', List.foldl_append, ih, List.foldl_cons, List.foldl_nil,
        push_dotDot_of_parents, List.replicate_succ']

/-- Segments in normal form resolve to themselves, also as those of a relative path. -/
theorem IsNormal.resolve_eq (h : IsNormal absolute segments) : resolve false segments = segments := by
  obtain ⟨k, names, rfl, hne, hnames, -⟩ := h
  have hlast : (List.replicate k dotDot ++ names).getLast?.any isDots = false := by
    rw [List.getLast?_append_of_ne_nil _ hne, List.getLast?_eq_some_getLast hne, Option.any_some]
    exact hnames _ (List.getLast_mem hne)
  calc
    resolve false (List.replicate k dotDot ++ names)
        = ((List.replicate k dotDot ++ names).foldl (push false) []).reverse := by
          rw [resolve, hlast, if_neg Bool.false_ne_true]
    _ = (names.reverse ++ List.replicate k dotDot).reverse := by
          rw [List.foldl_append, foldl_push_replicate, foldl_push_of_not_isDots _ _ hnames]
    _ = List.replicate k dotDot ++ names := by
          rw [List.reverse_append, List.reverse_replicate, List.reverse_reverse]

/-- Behind an empty segment there is no parent. -/
theorem IsNormal.of_nil_cons (h : IsNormal absolute ([] :: segments)) :
    ∀ s ∈ segments, isDots s = false := by
  obtain ⟨k, names, hsegments, -, hnames, -⟩ := h
  cases k with
  | zero =>
      obtain rfl : [] :: segments = names := hsegments
      exact fun s hs => hnames s (List.mem_cons_of_mem [] hs)
  | succ k =>
      have hfirst : ([] : Text) = dotDot := (List.cons.inj hsegments).1
      cases hfirst

/-! ## Segments and text -/

/-- A segment on the stack was there before, or has been pushed. -/
theorem mem_push (h : t ∈ push absolute stack s) : t ∈ stack ∨ t = s := by
  cases hplain : isDots s with
  | false =>
      rw [push_of_not_isDots absolute stack hplain] at h
      exact (List.mem_cons.mp h).symm
  | true =>
      rcases isDots_iff.mp hplain with rfl | rfl
      · exact .inl h
      · rw [push.eq_def, if_neg (by decide), if_pos rfl] at h
        grind

theorem mem_foldl_push (h : t ∈ segments.foldl (push absolute) stack) :
    t ∈ stack ∨ t ∈ segments := by
  induction segments generalizing stack with
  | nil => exact .inl h
  | cons s segments ih =>
      rcases ih h with hstack | hsegments
      · rcases mem_push hstack with hold | rfl
        · exact .inl hold
        · exact .inr List.mem_cons_self
      · exact .inr (List.mem_cons_of_mem s hsegments)

/-- Resolving gives no segment a slash. -/
theorem notMem_of_mem_resolve (h : ∀ s ∈ segments, '/' ∉ s) (ht : t ∈ resolve absolute segments) :
    '/' ∉ t := by
  have hstack : ∀ r ∈ segments.foldl (push absolute) [], '/' ∉ r := by
    intro r hr
    exact h r ((mem_foldl_push hr).resolve_left List.not_mem_nil)
  rw [resolve] at ht
  split at ht
  case isTrue =>
    rcases List.mem_cons.mp (List.mem_reverse.mp ht) with rfl | ht
    · exact List.not_mem_nil
    · exact hstack t ht
  case isFalse => exact hstack t (List.mem_reverse.mp ht)

/-- The segments of a text that has been joined from resolved ones. -/
theorem split_join_resolve (absolute : Bool) (uri : Text) :
    Text.split '/' (Text.join ['/'] (resolve absolute (Text.split '/' uri))) =
      resolve absolute (Text.split '/' uri) := by
  apply Text.split_join (resolve_ne_nil absolute (Text.split_ne_nil '/' uri))
  intro s hs
  exact notMem_of_mem_resolve (fun _ hr => Text.notMem_of_mem_split hr) hs

/-- A relative path without its dot segments, also where it has none. -/
theorem remove_relative (h : uri.head? ≠ some '/') :
    remove uri = Text.join ['/'] (resolve false (Text.split '/' uri)) := by
  unfold remove
  split
  case isTrue =>
    split
    case h_1 => exact absurd rfl h
    case h_2 => rfl
  case isFalse hnone =>
    have hplain : ∀ s ∈ Text.split '/' uri, isDots s = false := by
      simpa using hnone
    rw [resolve_of_not_isDots false hplain, Text.join_split]

/-- Segments in normal form are left as they are. -/
theorem remove_eq_self (h : IsNormal absolute (Text.split '/' uri)) : remove uri = uri := by
  by_cases hslash : uri.head? = some '/'
  · obtain ⟨rest, rfl⟩ := List.head?_eq_some_iff.mp hslash
    rw [Text.split, if_pos rfl] at h
    rw [remove_slash, resolve_of_not_isDots true h.of_nil_cons, Text.join_split]
  · rw [remove_relative hslash, h.resolve_eq, Text.join_split]

/-- Without one slash at the beginning, segments in normal form stay so. -/
theorem IsNormal.dropLeading (h : IsNormal absolute (Text.split '/' uri)) :
    IsNormal absolute (Text.split '/' (Text.dropLeading '/' uri)) := by
  cases uri with
  | nil => exact h
  | cons c rest =>
      rw [Text.dropLeading]
      split
      case isTrue hc =>
        rw [Text.split, if_pos hc] at h
        exact ⟨0, _, rfl, Text.split_ne_nil '/' rest, h.of_nil_cons, fun _ => rfl⟩
      case isFalse => exact h

end DotSegments

open DotSegments

/-- The segments of a normalized path are in normal form. -/
theorem isNormal_split_normalize (uri : Text) :
    IsNormal (uri.head? == some '/') (Text.split '/' (normalize uri)) := by
  by_cases hslash : uri.head? = some '/'
  · obtain ⟨rest, rfl⟩ := List.head?_eq_some_iff.mp hslash
    rw [normalize, remove_slash, Text.dropLeading, if_pos rfl, split_join_resolve]
    exact isNormal_resolve true (Text.split_ne_nil '/' rest)
  · rw [beq_eq_false_iff_ne.mpr hslash, normalize, remove_relative hslash]
    apply IsNormal.dropLeading
    rw [split_join_resolve]
    exact isNormal_resolve false (Text.split_ne_nil '/' uri)

/-- A normalized path has no segment `.`, and segments `..` only at its beginning, none if the path
began with a slash; and it does not end with one.  A second run changes nothing, but for a slash at
the beginning that the first one left. -/
theorem normalize_normal (uri : Text) :
    dot ∉ Text.split '/' (normalize uri) ∧
    (∃ k rest, Text.split '/' (normalize uri) = List.replicate k dotDot ++ rest ∧
      dotDot ∉ rest ∧ (uri.head? = some '/' → k = 0)) ∧
    (Text.split '/' (normalize uri)).getLast? ≠ some dotDot ∧
    ((normalize uri).head? ≠ some '/' → normalize (normalize uri) = normalize uri) ∧
    ∀ rest, normalize uri = '/' :: rest → normalize (normalize uri) = rest := by
  have hnormal := isNormal_split_normalize uri
  have hagain : normalize (normalize uri) = Text.dropLeading '/' (normalize uri) :=
    congrArg (Text.dropLeading '/') (remove_eq_self hnormal)
  -- All else is read off the normal form: parents first, then names.
  obtain ⟨k, names, hsegments, hne, hnames, hk⟩ := hnormal
  have hdots : dotDot ∉ names := by
    intro hmem
    cases hnames dotDot hmem
  refine ⟨?_, ⟨k, names, hsegments, hdots, ?_⟩, ?_, ?_, ?_⟩
  · rw [hsegments]
    intro hmem
    rcases List.mem_append.mp hmem with hmem | hmem
    · cases List.eq_of_mem_replicate hmem
    · cases hnames dot hmem
  · exact fun hslash => hk (beq_iff_eq.mpr hslash)
  · rw [hsegments, List.getLast?_append_of_ne_nil _ hne]
    exact fun hlast => hdots (List.mem_of_getLast? hlast)
  · intro hrelative
    rw [hagain]
    cases hn : normalize uri with
    | nil => rfl
    | cons c rest =>
        rw [hn] at hrelative
        exact if_neg fun hc => hrelative (congrArg some hc)
  · intro rest hn
    rw [hagain, hn, Text.dropLeading, if_pos rfl]

/-- A relative path can leave a slash at the beginning, which a second run takes away. -/
example : normalize "a/..///b".toList = "/b".toList ∧ normalize "/b".toList = "b".toList := by
  decide +kernel

end PathTemplate
