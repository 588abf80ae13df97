import PathTemplate.DotSegments
import PathTemplate.Proofs.Part.Expressions
import PathTemplate.Proofs.Text

/-!
# DotSegments — what removing dot segments does to expressions

Dot segments are found and removed without regard to braces, so that a slash inside of an expression
separates segments as well.  Where this cuts an expression, the template is another one afterwards,
or none at all.

- `DotSegments.KeepsExpressions` : dot segments stand between expressions, and take whole ones away
- `DotSegments.push_keeps`       : one step of the removal keeps expressions or takes them out whole
- `DotSegments.foldl_push_keeps` : and so do all steps
- `normalize_keeps_expressions`  : a template that is normalized keeps its expressions
- `normalize_cuts_expressions`   : a dot segment inside of an expression changes it
-/

namespace PathTemplate
namespace DotSegments

variable {d : Dialect} {absolute : Bool} {stack segments before rest : List Text} {s t uri : Text}
  {es : List (Part × Text)}

/-! ## The text of a stack -/

/-- The text of the segments on the stack, with a slash behind each of them. -/
def front (stack : List Text) : Text := stack.reverse.flatMap fun s => s ++ ['/']

theorem front_cons (s : Text) (stack : List Text) :
    front (s :: stack) = front stack ++ (s ++ ['/']) := by
  simp [front]

theorem join_reverse_cons (s : Text) (stack : List Text) :
    Text.join ['/'] (s :: stack).reverse = front stack ++ s := by
  rw [List.reverse_cons, Text.join_append _ _ (List.cons_ne_nil s []), front]
  rfl

theorem isDots_iff : isDots s = true ↔ s = dot ∨ s = dotDot := by
  simp [isDots]

theorem isDots_eq_false_iff : isDots s = false ↔ s ≠ dot ∧ s ≠ dotDot := by
  simp [isDots]

/-! ## Segments that stay -/

theorem push_of_not_isDots (absolute : Bool) (stack : List Text) (h : isDots s = false) :
    push absolute stack s = s :: stack := by
  obtain ⟨hdot, hdots⟩ := isDots_eq_false_iff.mp h
  rw [push.eq_def, if_neg hdot, if_neg hdots]

theorem foldl_push_of_not_isDots (absolute : Bool) (stack : List Text)
    (h : ∀ s ∈ segments, isDots s = false) :
    segments.foldl (push absolute) stack = segments.reverse ++ stack := by
  induction segments generalizing stack with
  | nil => rfl
  | cons s segments ih =>
      obtain ⟨hs, hrest⟩ := List.forall_mem_cons.mp h
      rw [List.foldl_cons, push_of_not_isDots absolute stack hs, ih _ hrest, List.reverse_cons,
        List.append_assoc]
      rfl

/-- Without dot segments all segments stay. -/
theorem resolve_of_not_isDots (absolute : Bool) (h : ∀ s ∈ segments, isDots s = false) :
    resolve absolute segments = segments := by
  have hlast : segments.getLast?.any isDots = false := by
    cases hget : segments.getLast? with
    | none => rfl
    | some s => exact h s (List.mem_of_getLast? hget)
  rw [resolve, hlast, if_neg Bool.false_ne_true, foldl_push_of_not_isDots absolute [] h,
    List.append_nil, List.reverse_reverse]

/-- There is always a last segment, if only an empty one. -/
theorem resolve_ne_nil (absolute : Bool) (hne : segments ≠ []) :
    resolve absolute segments ≠ [] := by
  obtain ⟨before, last, rfl⟩ := (List.eq_nil_or_concat segments).resolve_left hne
  rw [List.concat_eq_append, resolve, List.getLast?_concat, Option.any_some]
  cases hlast : isDots last with
  | true => simp
  | false =>
      rw [if_neg Bool.false_ne_true, List.foldl_append, List.foldl_cons, List.foldl_nil,
        push_of_not_isDots absolute _ hlast]
      simp

/-! ## Segments between expressions -/

/-- In front of a dot segment no brace is open, nor at the end of the parent that it takes away: it
stands between expressions, and takes away whole ones. -/
def KeepsExpressions (absolute : Bool) (segments : List Text) : Prop :=
  ∀ i < segments.length, segments[i]?.any isDots = true →
    depth (segments.take i).flatten = 0 ∧
      (segments[i]? = some dotDot →
        ∀ top ∈ ((segments.take i).foldl (push absolute) []).head?, depth top = 0)

instance (absolute : Bool) (segments : List Text) :
    Decidable (KeepsExpressions absolute segments) :=
  inferInstanceAs (Decidable (∀ i < _, _ → _ ∧ (_ → ∀ top ∈ _, _)))

theorem KeepsExpressions.of_append (h : KeepsExpressions absolute (before ++ rest)) :
    KeepsExpressions absolute before := by
  intro i hi hdots
  have hget : (before ++ rest)[i]? = before[i]? := List.getElem?_append_left hi
  have htake : (before ++ rest).take i = before.take i :=
    List.take_append_of_le_length (Nat.le_of_lt hi)
  have hlt : i < (before ++ rest).length := by
    rw [List.length_append]
    omega
  have := h i hlt (by rwa [hget])
  rwa [hget, htake] at this

theorem KeepsExpressions.last (h : KeepsExpressions absolute (before ++ [s]))
    (hdots : isDots s = true) :
    depth before.flatten = 0 ∧
      (s = dotDot → ∀ top ∈ (before.foldl (push absolute) []).head?, depth top = 0) := by
  have := h before.length (by simp) (by simpa using hdots)
  simpa using this

/-! ## Removing -/

theorem depth_slash : depth ['/'] = 0 := by decide

/-- One segment is put on the stack, which changes no text, or it is taken out of the text, and a
parent with it.  What is taken out stands between expressions. -/
theorem push_keeps (absolute : Bool)
    (h : HasExpressions d (front stack ++ (s ++ '/' :: t)) es)
    (hs : isDots s = true →
      depth (front stack) = 0 ∧ (s = dotDot → ∀ top ∈ stack.head?, depth top = 0)) :
    (∃ es', HasExpressions d (front (push absolute stack s) ++ t) es' ∧ es'.Sublist es) ∧
      depth (front (push absolute stack s)) = depth (front stack) + depth s := by
  have hkept : front (s :: stack) ++ t = front stack ++ (s ++ '/' :: t) := by
    rw [front_cons]
    simp
  have hcut : front stack ++ (s ++ '/' :: t) = front stack ++ ((s ++ ['/']) ++ t) := by simp
  -- The cases are those of `push`: either the segment goes on the stack, or it is taken away.
  unfold push
  split
  case isTrue hdot =>
    have hclosed := (hs (isDots_iff.mpr (.inl hdot))).1
    subst hdot
    rw [hcut] at h
    exact ⟨h.remove hclosed (by decide), (Int.add_zero _).symm⟩
  case isFalse =>
    split
    case isFalse =>
      refine ⟨⟨es, hkept ▸ h, List.Sublist.refl es⟩, ?_⟩
      rw [front_cons, depth_append, depth_append, depth_slash, Int.add_zero]
    case isTrue hdots =>
      have hclosed := (hs (isDots_iff.mpr (.inr hdots))).1
      have hparent := (hs (isDots_iff.mpr (.inr hdots))).2 hdots
      subst hdots
      have hdepth : depth dotDot = 0 := by decide
      split
      case h_1 =>
        split
        · rw [hcut] at h
          exact ⟨h.remove hclosed (by decide), rfl⟩
        · exact ⟨⟨es, h, List.Sublist.refl es⟩, rfl⟩
      case h_2 top below =>
        split
        case isTrue =>
          have htop := hparent top rfl
          have hbelow : depth (front below) = 0 := by
            rw [front_cons, depth_append, depth_append, htop, depth_slash] at hclosed
            simpa using hclosed
          -- The parent and the dots are taken away together, as one piece between expressions.
          have htaken : front (top :: below) ++ (dotDot ++ '/' :: t) =
              front below ++ ((top ++ ['/'] ++ (dotDot ++ ['/'])) ++ t) := by
            rw [front_cons]
            simp
          rw [htaken] at h
          refine ⟨h.remove hbelow ?_, ?_⟩
          · rw [depth_append, depth_append, htop]
            decide
          · rw [hclosed, hbelow, hdepth]
            rfl
        case isFalse =>
          split
          · rw [hcut] at h
            exact ⟨h.remove hclosed (by decide), by rw [hdepth, Int.add_zero]⟩
          · refine ⟨⟨es, hkept ▸ h, List.Sublist.refl es⟩, ?_⟩
            rw [front_cons, depth_append, depth_append, depth_slash, Int.add_zero]

/-- All segments but the last ones are put on the stack in turn. -/
theorem foldl_push_keeps (hrest : rest ≠ [])
    (h : HasExpressions d (Text.join ['/'] (before ++ rest)) es)
    (hkeeps : KeepsExpressions absolute before) :
    (∃ es', HasExpressions d
        (front (before.foldl (push absolute) []) ++ Text.join ['/'] rest) es' ∧ es'.Sublist es) ∧
      depth (front (before.foldl (push absolute) [])) = depth before.flatten := by
  -- The text is that of the stack and of the segments that are still to come.
  induction before using List.reverseRecOn generalizing rest with
  | nil => exact ⟨⟨es, h, List.Sublist.refl es⟩, rfl⟩
  | append_singleton before s ih =>
      rw [List.append_assoc, List.singleton_append] at h
      obtain ⟨⟨es', h', hsub⟩, hdepth⟩ := ih (List.cons_ne_nil s rest) h hkeeps.of_append
      rw [Text.join_cons_of_ne_nil _ _ hrest, List.append_assoc, List.singleton_append] at h'
      obtain ⟨⟨es'', h'', hsub'⟩, hdepth'⟩ := push_keeps absolute h' (by
        intro hdots
        rw [hdepth]
        exact hkeeps.last hdots)
      rw [List.foldl_append, List.foldl_cons, List.foldl_nil]
      refine ⟨⟨es'', h'', hsub'.trans hsub⟩, ?_⟩
      rw [hdepth', hdepth, List.flatten_append, depth_append]
      simp

/-- The segments without dot segments. -/
theorem resolve_keeps (h : HasExpressions d (Text.join ['/'] segments) es)
    (hkeeps : KeepsExpressions absolute segments) (hne : segments ≠ []) :
    ∃ es', HasExpressions d (Text.join ['/'] (resolve absolute segments)) es' ∧
      es'.Sublist es := by
  obtain ⟨before, last, rfl⟩ := (List.eq_nil_or_concat segments).resolve_left hne
  rw [List.concat_eq_append] at *
  rw [resolve, List.getLast?_concat, Option.any_some]
  cases hlast : isDots last with
  | true =>
      -- An empty segment behind the last one is a slash at the end.
      have hslash : HasExpressions d (Text.join ['/'] ((before ++ [last]) ++ [[]])) (es ++ []) := by
        have htext : Text.join ['/'] ((before ++ [last]) ++ [[]]) =
            Text.join ['/'] (before ++ [last]) ++ ['/'] := by
          rw [Text.join_append _ _ (List.cons_ne_nil [] []),
            Text.join_append _ _ (List.cons_ne_nil last [])]
          simp [Text.join]
        rw [htext]
        exact h.append (.plain (List.forall_mem_singleton.mpr (by decide)))
      rw [List.append_nil] at hslash
      obtain ⟨hall, -⟩ := foldl_push_keeps (List.cons_ne_nil [] []) hslash hkeeps
      rw [if_pos rfl, join_reverse_cons]
      exact hall
  | false =>
      obtain ⟨hall, -⟩ := foldl_push_keeps (List.cons_ne_nil last []) h hkeeps.of_append
      rw [if_neg Bool.false_ne_true, List.foldl_append, List.foldl_cons, List.foldl_nil,
        push_of_not_isDots absolute _ hlast, join_reverse_cons]
      exact hall

/-- Whether dot segments stand between expressions, in a path that begins with a slash or in one
that does not. -/
def StandBetween : Text → Prop
  | '/' :: rest => KeepsExpressions true (Text.split '/' rest)
  | uri => KeepsExpressions false (Text.split '/' uri)

theorem slash_keeps (h : HasExpressions d ('/' :: t) es) :
    ∃ es', HasExpressions d t es' ∧ es'.Sublist es :=
  h.remove (u := []) (v := ['/']) rfl depth_slash

theorem remove_keeps (h : HasExpressions d uri es) (hbetween : StandBetween uri) :
    ∃ es', HasExpressions d (remove uri) es' ∧ es'.Sublist es := by
  unfold remove
  split
  case isFalse => exact ⟨es, h, List.Sublist.refl es⟩
  case isTrue =>
    split
    case h_1 rest _ =>
      obtain ⟨es', h', hsub⟩ := slash_keeps h
      rw [← Text.join_split '/' rest] at h'
      obtain ⟨es'', h'', hsub'⟩ := resolve_keeps h' hbetween (Text.split_ne_nil '/' rest)
      have hslash : HasExpressions d ['/'] [] :=
        .plain (List.forall_mem_singleton.mpr (by decide))
      exact ⟨es'', hslash.append h'', hsub'.trans hsub⟩
    case h_2 hne =>
      rw [← Text.join_split '/' uri] at h
      refine resolve_keeps h ?_ (Text.split_ne_nil '/' uri)
      unfold StandBetween at hbetween
      split at hbetween
      case h_1 rest _ => exact absurd rfl (hne rest)
      case h_2 => exact hbetween

end DotSegments

/-- A template whose dot segments stand between expressions is still a template when it is
normalized, and each expression that it has then, it had before with the same spelling. -/
theorem normalize_keeps_expressions {d : Dialect} {t : Text} {p : Parsed}
    (hp : Parsed.ofText? d t = .ok p) (hbetween : DotSegments.StandBetween t) :
    ∃ q es es', Parsed.ofText? d (normalize t) = .ok q ∧
      HasExpressions d t es ∧ p.expressions = es.map (·.1) ∧
      HasExpressions d (normalize t) es' ∧ q.expressions = es'.map (·.1) ∧ es'.Sublist es := by
  obtain ⟨es, hes, hexpressions⟩ := (Parsed.ofText?_eq_ok_iff_speltBy.mp hp).hasExpressions
  obtain ⟨es₁, h₁, hsub₁⟩ := DotSegments.remove_keeps hes hbetween
  have hleading : ∃ es', HasExpressions d (normalize t) es' ∧ es'.Sublist es₁ := by
    rw [normalize]
    generalize DotSegments.remove t = u at h₁
    cases u with
    | nil => exact ⟨es₁, h₁, List.Sublist.refl es₁⟩
    | cons c u =>
        rw [Text.dropLeading]
        split
        case isTrue hc => exact DotSegments.slash_keeps (hc ▸ h₁)
        case isFalse => exact ⟨es₁, h₁, List.Sublist.refl es₁⟩
  obtain ⟨es', h', hsub'⟩ := hleading
  obtain ⟨q, hq, hexpressions'⟩ := h'.exists_speltBy
  exact ⟨q, es, es', Parsed.ofText?_eq_ok_iff_speltBy.mpr hq, hes, hexpressions, h', hexpressions',
    hsub'.trans hsub₁⟩

theorem normalize_keeps_expressions_parent :
    ∃ (p q : Parsed) (es es' : List (Part × Text)),
      Parsed.ofText? .simple "/{a}/../{x:b/c}/./d".toList = .ok p ∧
      Parsed.ofText? .simple (normalize "/{a}/../{x:b/c}/./d".toList) = .ok q ∧
      normalize "/{a}/../{x:b/c}/./d".toList = "{x:b/c}/d".toList ∧
      p.expressions = es.map (·.1) ∧ q.expressions = es'.map (·.1) ∧ es'.Sublist es := by
  have hok : (Parsed.ofText? .simple "/{a}/../{x:b/c}/./d".toList).toOption.any (fun _ => true) =
      true := by
    decide +kernel
  obtain ⟨p, hp, -⟩ := exists_ok_of_any hok
  have hbetween : DotSegments.StandBetween "/{a}/../{x:b/c}/./d".toList := by
    change DotSegments.KeepsExpressions true _
    decide +kernel
  obtain ⟨q, es, es', hq, -, hes, -, hes', hsub⟩ := normalize_keeps_expressions hp hbetween
  exact ⟨p, q, es, es', hp, hq, by decide +kernel, hes, hes', hsub⟩

/-- Dot segments inside of expressions: the first template is none any more when it is normalized,
and the second one has another argument. -/
theorem normalize_cuts_expressions :
    ((Parsed.ofText? .simple "{x:a/../b}".toList).toOption.isSome = true ∧
      (Parsed.ofText? .simple (normalize "{x:a/../b}".toList)).toOption.isSome = false) ∧
    (Parsed.ofText? .extended "{-list|/./|x}".toList).toOption =
        some ⟨[.operator "list".toList "/./".toList [("x".toList, none)]], []⟩ ∧
      (Parsed.ofText? .extended (normalize "{-list|/./|x}".toList)).toOption =
        some ⟨[.operator "list".toList "/".toList [("x".toList, none)]], []⟩ := by
  decide +kernel

end PathTemplate
