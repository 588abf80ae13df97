import PathTemplate.Proofs.Element.Pieces
import PathTemplate.Template.Matcher

/-!
# Captures — which texts the groups of a match hold

- `Trace.Avoids`            : a trace has no boundary of a group
- `Element.boundariesAll`   : the boundaries of elements in a row
- `Template.matchTrace`     : the trace of a whole match, from the pieces of the elements
- `Template.capture_element` : every group holds the piece of its element
- `Template.pieceOf`        : the text under an element, as the match recorded it
- `Template.map_pieceOf`    : the texts under the elements are the pieces of the match
-/

namespace PathTemplate

/-! ## Boundaries -/

def Boundary.number : Boundary → Nat
  | opens k _ => k
  | closes k _ => k

namespace Trace

variable {k i j : Nat} {s t : Trace}

def Avoids (t : Trace) (k : Nat) : Prop := ∀ b ∈ t, b.number ≠ k

theorem Avoids.append (hs : s.Avoids k) (ht : t.Avoids k) : Trace.Avoids (s ++ t) k := by
  intro b hb
  rcases List.mem_append.mp hb with hb | hb
  · exact hs b hb
  · exact ht b hb

theorem lastOpened_append (k : Nat) (s t : Trace) :
    lastOpened k (s ++ t) = (lastOpened k t).orElse fun _ => lastOpened k s := by
  -- The second trace is later, so it is asked first.
  induction s with
  | nil => cases h : lastOpened k t <;> simp [lastOpened, h]
  | cons b s ih =>
      cases b with
      | opens j i =>
          simp only [List.cons_append, lastOpened, ih]
          cases lastOpened k t <;> rfl
      | closes j i => simp only [List.cons_append, lastOpened, ih]

theorem lastClosed_append (k : Nat) (s t : Trace) :
    lastClosed k (s ++ t) = (lastClosed k t).orElse fun _ => lastClosed k s := by
  induction s with
  | nil => cases h : lastClosed k t <;> simp [lastClosed, h]
  | cons b s ih =>
      cases b with
      | opens j i => simp only [List.cons_append, lastClosed, ih]
      | closes j i =>
          simp only [List.cons_append, lastClosed, ih]
          cases lastClosed k t <;> rfl

theorem Avoids.lastOpened (h : t.Avoids k) : lastOpened k t = none := by
  induction t with
  | nil => rfl
  | cons b t ih =>
      have ht := ih fun b hb => h b (List.mem_cons_of_mem _ hb)
      have hb := h b List.mem_cons_self
      cases b with
      | opens j i => simpa [Trace.lastOpened, ht, Boundary.number] using hb
      | closes j i => exact ht

theorem Avoids.lastClosed (h : t.Avoids k) : lastClosed k t = none := by
  induction t with
  | nil => rfl
  | cons b t ih =>
      have ht := ih fun b hb => h b (List.mem_cons_of_mem _ hb)
      have hb := h b List.mem_cons_self
      cases b with
      | opens j i => exact ht
      | closes j i => simpa [Trace.lastClosed, ht, Boundary.number] using hb

/-- A group that is entered once more and left once more has the span of that visit. -/
theorem span?_visit {u : Trace} (hu : u.Avoids k) (ht : t.Avoids k) :
    span? (s ++ .opens k i :: (u ++ .closes k j :: t)) k = some (i, j) := by
  have hopened : lastOpened k (s ++ .opens k i :: (u ++ .closes k j :: t)) = some i := by
    rw [lastOpened_append]
    simp [lastOpened, lastOpened_append, hu.lastOpened, ht.lastOpened]
  have hclosed : lastClosed k (s ++ .opens k i :: (u ++ .closes k j :: t)) = some j := by
    rw [lastClosed_append]
    simp [lastClosed, lastClosed_append, ht.lastClosed]
  rw [span?, hopened, hclosed]

theorem Avoids.span? (h : t.Avoids k) : t.span? k = none := by
  rw [Trace.span?, h.lastOpened]

end Trace

/-! ## Elements in a row -/

namespace Element

def textOf (pieces : List (Option Text)) : Text := pieces.flatMap fun u => u.getD []

@[simp] theorem textOf_nil : textOf [] = [] := rfl

@[simp] theorem textOf_cons (u : Option Text) (us : List (Option Text)) :
    textOf (u :: us) = u.getD [] ++ textOf us := rfl

@[simp] theorem textOf_append (us vs : List (Option Text)) :
    textOf (us ++ vs) = textOf us ++ textOf vs := List.flatMap_append

/-- The boundaries of elements in a row with their pieces, the first of which begins at `i`. -/
def boundariesAll : List Element → List (Option Text) → Nat → Trace
  | e :: es, u :: us, i => e.boundaries u i ++ boundariesAll es us (i + (u.getD []).length)
  | _, _, _ => []

theorem boundariesAll_append {es : List Element} {us : List (Option Text)}
    (hlen : es.length = us.length) (es' : List Element) (us' : List (Option Text)) (i : Nat) :
    boundariesAll (es ++ es') (us ++ us') i =
      boundariesAll es us i ++ boundariesAll es' us' (i + (textOf us).length) := by
  induction es generalizing us i with
  | nil =>
      obtain rfl : us = [] := List.eq_nil_of_length_eq_zero hlen.symm
      simp [boundariesAll]
  | cons e es ih =>
      cases us with
      | nil => cases hlen
      | cons u us =>
          simp only [List.cons_append, boundariesAll, ih (Nat.succ.inj hlen), textOf_cons,
            List.length_append, List.append_assoc, Nat.add_assoc]

theorem number_boundaries {e : Element} {u : Option Text} {i : Nat} {b : Boundary}
    (hb : b ∈ e.boundaries u i) : e.group? = some b.number := by
  unfold boundaries at hb
  split at hb
  case h_1 k v hk =>
    simp only [List.mem_cons, List.not_mem_nil, or_false] at hb
    rcases hb with rfl | rfl
    · exact hk
    · exact hk
  case h_2 => cases hb

end Element

namespace Template

open Element (textOf boundariesAll)

namespace Numbered

variable {a b : Nat} {es es' : List Element}

theorem le (h : Numbered a es b) : a ≤ b := by
  induction h with
  | nil k => exact Nat.le_refl k
  | literal t h ih => exact ih
  | owner hk h ih => exact Nat.le_of_succ_le ih

theorem of_append (h : Numbered a (es ++ es') b) : ∃ c, Numbered a es c ∧ Numbered c es' b := by
  induction es generalizing a with
  | nil => exact ⟨a, .nil a, h⟩
  | cons e es ih =>
      cases h with
      | literal t h =>
          rcases ih h with ⟨c, hes, hes'⟩
          exact ⟨c, .literal t hes, hes'⟩
      | owner hk h =>
          rcases ih h with ⟨c, hes, hes'⟩
          exact ⟨c, .owner hk hes, hes'⟩

/-- The groups in a row have numbers in the row. -/
theorem number_mem (h : Numbered a es b) {us : List (Option Text)} {i : Nat} {x : Boundary}
    (hx : x ∈ boundariesAll es us i) : a ≤ x.number ∧ x.number < b := by
  induction h generalizing us i with
  | nil k => cases us <;> cases hx
  | literal t h ih =>
      cases us with
      | nil => cases hx
      | cons u us => exact ih hx
  | @owner k l e es hk h ih =>
      cases us with
      | nil => cases hx
      | cons u us =>
          rcases List.mem_append.mp hx with hx | hx
          · -- The first boundaries belong to the first element, and its number is the first.
            have hnumber := Element.number_boundaries hx
            have hle := h.le
            rw [hk] at hnumber
            have heq := Option.some.inj hnumber
            omega
          · have hrest := ih hx
            omega

theorem avoids (h : Numbered a es b) (us : List (Option Text)) (i : Nat) {k : Nat}
    (hk : k < a ∨ b ≤ k) : (boundariesAll es us i).Avoids k := by
  intro x hx
  have hmem := h.number_mem hx
  omega

end Numbered

/-! ## Whole matches -/

/-- The trace of a match: the head around the elements, and the tail after it. -/
def matchTrace (es : List Element) (us : List (Option Text)) (tail : Text) (tailGroup : Nat) :
    Trace :=
  .opens headGroup 0 :: (boundariesAll es us 0 ++ .closes headGroup (textOf us).length ::
    [.opens tailGroup (textOf us).length,
      .closes tailGroup ((textOf us).length + tail.length)])

variable {es : List Element} {us : List (Option Text)} {tail : Text} {tailGroup : Nat}

theorem span?_headGroup (hn : Numbered 2 es tailGroup) :
    (matchTrace es us tail tailGroup).span? headGroup = some (0, (textOf us).length) := by
  have hle := hn.le
  have htail : Trace.Avoids [.opens tailGroup (textOf us).length,
      .closes tailGroup ((textOf us).length + tail.length)] headGroup := by
    intro x hx
    simp only [List.mem_cons, List.not_mem_nil, or_false] at hx
    rcases hx with rfl | rfl <;> simp only [Boundary.number, headGroup] <;> omega
  exact Trace.span?_visit (s := []) (hn.avoids us 0 (.inl (by decide))) htail

theorem span?_tailGroup :
    (matchTrace es us tail tailGroup).span? tailGroup =
      some ((textOf us).length, (textOf us).length + tail.length) := by
  have hnil : ∀ k, Trace.Avoids [] k := fun k b hb => by cases hb
  have hvisit := Trace.span?_visit
    (s := .opens headGroup 0 :: (boundariesAll es us 0 ++ [.closes headGroup (textOf us).length]))
    (i := (textOf us).length) (j := (textOf us).length + tail.length) (hnil tailGroup)
    (hnil tailGroup)
  simpa [matchTrace] using hvisit

/-- Before an element's group, only the head and the groups of the elements before are opened. -/
theorem avoids_before {a : Nat} (h : Numbered 2 es a) :
    Trace.Avoids (.opens headGroup 0 :: boundariesAll es us 0) a := by
  intro x hx
  rcases List.mem_cons.mp hx with rfl | hx
  · have hle := h.le
    simp only [Boundary.number, headGroup]
    omega
  · exact h.avoids us 0 (.inr (Nat.le_refl a)) x hx

/-- After an element's group come those of the elements after, the end of the head and the tail. -/
theorem avoids_after {a i m k : Nat} (h : Numbered (a + 1) es tailGroup) (ha : 2 ≤ a) :
    Trace.Avoids (boundariesAll es us i ++
      [.closes headGroup m, .opens tailGroup m, .closes tailGroup k]) a := by
  refine (h.avoids us i (.inl (Nat.lt_succ_self a))).append ?_
  have hle := h.le
  intro x hx
  simp only [List.mem_cons, List.not_mem_nil, or_false] at hx
  rcases hx with rfl | rfl | rfl <;> simp only [Boundary.number, headGroup] <;> omega

/-- The span of a group that belongs to one of the elements. -/
theorem span?_element {e : Element} {u : Option Text} {es' : List Element}
    {us' : List (Option Text)} (hn : Numbered 2 (es ++ e :: es') tailGroup)
    (hlen : es.length = us.length) {k : Nat} (hk : e.group? = some k) :
    (matchTrace (es ++ e :: es') (us ++ u :: us') tail tailGroup).span? k =
      u.map fun v => ((textOf us).length, (textOf us).length + v.length) := by
  rcases hn.of_append with ⟨a, hbefore, hrest⟩
  cases hrest with
  | literal t h => cases hk
  | owner ha hafter =>
      obtain rfl : a = k := Option.some.inj (ha.symm.trans hk)
      let i := (textOf us).length
      let m := (textOf (us ++ u :: us')).length
      let t : Trace := boundariesAll es' us' (i + (u.getD []).length) ++
        [.closes headGroup m, .opens tailGroup m, .closes tailGroup (m + tail.length)]
      have hs : Trace.Avoids (.opens headGroup 0 :: boundariesAll es us 0) a :=
        avoids_before hbefore
      have ht : t.Avoids a := avoids_after hafter hbefore.le
      have htrace : matchTrace (es ++ e :: es') (us ++ u :: us') tail tailGroup =
          (.opens headGroup 0 :: boundariesAll es us 0) ++ (e.boundaries u i ++ t) := by
        simp [matchTrace, Element.boundariesAll_append hlen, boundariesAll, t, m, i]
      rw [htrace]
      -- The only boundaries of the group, if there are any, are those of its own element.
      cases u with
      | none =>
          have hnone : e.boundaries none i = [] := by simp [Element.boundaries]
          rw [hnone]
          exact (hs.append ht).span?
      | some v =>
          have hsome : e.boundaries (some v) i = [.opens a i, .closes a (i + v.length)] := by
            simp [Element.boundaries, hk]
          have hnil : Trace.Avoids [] a := fun b hb => by cases hb
          rw [hsome]
          exact Trace.span?_visit hnil ht

/-! ### The texts of the groups -/

theorem slice_middle (x v y : Text) :
    Text.slice (x ++ v ++ y) (x.length, x.length + v.length) = v := by
  simp [Text.slice]

theorem capture_headGroup (hn : Numbered 2 es tailGroup) :
    (matchTrace es us tail tailGroup).capture (textOf us ++ tail) headGroup =
      some (textOf us, 0) := by
  rw [Trace.capture, span?_headGroup hn]
  simp [Text.slice]

theorem capture_tailGroup :
    (matchTrace es us tail tailGroup).capture (textOf us ++ tail) tailGroup =
      some (tail, (textOf us).byteLength) := by
  rw [Trace.capture, span?_tailGroup]
  simp [Text.slice]

/-- The group of an element holds the element's piece, which begins where the pieces before end. -/
theorem capture_element {e : Element} {u : Option Text} {es' : List Element}
    {us' : List (Option Text)} (hn : Numbered 2 (es ++ e :: es') tailGroup)
    (hlen : es.length = us.length) {k : Nat} (hk : e.group? = some k) :
    (matchTrace (es ++ e :: es') (us ++ u :: us') tail tailGroup).capture
        (textOf (us ++ u :: us') ++ tail) k =
      u.map fun v => (v, (textOf us).byteLength) := by
  rw [Trace.capture, span?_element hn hlen hk]
  cases u with
  | none => rfl
  | some v =>
      have hpath : textOf (us ++ some v :: us') ++ tail =
          textOf us ++ v ++ (textOf us' ++ tail) := by
        simp
      simp only [Option.map_some, hpath, slice_middle]
      simp

/-- What is related to a list is cut where the list is. -/
theorem exists_cut {α β : Type} {R : α → β → Prop} {xs xs' : List α} {x : α} {ys : List β}
    (h : List.Forall₂ R (xs ++ x :: xs') ys) :
    ∃ zs y zs', ys = zs ++ y :: zs' ∧ xs.length = zs.length ∧ R x y := by
  induction xs generalizing ys with
  | nil =>
      obtain ⟨y, zs', hy, -, rfl⟩ := List.forall₂_cons_left_iff.mp h
      exact ⟨[], y, zs', rfl, rfl, hy⟩
  | cons x' xs ih =>
      obtain ⟨y', ys', -, hrest, rfl⟩ := List.forall₂_cons_left_iff.mp h
      obtain ⟨zs, y, zs', rfl, hlength, hy⟩ := ih hrest
      exact ⟨y' :: zs, y, zs', rfl, congrArg (· + 1) hlength, hy⟩

/-- What is known of an element and its record is known of it and what its group holds. -/
theorem forall₂_capture {R : Element → Option Text → Prop} {us : List (Option Text)}
    (hn : Numbered 2 es tailGroup) (hus : List.Forall₂ R es us) {e : Element} (he : e ∈ es)
    {k : Nat} (hk : e.group? = some k) :
    R e (((matchTrace es us tail tailGroup).capture (textOf us ++ tail) k).map (·.1)) := by
  -- The records are cut where the elements are, before and after this one.
  rcases List.append_of_mem he with ⟨before, after, rfl⟩
  rcases exists_cut hus with ⟨us₁, u, us₂, rfl, hlength, hu⟩
  rw [capture_element hn hlength hk]
  cases u with
  | none => exact hu
  | some v => exact hu

/-- The text under an element in a match: a literal's own text, and what a group has captured.  A
group that took no part has captured the empty text. -/
def pieceOf (trace : Trace) (path : Text) : Element → Text
  | .literal t => t
  | e => ((e.group?.bind (trace.capture path)).map (·.1)).getD []

/-- What is recorded of a literal is its text. -/
def LiteralFits (e : Element) (u : Option Text) : Prop := ∀ t, e = .literal t → u = some t

theorem pieceOf_element {e : Element} {u : Option Text} {es' : List Element}
    {us' : List (Option Text)} (hn : Numbered 2 (es ++ e :: es') tailGroup)
    (hlen : es.length = us.length) (hu : LiteralFits e u) :
    pieceOf (matchTrace (es ++ e :: es') (us ++ u :: us') tail tailGroup)
      (textOf (us ++ u :: us') ++ tail) e = u.getD [] := by
  cases e with
  | literal t =>
      rw [hu t rfl]
      rfl
  | «variable» v =>
      rw [pieceOf, Element.group?, Option.bind_some, capture_element hn hlen rfl]
      · cases u <;> rfl
      · exact fun t ht => by cases ht
  | operator o =>
      rw [pieceOf, Element.group?, Option.bind_some, capture_element hn hlen rfl]
      · cases u <;> rfl
      · exact fun t ht => by cases ht

theorem map_pieceOf_append {es' : List Element} {us' : List (Option Text)}
    (hn : Numbered 2 (es ++ es') tailGroup) (hlen : es.length = us.length)
    (hfits : List.Forall₂ LiteralFits es' us') :
    es'.map (pieceOf (matchTrace (es ++ es') (us ++ us') tail tailGroup)
      (textOf (us ++ us') ++ tail)) = us'.map fun u => u.getD [] := by
  -- The elements before are kept, because the traces are those of the whole match.
  induction hfits generalizing es us with
  | nil => rfl
  | @cons e u es' us' hu hrest ih =>
      have hn' : Numbered 2 (es ++ [e] ++ es') tailGroup := by simpa using hn
      have hlen' : (es ++ [e]).length = (us ++ [u]).length := by simp [hlen]
      have hcons := ih hn' hlen'
      simp only [List.append_assoc, List.cons_append, List.nil_append] at hcons
      rw [List.map_cons, List.map_cons, pieceOf_element hn hlen hu, hcons]

/-- The texts under the elements are the pieces that make up the match. -/
theorem map_pieceOf (hn : Numbered 2 es tailGroup) (hfits : List.Forall₂ LiteralFits es us) :
    es.map (pieceOf (matchTrace es us tail tailGroup) (textOf us ++ tail)) =
      us.map fun u => u.getD [] := by
  have hn' : Numbered 2 ([] ++ es) tailGroup := hn
  have hlen : ([] : List Element).length = ([] : List (Option Text)).length := rfl
  have hall : es.map (pieceOf (matchTrace ([] ++ es) ([] ++ us) tail tailGroup)
      (textOf ([] ++ us) ++ tail)) = us.map fun u => u.getD [] :=
    map_pieceOf_append hn' hlen hfits
  exact hall

end Template
end PathTemplate
