import PathTemplate.Yaml.Cursor

/-!
# Spacing — what stands between two words of a scalar

- `Spacing`           : blanks and line breaks
- `Spacing.text`      : the text they fold to
- `Spacing.ofCursor?` : the spacing at a place
-/

namespace PathTemplate
namespace Yaml

/-- Blanks and line breaks: the blanks before the first break, and what the breaks read as.  An
escaped line break reads as nothing. -/
structure Spacing where
  blanks : Text := []
  breaks : List Text := []
  cursor : Cursor
  deriving DecidableEq, Repr

namespace Spacing

def isBroken (g : Spacing) : Bool := g.breaks != []

def isEmpty (g : Spacing) : Bool := g.blanks.isEmpty && g.breaks.isEmpty

/-- What spacing between words reads as: one line break is a space, and of several all but the first
stay.  Breaks that are no line feeds stay as well. -/
def text (g : Spacing) : Text :=
  match g.breaks with
  | [] => g.blanks
  | [['\n']] => [' ']
  | ['\n'] :: more => more.flatten
  | breaks => breaks.flatten

/-- One blank more.  Blanks that begin a line do not count. -/
def addBlank (g : Spacing) (d : Char) : Spacing :=
  { g with
    blanks := if g.isBroken then [] else g.blanks ++ [d]
    cursor := g.cursor.skip 1 }

/-- Go over blanks and line breaks.  After a break, a tab left of `margin` is refused. -/
def extend (margin : Nat) (g : Spacing) : Option Spacing :=
  match _hb : g.cursor.crossBreak with
  | some (d, c) => extend margin { blanks := [], breaks := g.breaks ++ [[d]], cursor := c }
  | none =>
      match _hr : g.cursor.rest with
      | [] => some g
      | d :: _ =>
          if !isBlank d then some g
          else if d = '\t' ∧ g.isBroken ∧ g.cursor.column < margin then none
          else extend margin (g.addBlank d)
termination_by g.cursor.rest.length
decreasing_by
  · exact Cursor.length_crossBreak _hb
  · simp [addBlank, Cursor.length_skip, _hr]

def ofCursor? (margin : Nat) (c : Cursor) : Option Spacing := extend margin { cursor := c }

theorem length_extend_le {margin : Nat} {g g' : Spacing} (h : extend margin g = some g') :
    g'.cursor.rest.length ≤ g.cursor.rest.length := by
  fun_induction extend margin g with
  | case1 g d c hb ih => exact Nat.le_trans (ih h) (Nat.le_of_lt (Cursor.length_crossBreak hb))
  | case2 g => cases h; exact Nat.le_refl _
  | case3 g => cases h; exact Nat.le_refl _
  | case4 => cases h
  | case5 g hb d t hr hd ht ih =>
      exact Nat.le_trans (ih h) (Cursor.length_skip_le _ _)

theorem length_ofCursor?_le {margin : Nat} {c : Cursor} {g : Spacing}
    (h : ofCursor? margin c = some g) : g.cursor.rest.length ≤ c.rest.length :=
  length_extend_le h

/-- At a blank or the end of a line, there is spacing. -/
theorem length_ofCursor?_lt {margin : Nat} {c : Cursor} {g : Spacing} {d : Char} {t : Text}
    (hr : c.rest = d :: t) (hd : isBlank d || isBreak d) (h : ofCursor? margin c = some g) :
    g.cursor.rest.length < c.rest.length := by
  rw [ofCursor?, extend] at h
  split at h
  · case _ hb =>
      exact Nat.lt_of_le_of_lt (length_extend_le h) (Cursor.length_crossBreak hb)
  · case _ hb =>
      have hbreak : isBreak d = false := by
        cases hbd : isBreak d with
        | false => rfl
        | true =>
            simp only [Cursor.crossBreak, hr] at hb
            split at hb <;> simp_all
      have hblank : isBlank d = true := by simpa [hbreak] using hd
      split at h
      · simp_all
      · case _ hr' =>
          obtain ⟨rfl, rfl⟩ : d = _ ∧ t = _ := by simpa [hr] using hr'
          rw [if_neg (by simp [hblank])] at h
          split at h
          · cases h
          · refine Nat.lt_of_le_of_lt (length_extend_le h) ?_
            simp [addBlank, Cursor.length_skip, hr]

end Spacing
end Yaml
end PathTemplate
