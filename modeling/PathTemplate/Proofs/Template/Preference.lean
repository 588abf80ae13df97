import PathTemplate.Proofs.Regex.Priority
import PathTemplate.Proofs.Template.Decomposition

/-!
# Preference — how a search goes through the elements of a template

The search tries the elements from left to right, and after them the tail.  What it finds depends on
the tail only through this: the rest succeeds wherever a tail begins, and then in one way.

- `Template.ending`                  : what follows the elements
- `Template.ending_eq_some_iff`      : it succeeds exactly in front of a tail
- `Template.search_framed`           : a search goes through the elements, and then on to the tail
- `Template.exists_pieces_of_prefer` : pieces of elements in a row, and what follows them
-/

namespace PathTemplate
namespace Template

open Element (textOf boundariesAll)

variable {es : List Element} {tailGroup : Nat} {c d : Cut} {k : Continuation} {t : Trace}

/-! ## The end of the head, and the tail -/

/-- What follows the elements: the head ends, and a tail takes the rest of the text. -/
def ending (es : List Element) (tailGroup : Nat) : Continuation := fun c =>
  ((Pattern.seqs [.group tailGroup (tailExpression es), .look .textEnd]).regex.prefer .done c).map
    (.closes headGroup c.index :: ·)

def endingTrace (tailGroup : Nat) (c : Cut) : Trace :=
  [.closes headGroup c.index, .opens tailGroup c.index,
    .closes tailGroup (c.index + c.after.length)]

/-- Matches of what follows the elements: a tail takes the rest of the text. -/
theorem matches_ending_iff :
    (Pattern.seqs [.group tailGroup (tailExpression es), .look .textEnd]).regex.Matches c t d ↔
      c.Passes c.after d ∧ c.after ∈ tails es ∧
        t = [.opens tailGroup c.index, .closes tailGroup (c.index + c.after.length)] := by
  have hend : Look.textEnd.holds d.gap = true ↔ d.after = [] := by
    simp [Look.holds, Cut.gap]
  constructor
  · intro h
    rcases Pattern.matches_seqs_cons_iff.mp h with ⟨e, _, _, htail, hlook, rfl⟩
    rcases (Element.matches_group_iff (spells_tailExpression es)).mp htail with
      ⟨tail, hmem, rfl, hpass⟩
    rcases Regex.matches_look_iff.mp hlook with ⟨rfl, rfl, hafter⟩
    have hall : c.after = tail := by rw [hpass.1, hend.mp hafter, List.append_nil]
    rw [hall]
    exact ⟨hpass, hmem, List.append_nil _⟩
  · rintro ⟨hpass, hmem, rfl⟩
    have hafter : d.after = [] := by simpa using hpass.1
    have htail := (Element.matches_group_iff (k := tailGroup) (spells_tailExpression es)).mpr
      ⟨c.after, hmem, rfl, hpass⟩
    exact Pattern.matches_seqs_cons_iff.mpr
      ⟨d, _, [], htail, Regex.Matches.look (hend.mpr hafter), by simp⟩

/-- What follows the elements succeeds exactly in front of a tail, and in one way. -/
theorem ending_eq_some_iff :
    ending es tailGroup c = some t ↔ c.after ∈ tails es ∧ t = endingTrace tailGroup c := by
  have hsound : ∀ {t}, ending es tailGroup c = some t →
      c.after ∈ tails es ∧ t = endingTrace tailGroup c := by
    intro t h
    rcases Option.map_eq_some_iff.mp h with ⟨s, hs, rfl⟩
    rcases Regex.then_of_prefer hs with ⟨d, t₁, _, hmatch, hdone, rfl⟩
    cases hdone
    rcases matches_ending_iff.mp hmatch with ⟨-, hmem, rfl⟩
    exact ⟨hmem, rfl⟩
  refine ⟨hsound, ?_⟩
  rintro ⟨hmem, rfl⟩
  have hpass : c.Passes c.after ⟨c.after.reverse ++ c.before, []⟩ := by simp [Cut.Passes]
  have htame : (Pattern.seqs [.group tailGroup (tailExpression es), .look .textEnd]).regex.Tame :=
    ⟨tame_tailExpression es, trivial⟩
  have hsome : (ending es tailGroup c).isSome = true := by
    rw [ending, Option.isSome_map]
    exact (matches_ending_iff.mpr ⟨hpass, hmem, rfl⟩).isSome_prefer htame rfl
  rcases Option.isSome_iff_exists.mp hsome with ⟨s, hs⟩
  rw [hs, (hsound hs).2]

/-- A search goes through the elements, and then on to the tail. -/
theorem search_framed {body : List Pattern} (hbody : ∀ p ∈ body, p.regex.Tame) (path : Text) :
    (framed body es tailGroup).regex.search path =
      ((Pattern.seqs body).regex.prefer (ending es tailGroup) ⟨[], path⟩).map
        (.opens headGroup 0 :: ·) := by
  refine (Regex.search_eq_prefer (tame_framed hbody) ?_ path).trans rfl
  rintro ⟨b, a⟩ hb
  obtain ⟨x, b, rfl⟩ := List.exists_cons_of_ne_nil hb
  rfl

/-! ## The elements -/

/-- An outcome of elements in a row: a piece for each of them, and what follows the last. -/
theorem exists_pieces_of_prefer (hplain : ∀ e ∈ es, e.IsPlain)
    (h : (Pattern.seqs (es.flatMap Element.expressions)).regex.prefer k c = some t) :
    ∃ us d s, List.Forall₂ Element.Records es us ∧ c.Passes (textOf us) d ∧ k d = some s ∧
      t = boundariesAll es us c.index ++ s := by
  rcases Regex.then_of_prefer h with ⟨d, t₁, s, hmatch, hrest, rfl⟩
  rw [List.flatMap_def] at hmatch
  rcases exists_pieces (spans_expressions hplain) hmatch with ⟨us, hus, rfl, hpass⟩
  exact ⟨us, d, s, hus, hpass, hrest, rfl⟩

/-- Elements that have pieces have an outcome, if the rest can succeed after the pieces. -/
theorem isSome_prefer_of_pieces {us : List (Option Text)} (hplain : ∀ e ∈ es, e.IsPlain)
    (htame : ∀ p ∈ es.flatMap Element.expressions, p.regex.Tame)
    (hus : List.Forall₂ Element.Records es us) (hpass : c.Passes (textOf us) d)
    (hk : (k d).isSome = true) :
    ((Pattern.seqs (es.flatMap Element.expressions)).regex.prefer k c).isSome = true :=
  (matches_of_pieces hplain hus hpass).isSome_prefer (Pattern.tame_seqs_iff.mpr htame) hk

end Template
end PathTemplate
