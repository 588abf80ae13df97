import PathTemplate.Segment
import PathTemplate.Proofs.Multimap
import PathTemplate.Proofs.Text.Splitting

/-!
# Segment — nothing of a path is lost in its segments

- `Segment.render`           : a segment from its text and its matrix parameters
- `Segment.parse_render`     : what is rendered is parsed
- `Segment.sum_rawLength`    : the segments of a path and the slashes between them make up the path
- `Segment.parse_lossless`   : both, for every path and for every text with parameters
-/

namespace PathTemplate
namespace Segment

variable {text : Text} {parameters : List (Text × Text)}

/-- A segment as it is written: the text, and each parameter behind a semicolon. -/
def render (text : Text) (parameters : List (Text × Text)) : Text :=
  text ++ parameters.flatMap fun p => ';' :: p.1 ++ '=' :: p.2

theorem render_eq_join (text : Text) (parameters : List (Text × Text)) :
    render text parameters =
      Text.join [';'] (text :: parameters.map fun p => p.1 ++ '=' :: p.2) := by
  rw [Text.join_cons, List.flatMap_map]
  rfl

/-- A parameter is taken apart at its first equals sign. -/
theorem parameter_append {name : Text} (h : '=' ∉ name) (value : Text) :
    parameter (name ++ '=' :: value) = (name, value) := by
  rw [parameter, Text.splitOnce_append h, Option.getD_some]

/-- What is rendered is parsed: the parameters are collected one after the other. -/
theorem parse_render (htext : ';' ∉ text)
    (hparameters : ∀ p ∈ parameters, '=' ∉ p.1 ∧ ';' ∉ p.1 ∧ ';' ∉ p.2) :
    parse (render text parameters) =
      ⟨text, .ofPairs parameters, (render text parameters).byteLength⟩ := by
  have hpieces : ∀ p ∈ text :: parameters.map (fun p => p.1 ++ '=' :: p.2), ';' ∉ p := by
    refine List.forall_mem_cons.mpr ⟨htext, List.forall_mem_map.mpr fun p hp => ?_⟩
    obtain ⟨-, hname, hvalue⟩ := hparameters p hp
    simp [hname, hvalue]
  have hsplit : (render text parameters).split ';' =
      text :: parameters.map fun p => p.1 ++ '=' :: p.2 := by
    rw [render_eq_join, Text.split_join (List.cons_ne_nil _ _) hpieces]
  -- A rendered parameter has its equals sign, so none of them is skipped as empty.
  have hkept : (parameters.map fun p => p.1 ++ '=' :: p.2).filter (· ≠ []) =
      parameters.map fun p => p.1 ++ '=' :: p.2 :=
    List.filter_eq_self.mpr (List.forall_mem_map.mpr fun p _ => by simp)
  have hread : (parameters.map fun p => p.1 ++ '=' :: p.2).map parameter = parameters := by
    rw [List.map_map]
    refine (List.map_congr_left fun p hp => ?_).trans (List.map_id parameters)
    exact parameter_append (hparameters p hp).1 p.2
  rw [parse, hsplit, List.tail_cons, hkept, hread]
  rfl

/-- The segments of a path and the slashes between them make up the path, less one leading slash. -/
theorem sum_rawLength (path : Text) :
    ((splitPath path).map rawLength).sum + (path.dropLeading '/').count '/' =
      (path.dropLeading '/').byteLength := by
  have hslash : '/'.utf8Size = 1 := rfl
  rw [← Text.sum_byteLength_split '/' (path.dropLeading '/'), hslash, Nat.mul_one, splitPath,
    List.map_map]
  rfl

/-- Every path has one segment for each piece between slashes, less one leading slash, and the
segments and the slashes between them have as many octets as the path.  A text with parameters, none
of which has a semicolon, and whose names have no equals sign, is parsed to this text and these
parameters, grouped by their names. -/
theorem parse_lossless :
    (∀ path : Text, ∃ pieces,
      (∀ ps, Text.IsCut '/' (path.dropLeading '/') ps ↔ ps = pieces) ∧
      splitPath path = pieces.map parse ∧
      (splitPath path).length = (path.dropLeading '/').count '/' + 1 ∧
      ((splitPath path).map rawLength).sum + (path.dropLeading '/').count '/' =
        (path.dropLeading '/').byteLength) ∧
    ∀ (text : Text) (parameters : List (Text × Text)), ';' ∉ text →
      (∀ p ∈ parameters, '=' ∉ p.1 ∧ ';' ∉ p.1 ∧ ';' ∉ p.2) →
      (parse (render text parameters)).path = text ∧
      (parse (render text parameters)).matrix = .ofPairs parameters ∧
      (parse (render text parameters)).matrix.entries =
        (parameters.map (·.1)).eraseDups.map (fun name =>
          (name, (parameters.filter fun p => p.1 == name).map (·.2))) ∧
      (parse (render text parameters)).rawLength = (render text parameters).byteLength := by
  constructor
  · intro path
    refine ⟨(path.dropLeading '/').split '/', fun ps => Text.isCut_iff, rfl, ?_, sum_rawLength path⟩
    rw [splitPath, List.length_map, Text.length_split]
  · intro text parameters htext hparameters
    rw [parse_render htext hparameters]
    exact ⟨rfl, rfl, Multimap.entries_ofPairs parameters, rfl⟩

theorem parse_lossless_cars :
    (parse (render "cars".toList
      [("color".toList, "red".toList), ([], []), ("color".toList, "a=b".toList)])).matrix.entries =
        [("color".toList, ["red".toList, "a=b".toList]), ([], [[]])] := by
  have hparameters : ∀ p ∈ [("color".toList, "red".toList), ([], []),
      ("color".toList, "a=b".toList)], '=' ∉ p.1 ∧ ';' ∉ p.1 ∧ ';' ∉ p.2 := by decide
  rw [(parse_lossless.2 "cars".toList _ (by decide) hparameters).2.2.1]
  decide

end Segment
end PathTemplate
