/-!
# Text — sequences of characters

A `Text` is a list of Unicode scalar values.  Every definition of the library reads and writes
text in this form.

- `Text.byteLength` : the length in UTF-8 octets, the unit of every reported position
- `Text.split`      : the pieces between the occurrences of a character
- `Text.splitBy`    : the pieces between the occurrences of a separator text
- `Text.splitOnce`  : the text before and after the first occurrence of a character
- `Text.join`       : pieces with a separator between neighbours

Splitting loses nothing: `join_split` and `join_splitBy` put the pieces together again.
-/

namespace PathTemplate

/-- A sequence of Unicode scalar values. -/
abbrev Text := List Char

namespace Text

/-! ## Length -/

/-- The number of octets of the UTF-8 form. -/
def byteLength : Text → Nat
  | [] => 0
  | c :: t => c.utf8Size + byteLength t

@[simp] theorem byteLength_nil : byteLength [] = 0 := rfl

@[simp] theorem byteLength_cons (c : Char) (t : Text) :
    byteLength (c :: t) = c.utf8Size + byteLength t := rfl

@[simp] theorem byteLength_append (s t : Text) :
    byteLength (s ++ t) = byteLength s + byteLength t := by
  induction s with
  | nil => simp
  | cons c s ih => simp [ih, Nat.add_assoc]

/-! ## Ends -/

/-- The text without one leading `c`, if it starts with one. -/
def dropLeading (c : Char) : Text → Text
  | [] => []
  | d :: t => if d = c then t else d :: t

def dropTrailing (c : Char) (t : Text) : Text :=
  if t.getLast? = some c then t.dropLast else t

def endsWith (c : Char) (t : Text) : Bool := t.getLast? == some c

/-! ## Splitting and joining -/

def consFirst (c : Char) : List Text → List Text
  | [] => [[c]]
  | p :: ps => (c :: p) :: ps

/-- The pieces between the occurrences of `sep`; one more piece than there are occurrences. -/
def split (sep : Char) : Text → List Text
  | [] => [[]]
  | c :: t => if c = sep then [] :: split sep t else consFirst c (split sep t)

/-- `splitBy` inside an occurrence of the separator: `skip` of its characters are still ahead. -/
def splitBySkipping (sep : Text) : Nat → Text → List Text
  | _, [] => [[]]
  | skip + 1, _ :: t => splitBySkipping sep skip t
  | 0, c :: t =>
      if sep.isPrefixOf (c :: t) then [] :: splitBySkipping sep (sep.length - 1) t
      else consFirst c (splitBySkipping sep 0 t)

/-- The pieces between the occurrences of the non-empty text `sep`, found from left to right and
without overlap. -/
def splitBy (sep t : Text) : List Text := splitBySkipping sep 0 t

def splitOnce (sep : Char) : Text → Option (Text × Text)
  | [] => none
  | c :: t =>
      if c = sep then some ([], t)
      else (splitOnce sep t).map fun (before, after) => (c :: before, after)

def join (sep : Text) : List Text → Text
  | [] => []
  | [p] => p
  | p :: q :: ps => p ++ sep ++ join sep (q :: ps)

theorem split_ne_nil (sep : Char) (t : Text) : split sep t ≠ [] := by
  cases t with
  | nil => simp [split]
  | cons c t =>
      simp only [split]
      split
      · simp
      · cases split sep t <;> simp [consFirst]

theorem join_cons_of_ne_nil (sep p : Text) {ps : List Text} (h : ps ≠ []) :
    join sep (p :: ps) = p ++ sep ++ join sep ps := by
  cases ps with
  | nil => exact absurd rfl h
  | cons q ps => rfl

theorem join_consFirst (sep : Text) (c : Char) {ps : List Text} (h : ps ≠ []) :
    join sep (consFirst c ps) = c :: join sep ps := by
  match ps with
  | [] => exact absurd rfl h
  | [p] => rfl
  | p :: q :: ps => rfl

/-- The pieces of a text give the text back. -/
theorem join_split (sep : Char) (t : Text) : join [sep] (split sep t) = t := by
  induction t with
  | nil => rfl
  | cons c t ih =>
      simp only [split]
      split
      case isTrue h => simp [join_cons_of_ne_nil, split_ne_nil, ih, h]
      case isFalse => rw [join_consFirst _ _ (split_ne_nil sep t), ih]

theorem splitBySkipping_ne_nil (sep : Text) (n : Nat) (t : Text) :
    splitBySkipping sep n t ≠ [] := by
  fun_induction splitBySkipping sep n t with
  | case1 => simp
  | case2 _ _ _ ih => exact ih
  | case3 => simp
  | case4 c t _ ih => cases h : splitBySkipping sep 0 t <;> simp [consFirst]

theorem splitBySkipping_eq_drop (sep : Text) (n : Nat) (t : Text) (h : n ≤ t.length) :
    splitBySkipping sep n t = splitBySkipping sep 0 (t.drop n) := by
  induction n generalizing t with
  | zero => rfl
  | succ n ih =>
      cases t with
      | nil => simp at h
      | cons c t =>
          rw [splitBySkipping, List.drop_succ_cons]
          exact ih t (by simpa using h)

/-- The pieces between the occurrences of a separator give the text back. -/
theorem join_splitBy (sep : Text) (h : sep ≠ []) (t : Text) : join sep (splitBy sep t) = t := by
  obtain ⟨n, hn⟩ : ∃ n, t.length = n := ⟨_, rfl⟩
  induction n using Nat.strongRecOn generalizing t with
  | ind n ih =>
      cases t with
      | nil => rfl
      | cons c t =>
          simp only [splitBy, splitBySkipping]
          have hlen : n = t.length + 1 := by simpa using hn.symm
          split
          case isTrue hp =>
              obtain ⟨r, hr⟩ := List.isPrefixOf_iff_prefix.mp hp
              obtain ⟨d, ds, rfl⟩ := List.exists_cons_of_ne_nil h
              obtain ⟨rfl, rfl⟩ : d = c ∧ ds ++ r = t := by simpa using hr
              rw [join_cons_of_ne_nil _ _ (splitBySkipping_ne_nil _ _ _),
                splitBySkipping_eq_drop _ _ _ (by simp)]
              have := ih r.length (by simp at hlen; omega) r rfl
              simpa [splitBy] using this
          case isFalse =>
              rw [join_consFirst _ _ (splitBySkipping_ne_nil _ _ _)]
              exact congrArg (c :: ·) (ih t.length (by omega) t rfl)

end Text
end PathTemplate
