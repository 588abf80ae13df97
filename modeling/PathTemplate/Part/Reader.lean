import PathTemplate.Error
import PathTemplate.Options
import PathTemplate.Part
import PathTemplate.Percent

/-!
# Reading a template text

`Parsed.ofText?` takes a template text apart in either dialect.

In the simple dialect an expression is a name, and after a colon a regular expression in which
braces may stand in pairs one level deep; blanks around both are skipped.  In the extended dialect
it is a name with an optional default, or an operator with its argument and variables.

A reader gives back what it read and the text that is left.  A reader that fails gives the text at
which it stopped, from which `Parsed.ofText?` computes the offset.
-/

namespace PathTemplate
namespace Reader

/-- A fault, and the text at which it was met. -/
abbrev Stop := SyntaxFault × Text

/-! ## Character classes -/

def isWord (c : Char) : Bool := c.isAlphanum || c == '_'

def isNameRest (c : Char) : Bool := isWord c || c == '.' || c == '-'

/-- What may stand unescaped in a default. -/
def isDefaultChar (c : Char) : Bool := isWord c || ".!~*'()-".toList.contains c

def isArgumentChar (c : Char) : Bool := isDefaultChar c || ";/?:@&=+$,".toList.contains c

def isBlank (c : Char) : Bool := c == ' ' || c == '\t'

def isLiteralChar (c : Char) : Bool := c != '{' && c != '}'

/-! ## Pieces -/

def expect (c : Char) : Text → Except Stop Text
  | [] => .error (.missing c, [])
  | d :: t => if d = c then .ok t else .error (.mismatch c d, d :: t)

def name : Text → Except Stop (Text × Text)
  | [] => .error (.nameMissing, [])
  | c :: t =>
      if isWord c then .ok (c :: t.takeWhile isNameRest, t.dropWhile isNameRest)
      else .error (.nameCharacter c, c :: t)

/-- Put `p` before what was read. -/
def prepend (p : Text) : Except Stop (Text × Text) → Except Stop (Text × Text)
  | .ok (s, t) => .ok (p ++ s, t)
  | .error e => .error e

/-- Read accepted characters and well-formed escapes, as many as there are. -/
def escaped (accept : Char → Bool) : Text → Except Stop (Text × Text)
  | [] => .ok ([], [])
  | '%' :: h :: l :: t =>
      if Percent.isHexDigit h && Percent.isHexDigit l then
        prepend ['%', h, l] (escaped accept t)
      else .error (.escape, '%' :: h :: l :: t)
  | c :: t =>
      if c = '%' then .error (.escape, c :: t)
      else if accept c then prepend [c] (escaped accept t)
      else .ok ([], c :: t)

/-- Read a regular expression up to the brace that closes the variable.  `nested` tells whether an
inner brace is open. -/
def constraint : (nested : Bool) → Text → Except Stop (Text × Text)
  | false, [] => .error (.openVariable, [])
  | true, [] => .error (.openBrace, [])
  | false, c :: t =>
      if c = '}' then .ok ([], c :: t) else prepend [c] (constraint (c = '{') t)
  | true, c :: t =>
      if c = '{' then .error (.nestedBraces, c :: t) else prepend [c] (constraint (c != '}') t)

def trimEnd (t : Text) : Text := (t.reverse.dropWhile isBlank).reverse

def nonEmpty? (t : Text) : Option Text := if t = [] then none else some t

/-! ## Expressions, after their opening brace -/

/-- The colon and the constraint of a variable, if there are any. -/
def constraintPart : Text → Except Stop (Option Text × Text)
  | ':' :: t => do
      let (r, t) ← constraint false (t.dropWhile isBlank)
      -- A colon with nothing but blanks behind it gives no constraint.
      .ok (nonEmpty? (trimEnd r), t)
  | t => .ok (none, t)

def simpleVariable (t : Text) : Except Stop (Part × Text) := do
  let (n, t) ← name (t.dropWhile isBlank)
  let (r, t) ← constraintPart (t.dropWhile isBlank)
  let t ← expect '}' t
  .ok (.variable n r none, t)

def variableSpec (t : Text) : Except Stop (VariableSpec × Text) := do
  let (n, t) ← name t
  match t with
  | '=' :: t =>
      let (d, t) ← escaped isDefaultChar t
      .ok ((n, some d), t)
  | t => .ok ((n, none), t)

/-! ### Readers give back no more than they got -/

theorem length_dropWhile_le (p : Char → Bool) (t : Text) :
    (t.dropWhile p).length ≤ t.length :=
  (List.dropWhile_sublist p).length_le

theorem length_expect {c : Char} {t r : Text} (h : expect c t = .ok r) :
    r.length < t.length := by
  cases t with
  | nil => simp [expect] at h
  | cons d t =>
      simp only [expect] at h
      split at h
      · cases h; simp
      · cases h

theorem length_name {t n r : Text} (h : name t = .ok (n, r)) : r.length < t.length := by
  cases t with
  | nil => simp [name] at h
  | cons c t =>
      simp only [name] at h
      split at h
      · cases h
        have := length_dropWhile_le isNameRest t
        simp; omega
      · cases h

theorem length_prepend {p s r : Text} {x : Except Stop (Text × Text)} {n : Nat}
    (h : prepend p x = .ok (s, r)) (hx : ∀ s r, x = .ok (s, r) → r.length ≤ n) :
    r.length ≤ n := by
  cases x with
  | error e => simp [prepend] at h
  | ok y =>
      obtain ⟨s', r'⟩ := y
      simp only [prepend, Except.ok.injEq, Prod.mk.injEq] at h
      exact h.2 ▸ hx s' r' rfl

theorem length_escaped {accept : Char → Bool} {t s r : Text}
    (h : escaped accept t = .ok (s, r)) : r.length ≤ t.length := by
  fun_induction escaped accept t generalizing s r with
  | case1 => cases h; simp
  | case2 h' l t _ ih =>
      exact length_prepend h fun s r h => by have := ih h; simp; omega
  | case3 => cases h
  | case4 => cases h
  | case5 c t _ _ _ ih =>
      exact length_prepend h fun s r h => by have := ih h; simp; omega
  | case6 => cases h; simp

theorem length_constraint {nested : Bool} {t s r : Text}
    (h : constraint nested t = .ok (s, r)) : r.length ≤ t.length := by
  fun_induction constraint nested t generalizing s r with
  | case1 => cases h
  | case2 => cases h
  | case3 => cases h; simp
  | case4 c t _ ih =>
      exact length_prepend h fun s r h => by have := ih h; simp; omega
  | case5 => cases h
  | case6 c t _ ih =>
      exact length_prepend h fun s r h => by have := ih h; simp; omega

theorem length_constraintPart {t r : Text} {o : Option Text}
    (h : constraintPart t = .ok (o, r)) : r.length ≤ t.length := by
  unfold constraintPart at h
  split at h
  case h_1 t =>
      cases hc : constraint false (t.dropWhile isBlank) with
      | error e => simp [hc, bind, Except.bind] at h
      | ok y =>
          obtain ⟨s, r'⟩ := y
          have := length_constraint hc
          have := length_dropWhile_le isBlank t
          simp [hc, bind, Except.bind] at h
          obtain ⟨-, rfl⟩ := h
          simp; omega
  case h_2 => cases h; simp

theorem length_simpleVariable {t r : Text} {p : Part} (h : simpleVariable t = .ok (p, r)) :
    r.length < t.length := by
  simp only [simpleVariable, bind, Except.bind] at h
  split at h
  case h_1 => cases h
  case h_2 y hn =>
    split at h
    case h_1 => cases h
    case h_2 z hc =>
      split at h
      case h_1 => cases h
      case h_2 w hw =>
        cases h
        have := length_name hn
        have := length_constraintPart hc
        have := length_expect hw
        have := length_dropWhile_le isBlank t
        have := length_dropWhile_le isBlank y.2
        omega

theorem length_variableSpec {t r : Text} {v : VariableSpec}
    (h : variableSpec t = .ok (v, r)) : r.length < t.length := by
  simp only [variableSpec, bind, Except.bind] at h
  split at h
  case h_1 => cases h
  case h_2 y hn =>
    have := length_name hn
    split at h
    case h_1 d t' ht =>
      split at h
      case h_1 => cases h
      case h_2 z he =>
        cases h
        have := length_escaped he
        have hlen := congrArg List.length ht
        simp at hlen; omega
    case h_2 => cases h; omega

def variableSpecs (t : Text) : Except Stop (List VariableSpec × Text) :=
  match _h : variableSpec t with
  | .error e => .error e
  | .ok (v, ',' :: r) =>
      match variableSpecs r with
      | .error e => .error e
      | .ok (vs, r) => .ok (v :: vs, r)
  | .ok (v, r) => .ok ([v], r)
termination_by t.length
decreasing_by have := length_variableSpec _h; simp at this; omega

/-- An operator, after its minus sign. -/
def operator (t : Text) : Except Stop (Part × Text) :=
  if t.takeWhile Char.isAlpha = [] then .error (.operatorName, t)
  else do
    let n := t.takeWhile Char.isAlpha
    let t ← expect '|' (t.dropWhile Char.isAlpha)
    let (arg, t) ← escaped isArgumentChar t
    let t ← expect '|' t
    let (vars, t) ← variableSpecs t
    .ok (.operator n arg vars, t)

/-- What stands between the braces of an expression of the extended dialect. -/
def expansion : Text → Except Stop (Part × Text)
  | '-' :: t => operator t
  | t => do
      let ((n, d), t) ← variableSpec t
      .ok (.variable n none d, t)

def extendedExpression (t : Text) : Except Stop (Part × Text) := do
  let (p, t) ← expansion t
  let t ← expect '}' t
  .ok (p, t)

def expression : Dialect → Text → Except Stop (Part × Text)
  | .simple => simpleVariable
  | .extended => extendedExpression

theorem length_variableSpecs {t r : Text} {vs : List VariableSpec}
    (h : variableSpecs t = .ok (vs, r)) : r.length < t.length := by
  fun_induction variableSpecs t generalizing vs r with
  | case1 => cases h
  | case2 => simp_all
  | case3 t v r' hv vs' r'' hr ih =>
      cases h
      have := ih hr
      have := length_variableSpec hv
      simp at this; omega
  | case4 t v r' _ hv => cases h; exact length_variableSpec hv

theorem length_operator {t r : Text} {p : Part} (h : operator t = .ok (p, r)) :
    r.length < t.length := by
  simp only [operator, bind, Except.bind] at h
  split at h
  case isTrue => cases h
  case isFalse =>
    split at h
    case h_1 => cases h
    case h_2 t₁ h₁ =>
      split at h
      case h_1 => cases h
      case h_2 y h₂ =>
        split at h
        case h_1 => cases h
        case h_2 t₃ h₃ =>
          split at h
          case h_1 => cases h
          case h_2 z h₄ =>
            cases h
            have := length_expect h₁
            have := length_escaped h₂
            have := length_expect h₃
            have := length_variableSpecs h₄
            have := length_dropWhile_le Char.isAlpha t
            omega

theorem length_expansion {t r : Text} {p : Part} (h : expansion t = .ok (p, r)) :
    r.length < t.length := by
  unfold expansion at h
  split at h
  case h_1 t => have := length_operator h; simp; omega
  case h_2 =>
    simp only [bind, Except.bind] at h
    split at h
    case h_1 => cases h
    case h_2 y hy => cases h; exact length_variableSpec hy

theorem length_expression {d : Dialect} {t r : Text} {p : Part}
    (h : expression d t = .ok (p, r)) : r.length < t.length := by
  cases d with
  | simple => exact length_simpleVariable h
  | extended =>
      simp only [expression, extendedExpression, bind, Except.bind] at h
      split at h
      case h_1 => cases h
      case h_2 y hy =>
        split at h
        case h_1 => cases h
        case h_2 z hz =>
          cases h
          have := length_expansion hy
          have := length_expect hz
          omega

/-! ## Templates -/

def literalPart (t : Text) : List Part := if t = [] then [] else [.literal t]

def template (d : Dialect) (t : Text) : Except Stop Parsed :=
  match _ht : t.dropWhile isLiteralChar with
  | [] => .ok ⟨[], t⟩
  | '{' :: r =>
      match _he : expression d r with
      | .error e => .error e
      | .ok (p, r) =>
          match template d r with
          | .error e => .error e
          | .ok rest =>
              .ok { rest with
                parts := literalPart (t.takeWhile isLiteralChar) ++ p :: rest.parts }
  | c :: r => .error (.closingBrace, c :: r)
termination_by t.length
decreasing_by
  have := length_expression _he
  have := length_dropWhile_le isLiteralChar t
  rw [_ht] at this
  simp at this
  omega

end Reader

/-- Take a template text apart.  The offset of a fault counts octets. -/
def Parsed.ofText? (d : Dialect) (t : Text) : Except TemplateError Parsed :=
  match Reader.template d t with
  | .ok p => .ok p
  | .error (fault, rest) =>
      .error (.grammar t (.fault fault (t.byteLength - rest.byteLength)))

end PathTemplate
