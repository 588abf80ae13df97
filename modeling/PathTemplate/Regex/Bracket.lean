import PathTemplate.Regex.Atom

/-!
# Brackets — classes of characters in regular expressions

- `OpenClass` : a class whose end has not been read yet
- `readClass` : read a class up to its end

Classes may be nested, and `&&`, `--` and `~~` combine the sets before and after them.  A stack holds
the classes that are open.
-/

namespace PathTemplate
namespace RegexReader

/-! ## Sets -/

/-- The complement of a set, if it is asked for. -/
def Flags.complete? (f : Flags) (negated : Bool) (a : CharClass) : Option CharClass :=
  if f.unicode then some (if negated then a.compl else a)
  else
    -- Without Unicode, a set that is complete may hold octets of ASCII alone.
    let a := if negated then .minus (.range 0 0xFF) a else a
    if (List.range 0x80).any fun n => a.contains (0x80 + n) then none else some a

def Flags.foldCase (f : Flags) (a : CharClass) : CharClass :=
  if !f.ignoreCase then a else if f.unicode then .anyCase a else .anyAsciiCase a

/-- The code of a character in a class.  Without Unicode there are only octets. -/
def Flags.classCode? (f : Flags) (c : Char) (octet : Bool) : Option Nat :=
  if f.unicode || octet || c.toNat < 0x80 then some c.toNat else none

def Flags.atomClass? (f : Flags) : Atom → Option CharClass
  | .char c octet => (f.classCode? c octet).map fun n => .range n n
  | .perl wide ascii negated => f.complete? negated (if f.unicode then wide else ascii)
  | .property tables negated =>
      if f.unicode then f.complete? negated (f.foldCase (.unions (tables.map .table))) else none
  | .look _ => none

/-! ## Open classes -/

inductive SetOp
  | inter
  | minus
  | either

def SetOp.apply : SetOp → CharClass → CharClass → CharClass
  | inter, a, b => .inter a b
  | minus, a, b => .minus a b
  | either, a, b => .either a b

/-- A class that is open: the operation that waits for its second set, and the union so far.
Depths count nested classes, unions and operations. -/
structure OpenClass where
  negated : Bool
  waiting : Option (SetOp × CharClass × Nat) := none
  members : CharClass := .none
  count : Nat := 0
  depth : Nat := 0

namespace OpenClass

def add (o : OpenClass) (a : CharClass) (depth : Nat) : OpenClass :=
  { o with
    members := if o.count = 0 then a else .union o.members a
    count := o.count + 1
    depth := max o.depth depth }

def unionDepth (o : OpenClass) : Nat := if o.count < 2 then o.depth else o.depth + 1

/-- The union, after the operation that waits for it. -/
def operand (f : Flags) (o : OpenClass) : CharClass × Nat :=
  match o.waiting with
  | none => (o.members, o.unionDepth)
  | some (op, a, depth) =>
      (op.apply (f.foldCase a) (f.foldCase o.members), max depth o.unionDepth + 1)

def wait (f : Flags) (o : OpenClass) (op : SetOp) : OpenClass :=
  let (a, depth) := o.operand f
  { negated := o.negated, waiting := some (op, a, depth) }

end OpenClass

/-! ## Reading -/

/-- The leading hyphens of a class, which stand for themselves. -/
def leadingHyphens (f : Flags) : (fuel : Nat) → OpenClass → Text → OpenClass × Text
  | 0, o, t => (o, t)
  | fuel + 1, o, t =>
      match t with
      | '-' :: t => leadingHyphens f fuel (o.add (.single '-') 0) (f.skip t)
      | t => (o, t)

/-- Open a class, after its bracket: the sign of complement, and the hyphens and the closing
bracket that stand for themselves. -/
def openClass (f : Flags) (t : Text) : OpenClass × Text :=
  let t := f.skip t
  let (negated, t) := match t with
    | '^' :: t => (true, f.skip t)
    | t => (false, t)
  let (o, t) := leadingHyphens f t.length { negated } t
  -- A class has a member, so a bracket that comes first does not close it.
  match o.count, t with
  | 0, ']' :: t => (o.add (.single ']') 0, f.skip t)
  | _, t => (o, t)

/-- A named ASCII class, after its opening bracket. -/
def posixClass (f : Flags) : Text → Option (Option CharClass × Text)
  | ':' :: t =>
      let (negated, t) := match t with
        | '^' :: t => (true, t)
        | t => (false, t)
      match t.dropWhile (· != ':') with
      | ':' :: ']' :: rest => do
          let a ← CharClass.posix? (t.takeWhile (· != ':'))
          some (f.complete? negated (f.foldCase a), rest)
      | _ => none
  | _ => none

def classAtom (f : Flags) : Text → Option (Atom × Text)
  | [] => none
  | '\\' :: t => escape f t
  | c :: t => some (.char c false, t)

/-- Whether the text after a character of a class makes it the start of a range. -/
def startsRange (f : Flags) : Text → Bool
  | '-' :: t => match f.skip t with
      | ']' :: _ | '-' :: _ => false
      | _ => true
  | _ => false

def classMember (f : Flags) (t : Text) : Option (CharClass × Text) := do
  let (a, t) ← classAtom f t
  let t := f.skip t
  if startsRange f t then
    let (b, t) ← classAtom f (f.skip (t.drop 1))
    match a, b with
    | .char a aOctet, .char b bOctet =>
        if b.toNat < a.toNat then none
        else
          let lo ← f.classCode? a aOctet
          let hi ← f.classCode? b bOctet
          some (.range lo hi, t)
    | _, _ => none
  else
    let a ← f.atomClass? a
    some (a, t)

/-- Read the class at the top of a stack of open classes up to its end: the set, its depth and the
text that is left. -/
def readClass (f : Flags) :
    (fuel : Nat) → OpenClass → List OpenClass → Text → Option (CharClass × Nat × Text)
  | 0, _, _, _ => none
  | fuel + 1, top, below, t =>
      match f.skip t with
      | [] => none
      | '[' :: t =>
          match posixClass f t with
          | some (some a, t) => readClass f fuel (top.add a 0) below t
          | some (none, _) => none
          | none =>
              -- What is no named class is a class within the class.
              let (o, t) := openClass f t
              readClass f fuel o (top :: below) t
      | ']' :: t => do
          let (a, depth) := top.operand f
          let a ← f.complete? top.negated (f.foldCase a)
          match below with
          | [] => some (a, depth + 1, t)
          | o :: below => readClass f fuel (o.add a (depth + 1)) below t
      | '&' :: '&' :: t => readClass f fuel (top.wait f .inter) below t
      | '-' :: '-' :: t => readClass f fuel (top.wait f .minus) below t
      | '~' :: '~' :: t => readClass f fuel (top.wait f .either) below t
      | t => do
          let (a, t) ← classMember f t
          readClass f fuel (top.add a 0) below t

end RegexReader
end PathTemplate
