import PathTemplate.Regex.Bracket

/-!
# Reading the text of a regular expression

`Pattern.ofText?` reads a regular expression.  There are no conditions on the text around a match
other than `Look`, and no references back to a group.  Alternatives are taken in order, classes and
`\d \s \w \b` are those of all scripts, and `^` and `$` are the ends of the text, all unless flags
say otherwise.  Flags hold up to the end of the enclosing group.

The reader goes through the text once and keeps a stack of the groups that are open.  `fuel` bounds
the rounds of a loop by the length of the text.
-/

namespace PathTemplate
namespace RegexReader

/-! ## Expressions -/

structure Item where
  pattern : Pattern
  depth : Nat := 0
  repeatable : Bool := true

/-- Items in a row, given in reverse.  One item alone is no deeper than itself. -/
def Item.row (items : List Item) : Item :=
  match items with
  | [item] => item
  | items =>
      { pattern := .seqs (items.reverse.map Item.pattern)
        depth := match items with
          | [] => 0
          | items => (items.map Item.depth).foldl max 0 + 1 }

/-- Alternatives, given in reverse. -/
def Item.choice (branches : List Item) : Item :=
  match branches with
  | [item] => item
  | branches =>
      { pattern := .alts (branches.reverse.map Item.pattern)
        depth := (branches.map Item.depth).foldl max 0 + 1 }

/-- The set of a character outside of classes, with the cases that count as the same. -/
def Flags.charClass? (f : Flags) (c : Char) (octet : Bool) : Option CharClass :=
  if !f.unicode && octet && 0x80 ≤ c.toNat then none
  else if !f.ignoreCase then some (.single c)
  else if f.unicode then
    some (match Unicode.caseVariants c.toNat with
      | [] => .single c
      | ns => .unions (.single c :: ns.map fun n => .range n n))
  else
    let n := CharClass.swapAsciiCase c.toNat
    some (if n = c.toNat then .single c else .union (.single c) (.range n n))

def Flags.atomItem? (f : Flags) : Atom → Option Item
  | .char c octet => (f.charClass? c octet).map fun a => { pattern := .chars a }
  | .look l => some { pattern := .look l }
  | a => (f.atomClass? a).map fun a => { pattern := .chars a }

/-- The set of the dot.  Without Unicode it would hold octets that are no characters. -/
def Flags.dot? (f : Flags) : Option CharClass :=
  if !f.unicode then none
  else if f.dotAll then some .all
  else if f.crlf then some (.compl (.union (.single '\n') (.single '\r')))
  else some .notLineFeed

/-- A group that is open: what came before it, and the flags that hold after it. -/
structure OpenGroup where
  items : List Item
  branches : List Item
  /-- The number of a group that is recorded. -/
  number : Option Nat
  flags : Flags

/-- The reader between two items.  Items and branches are those of the innermost group, last
first. -/
structure State where
  items : List Item := []
  branches : List Item := []
  below : List OpenGroup := []
  flags : Flags := {}
  nextGroup : Nat := 1
  names : List Text := []

namespace State

def push (s : State) (item : Item) : State := { s with items := item :: s.items }

/-- The item of the innermost group. -/
def body (s : State) : Item := .choice (.row s.items :: s.branches)

def enter (s : State) (number : Option Nat) (inner : Flags) : State :=
  { s with
    items := []
    branches := []
    below := ⟨s.items, s.branches, number, s.flags⟩ :: s.below
    flags := inner }

def enterNumbered (s : State) : State :=
  { s.enter (some s.nextGroup) s.flags with nextGroup := s.nextGroup + 1 }

def leave? (s : State) : Option State :=
  match s.below with
  | [] => none
  | o :: below =>
      let body := s.body
      let pattern := match o.number with
        | some k => .group k body.pattern
        | none => body.pattern
      some { s with
        items := { pattern, depth := body.depth + 1 } :: o.items
        branches := o.branches
        below
        flags := o.flags }

/-- Repeat the last item; a question mark at once after the sign turns the preference. -/
def repeatLast? (s : State) (least : Nat) (most : Option Nat) (t : Text) :
    Option (State × Text) :=
  match s.items with
  | [] => none
  | item :: items =>
      if !item.repeatable then none
      else
        let (greedy, t) := match t with
          | '?' :: t => (false, t)
          | t => (true, t)
        let pattern := item.pattern.repetition least most (greedy != s.flags.swapGreed)
        some ({ s with items := { pattern, depth := item.depth + 1 } :: items }, t)

end State

/-! ### Groups -/

/-- Flags up to a colon or a closing parenthesis: the flags, whether there was none, and the
character that ends them. -/
def readFlags (f : Flags) (on afterSign : Bool) (seen : List Char) :
    Text → Option (Flags × Bool × Char × Text)
  | [] => none
  | c :: t =>
      if c = ':' || c = ')' then
        if afterSign then none else some (f, seen.isEmpty, c, t)
      else if seen.contains c then none
      else if c = '-' then readFlags f false true (c :: seen) t
      else
        match f.set? c on with
        | some f => readFlags f on false (c :: seen) t
        | none => none

/-- Whether a name of a group may begin with the character.  Letters and letter-like characters of
all scripts count. -/
def isNameStart (c : Char) : Bool :=
  c == '_' || c.isAlpha
    || (0x80 ≤ c.toNat && (Unicode.findNamed Unicode.binaryProperties "alphabetic".toList).any
          fun ts => ts.any fun t => t.contains c.toNat)

def isNameRest (c : Char) : Bool :=
  isNameStart c || c.isDigit || c == '.' || c == '[' || c == ']'
    || (0x80 ≤ c.toNat
          && (Unicode.category? ['n']).any fun ts => ts.any fun t => t.contains c.toNat)

/-- The name of a group and the text after its closing angle bracket. -/
def groupName? (t : Text) : Option (Text × Text) :=
  match t.takeWhile (· != '>'), t.dropWhile (· != '>') with
  | c :: name, '>' :: rest =>
      if isNameStart c && name.all isNameRest then some (c :: name, rest) else none
  | _, _ => none

/-- Open a group with a name, which no other group may have. -/
def openNamed (s : State) (t : Text) : Option (State × Text) := do
  let (name, t) ← groupName? t
  if s.names.contains name then none
  else some ({ s.enterNumbered with names := name :: s.names }, t)

def openGroup (s : State) (t : Text) : Option (State × Text) :=
  match s.flags.skip t with
  -- There are no conditions on the text around a match.
  | '?' :: '=' :: _ | '?' :: '!' :: _ => none
  | '?' :: '<' :: '=' :: _ | '?' :: '<' :: '!' :: _ => none
  | '?' :: 'P' :: '<' :: t => openNamed s t
  | '?' :: '<' :: t => openNamed s t
  | '?' :: t => do
      let (flags, isEmpty, last, t) ← readFlags s.flags true false [] t
      if last = ':' then some (s.enter none flags, t)
      else if isEmpty then none
      -- Flags from here on leave an item behind, which cannot be repeated.
      else some ({ s with flags }.push { pattern := .empty, repeatable := false }, t)
  | t => some (s.enterNumbered, t)

/-! ### Counts -/

def countLimit : Nat := 0xFFFFFFFF

def countDigits (f : Flags) : (fuel : Nat) → Text → Text × Text
  | 0, t => ([], t)
  | fuel + 1, t =>
      match t with
      | c :: t =>
          if c.isDigit then
            let (ds, t) := countDigits f fuel (f.skip t)
            (c :: ds, t)
          else ([], c :: t)
      | [] => ([], [])

/-- A count with white space around it; nothing if there is no digit. -/
def readCount (f : Flags) (t : Text) : Option (Option Nat × Text) :=
  let t := t.dropWhile isSpace
  let (ds, t) := countDigits f t.length t
  let t := f.skip (t.dropWhile isSpace)
  if ds = [] then some (none, t)
  else
    let n := ds.foldl (fun n d => 10 * n + (d.toNat - 0x30)) 0
    if n ≤ countLimit then some (some n, t) else none

def countedRepetition (s : State) (t : Text) : Option (State × Text) := do
  let f := s.flags
  let (least, t) ← readCount f (f.skip t)
  let least ← least
  match t with
  | '}' :: t => s.repeatLast? least (some least) (f.skip t)
  | ',' :: t =>
      match f.skip t with
      | '}' :: t => s.repeatLast? least none (f.skip t)
      | t => do
          let (most, t) ← readCount f t
          let most ← most
          match t with
          | '}' :: t => if least ≤ most then s.repeatLast? least (some most) (f.skip t) else none
          | _ => none
  | _ => none

/-! ### The whole text -/

def readItem (s : State) (c : Char) (t : Text) : Option (State × Text) :=
  match c with
  | '(' => openGroup s t
  | ')' => s.leave?.map fun s => (s, t)
  | '|' => some ({ s with items := [], branches := .row s.items :: s.branches }, t)
  | '[' => do
      let (o, t) := openClass s.flags t
      let (a, depth, t) ← readClass s.flags (t.length + 1) o [] t
      some (s.push { pattern := .chars a, depth }, t)
  | '?' => s.repeatLast? 0 (some 1) t
  | '*' => s.repeatLast? 0 none t
  | '+' => s.repeatLast? 1 none t
  | '{' => countedRepetition s t
  | '\\' => do
      let (a, t) ← escape s.flags t
      let item ← s.flags.atomItem? a
      some (s.push item, t)
  | '.' => s.flags.dot?.map fun a => (s.push { pattern := .chars a }, t)
  | '^' =>
      let l := if s.flags.multiLine then .lineStart s.flags.crlf else .textStart
      some (s.push { pattern := .look l }, t)
  | '$' =>
      let l := if s.flags.multiLine then .lineEnd s.flags.crlf else .textEnd
      some (s.push { pattern := .look l }, t)
  -- A closing bracket or brace with nothing to close stands for itself.
  | c => (s.flags.charClass? c false).map fun a => (s.push { pattern := .chars a }, t)

def readItems : (fuel : Nat) → State → Text → Option State
  | 0, _, _ => none
  | fuel + 1, s, t =>
      match s.flags.skip t with
      | [] => some s
      | c :: t => do
          let (s, t) ← readItem s c t
          readItems fuel s t

/-- How deep groups, repetitions, rows, alternatives and classes may be nested. -/
def depthLimit : Nat := 250

end RegexReader

/-- Read the text of a regular expression.  It must not be nested too deeply nor need too much
storage. -/
def Pattern.ofText? (t : Text) : Option Pattern := do
  let s ← RegexReader.readItems (t.length + 1) {} t
  if !s.below.isEmpty then none
  else
    let item := s.body
    if RegexReader.depthLimit < item.depth then none
    else if weightLimit < item.pattern.weight then none
    else some item.pattern

end PathTemplate
