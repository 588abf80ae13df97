import PathTemplate.Element.Binding
import PathTemplate.Segment
import PathTemplate.Template

/-!
# Matcher — a template matched against one path at a time

- `Matcher.run`                 : match a path
- `Matcher.head`, `tail`, `isExact` : how far the template reaches in the path
- `Matcher.allValues`, `values`, `value` : what the match binds
- `Matcher.spannedSegments`     : on which segments of a path the bound values lie

Each of these but `run` fails unless the last match succeeded.
-/

namespace PathTemplate

def Text.slice (t : Text) (span : Nat × Nat) : Text := (t.drop span.1).take (span.2 - span.1)

/-- A template, and its last match. -/
structure Matcher where
  template : Template
  path : Text
  /-- The groups of the last match, if it succeeded. -/
  trace : Option Trace

def Template.matcher (t : Template) : Matcher := ⟨t, [], none⟩

def Trace.capture (trace : Trace) (path : Text) (k : Nat) : Capture :=
  (trace.span? k).map fun span => (path.slice span, Text.byteLength (path.take span.1))

def Template.bindElement (t : Template) (trace : Trace) (path : Text) (b : Bindings) (i : Nat) :
    Bindings :=
  match t.elements[i]? with
  | none => b
  | some e =>
      match e.group? with
      | none => b
      | some k => e.bind (trace.capture path k) b

/-- What a match binds. -/
def Template.bindings (t : Template) (trace : Trace) (path : Text) : Bindings :=
  -- The order is that of names, so an element with several names is recorded once for each.
  t.binders.entries.foldl (fun b e => e.2.foldl (t.bindElement trace path) b) .empty

namespace Matcher

def run (m : Matcher) (path : Text) : Logged (Bool × Matcher) :=
  let trace := m.template.regex.search path
  ⟨(trace.isSome, { m with path, trace }),
    [.attempted m.template.text path trace.isSome]⟩

def matched (m : Matcher) : Except TemplateError Trace :=
  match m.trace with
  | some trace => .ok trace
  | none => .error .unmatched

/-- The text of a group, empty if the group took no part. -/
def groupText (m : Matcher) (k : Nat) : Except TemplateError Text := do
  let trace ← m.matched
  .ok (((trace.capture m.path k).map (·.1)).getD [])

def decoded (decode : Bool) (t : Text) : Text := if decode then Percent.decode t else t

def tail (m : Matcher) (decode : Bool) : Except TemplateError Text := do
  let t ← m.groupText m.template.tailGroup
  .ok (decoded decode t)

/-- Whether the template covers the path, be it for one slash. -/
def isExact (m : Matcher) : Except TemplateError Bool := do
  let t ← m.tail false
  .ok (t == [] || t == ['/'])

/-- The part of the path that the template covers. -/
def head (m : Matcher) (decode : Bool) : Except TemplateError Text := do
  let h ← m.groupText Template.headGroup
  let t ← m.tail false
  -- The elements leave out a slash at the end of the template, so here it is put back.
  .ok (decoded decode h ++ if m.template.text.endsWith '/' && t == ['/'] then ['/'] else [])

def bindings (m : Matcher) : Except TemplateError Bindings := do
  let trace ← m.matched
  .ok (m.template.bindings trace m.path)

/-- The values of every name, with those that are not bound. -/
def allValues (m : Matcher) (decode : Bool) : Except TemplateError (Multimap (Option Text)) := do
  let b ← m.bindings
  .ok (if decode then b.values.mapValues (Option.map Percent.decode) else b.values)

def values (m : Matcher) (name : Text) (decode : Bool) : Except TemplateError (List Text) := do
  let b ← m.bindings
  .ok (((b.values.get name).filterMap id).map (decoded decode))

def value (m : Matcher) (name : Text) (decode : Bool) : Except TemplateError (Option Text) := do
  let vs ← m.values name decode
  .ok vs.head?

def matchPath (m : Matcher) (path : Text) (decode : Bool) :
    Logged (Option (Multimap (Option Text)) × Matcher) := do
  let (_, m) ← m.run path
  pure ((m.allValues decode).toOption, m)

/-! ## Segments under values -/

/-- The segments after the first one that a value covers: those that begin before its last octet.
`reached` is the offset of the end of the segment before. -/
def coverFurther (last : Nat) : (reached : Nat) → List Segment → List Segment
  | _, [] => []
  | reached, s :: rest =>
      if reached < last then s :: coverFurther last (reached + s.rawLength + 1) rest else []

/-- The segments that a value of `length` octets at offset `start` covers, where the segments begin
at offset `passed`. -/
def coverFrom (start length : Nat) : (passed : Nat) → List Segment → List Segment
  | _, [] => []
  | passed, s :: rest =>
      let reached := passed + s.rawLength
      if start < reached then s :: coverFurther (start + length - 1) reached rest
      -- A value that begins on the slash behind a segment, or at the end of the path.
      else if start = reached then [s]
      else coverFrom start length (reached + 1) rest

def window (segments : List Segment) (offset count : Nat) : List Segment :=
  (segments.take (offset + count)).drop offset

/-- For each name the segments that its values cover, among `count` segments from `offset` on. -/
def spansOf (b : Bindings) (segments : List Segment) (offset count : Nat) :
    Multimap (List Segment) :=
  -- The first segment of the window is taken to begin at offset 0 of the path.
  let segments := window segments offset count
  .ofPairs (b.values.entries.flatMap fun (name, values) =>
    (values.zip (b.starts.get name)).filterMap fun
      | (some value, some start) =>
          some (name, coverFrom start (Text.byteLength value) 0 segments)
      | _ => none)

def spannedSegments (m : Matcher) (segments : List Segment) (offset count : Nat) :
    Except TemplateError (Multimap (List Segment)) := do
  let b ← m.bindings
  .ok (spansOf b segments offset count)

end Matcher
end PathTemplate
