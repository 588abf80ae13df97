import PathTemplate.Template.Matcher

/-!
# LazyMatcher — a matcher that keeps what its last match binds

A `Matcher` works out what its last match binds whenever it is asked.  A lazy matcher does so when
it is first asked, and keeps the answer until the next match.

- `LazyMatcher.run`      : match a path, and forget what was kept
- `LazyMatcher.bindings` : what the last match binds, kept from then on
- `LazyMatcher.answer`   : the answer to a question about the last match
- `LazyMatcher.ask`      : the reply to a request, and the matcher after it
- `LazyMatcher.replies`  : the replies to requests one after the other
-/

namespace PathTemplate

/-- A matcher, and what its last match binds if this has been worked out. -/
structure LazyMatcher where
  matcher : Matcher
  kept : Option Bindings

def Template.lazyMatcher (t : Template) : LazyMatcher := ⟨t.matcher, none⟩

namespace LazyMatcher

/-! ## Matching and binding -/

def run (m : LazyMatcher) (path : Text) : Logged (Bool × LazyMatcher) := do
  let (matched, matcher) ← m.matcher.run path
  pure (matched, ⟨matcher, none⟩)

/-- What the last match binds. -/
def bindings (m : LazyMatcher) : Except TemplateError Bindings × LazyMatcher :=
  match m.matcher.matched with
  | .error e => (.error e, m)
  | .ok trace =>
      -- What is kept belongs to the last match: `run` has forgotten what was kept before.
      match m.kept with
      | some b => (.ok b, m)
      | none =>
          let b := m.matcher.template.bindings trace m.matcher.path
          (.ok b, ⟨m.matcher, some b⟩)

/-! ## Questions -/

inductive Question
  | isExact
  | tail (decode : Bool)
  | head (decode : Bool)
  | allValues (decode : Bool)
  | values (name : Text) (decode : Bool)
  | value (name : Text) (decode : Bool)
  | spannedSegments (segments : List Segment) (offset count : Nat)

inductive Reply
  | flag (b : Bool)
  | text (t : Text)
  | values (m : Multimap (Option Text))
  | texts (ts : List Text)
  | firstText (t : Option Text)
  | spans (m : Multimap (List Segment))
  | matched (m : Option (Multimap (Option Text)))
  | template (t : Template)

/-- Read something off what the last match binds. -/
def read (m : LazyMatcher) (f : Bindings → Reply) : Except TemplateError Reply × LazyMatcher :=
  (m.bindings.1.map f, m.bindings.2)

def allValuesOf (b : Bindings) (decode : Bool) : Multimap (Option Text) :=
  if decode then b.values.mapValues (Option.map Percent.decode) else b.values

def valuesOf (b : Bindings) (name : Text) (decode : Bool) : List Text :=
  ((b.values.get name).filterMap id).map (Matcher.decoded decode)

def answer (m : LazyMatcher) : Question → Except TemplateError Reply × LazyMatcher
  | .isExact => (m.matcher.isExact.map .flag, m)
  | .tail decode => ((m.matcher.tail decode).map .text, m)
  | .head decode => ((m.matcher.head decode).map .text, m)
  | .allValues decode => m.read fun b => .values (allValuesOf b decode)
  | .values name decode => m.read fun b => .texts (valuesOf b name decode)
  | .value name decode => m.read fun b => .firstText (valuesOf b name decode).head?
  | .spannedSegments segments offset count =>
      m.read fun b => .spans (Matcher.spansOf b segments offset count)

/-! ## Requests -/

inductive Request
  /-- Match a path. -/
  | run (path : Text)
  /-- Match a path, and give what it binds. -/
  | matchPath (path : Text) (decode : Bool)
  /-- Give the template. -/
  | template
  | question (q : Question)

def ask (m : LazyMatcher) : Request → Logged (Except TemplateError Reply × LazyMatcher)
  | .run path => do
      let (matched, m) ← m.run path
      pure (.ok (.flag matched), m)
  | .matchPath path decode => do
      let (matched, m) ← m.run path
      if matched then
        let (b, m) := m.bindings
        pure (.ok (.matched (b.toOption.map fun b => allValuesOf b decode)), m)
      else pure (.ok (.matched none), m)
  | .template => pure (.ok (.template m.matcher.template), m)
  | .question q => pure (m.answer q)

def after (m : LazyMatcher) (rs : List Request) : LazyMatcher :=
  rs.foldl (fun m r => (m.ask r).value.2) m

def replies (m : LazyMatcher) : List Request → List (Except TemplateError Reply)
  | [] => []
  | r :: rs => (m.ask r).value.1 :: replies (m.ask r).value.2 rs

end LazyMatcher
end PathTemplate
