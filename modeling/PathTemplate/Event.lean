import PathTemplate.Error

/-!
# Event — what the library reports while it works

- `Event`  : a template was compiled or cached, a match was tried, a catalog entry failed
- `Logged` : a value with the events reported on the way to it
-/

namespace PathTemplate

inductive Event
  /-- A template was compiled; `groups` is the number of the last group of its pattern. -/
  | compiled (template pattern : Text) (groups : Nat)
  /-- A template, as it was asked for, entered a cache that now has `entries`. -/
  | cached (template : Text) (entries : Nat)
  /-- A path was matched against a template, or not. -/
  | attempted (template path : Text) (matched : Bool)
  /-- An entry of a catalog does not compile. -/
  | rejected (name template : Text) (error : TemplateError)
  deriving DecidableEq, Repr

/-- A value and the events reported on the way to it, in order. -/
structure Logged (α : Type) where
  value : α
  events : List Event
  deriving DecidableEq, Repr

namespace Logged

variable {α β : Type}

def report (e : Event) : Logged Unit := ⟨(), [e]⟩

instance : Monad Logged where
  pure x := ⟨x, []⟩
  bind x f := ⟨(f x.value).value, x.events ++ (f x.value).events⟩

@[simp] theorem value_pure (x : α) : (pure x : Logged α).value = x := rfl

@[simp] theorem events_pure (x : α) : (pure x : Logged α).events = [] := rfl

@[simp] theorem value_bind (x : Logged α) (f : α → Logged β) :
    (x >>= f).value = (f x.value).value := rfl

@[simp] theorem events_bind (x : Logged α) (f : α → Logged β) :
    (x >>= f).events = x.events ++ (f x.value).events := rfl

end Logged
end PathTemplate
