import SourceLint.Log.Event

set_option autoImplicit false

/-!
# Logged values

A value together with the events that were reported on the way to it, in order.

## Main definitions

* `Logged` — a value and the events before it.

## Main results

* `Logged.events_bind`, `Logged.value_bind` — what two steps in a row report and give.
-/

namespace SourceLint

/-- A value together with the events that were reported on the way to it, in order. -/
structure Logged (α : Type) where
  events : List Event
  value : α

namespace Logged

variable {α β : Type}

/-- Steps in a row: the events of the first come before those of the second. -/
instance : Monad Logged where
  pure a := ⟨[], a⟩
  bind x f := ⟨x.events ++ (f x.value).events, (f x.value).value⟩

/-- Reports an event. -/
def report (event : Event) : Logged Unit :=
  ⟨[event], ()⟩

/-- A step that only gives a value reports nothing. -/
theorem events_pure (a : α) : (pure a : Logged α).events = [] := rfl

/-- A step that only gives a value gives this value. -/
theorem value_pure (a : α) : (pure a : Logged α).value = a := rfl

/-- Two steps in a row report the events of the first one, then those of the second one. -/
theorem events_bind (x : Logged α) (f : α → Logged β) :
    (x >>= f).events = x.events ++ (f x.value).events := rfl

/-- Two steps in a row give the value of the second one. -/
theorem value_bind (x : Logged α) (f : α → Logged β) :
    (x >>= f).value = (f x.value).value := rfl

end Logged

end SourceLint
