import Pyzlc.Foundation.Effect
import Mathlib.Data.List.Basic

/-!
# The observer pattern

An event is the ordered list of its handlers, compared by equality as bound methods
are.  Emission runs over a copy of that list, so what the handlers do to the event
meanwhile does not change who is called; a handler that raises ends the emission.
-/

namespace Pyzlc

open Foundation

/-- An event whose handlers are identified by values of `η`. -/
structure Event (η : Type) where
  handlers : List η
  deriving DecidableEq, Repr

namespace Event

variable {η α ε σ : Type}

def empty : Event η := ⟨[]⟩

/-- Subscribe a handler to the event. -/
def subscribe [DecidableEq η] (event : Event η) (handler : η) : Event η :=
  if handler ∈ event.handlers then event else ⟨event.handlers ++ [handler]⟩

/-- Unsubscribe a handler from the event. -/
def unsubscribe [DecidableEq η] (event : Event η) (handler : η) : Event η :=
  ⟨event.handlers.erase handler⟩

/-- Emit the event, notifying all subscribed handlers in order. -/
def emit (call : η → α → Action ε σ Unit) (event : Event η) (arg : α) : Action ε σ Unit :=
  forM event.handlers fun handler => call handler arg

/-- What every handler guarantees, an emission guarantees. -/
theorem guarantees_emit {relation : σ → σ → Prop} {call : η → α → Action ε σ Unit}
    (refl : ∀ state, relation state state)
    (trans : ∀ first second third,
      relation first second → relation second third → relation first third)
    (every : ∀ handler arg, Action.Guarantees relation (call handler arg))
    (event : Event η) (arg : α) : Action.Guarantees relation (event.emit call arg) :=
  Action.guarantees_forM refl trans event.handlers fun handler => every handler arg

end Event

end Pyzlc
