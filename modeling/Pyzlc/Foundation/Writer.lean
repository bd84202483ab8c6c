import Pyzlc.Foundation.Reader

/-!
# Appending writers

A writer extends a buffer and may raise.  It appends an output when, whatever the
buffer holds, it raises the output's exception or puts the output's bytes behind
the buffer; the output of a sequence is then the concatenation of the outputs.
-/

namespace Pyzlc.Foundation

/-- A writer into a growing buffer. -/
abbrev Writer (β ε α : Type) := StateT (List β) (Except ε) α

namespace Writer

variable {β ε α : Type}

/-- The writer appends the given output, or raises as it does. -/
def Appends (writer : Writer β ε Unit) (output : Except ε (List β)) : Prop :=
  ∀ buffer, writer.run buffer = output.map fun bytes => ((), buffer ++ bytes)

/-- Append the result of a computation that may raise. -/
def extend (output : Except ε (List β)) : Writer β ε Unit := do
  let bytes ← output
  modify fun buffer => buffer ++ bytes

theorem appends_extend (output : Except ε (List β)) : Appends (extend output) output := by
  intro buffer
  cases output <;> rfl

theorem appends_pure : Appends (pure () : Writer β ε Unit) (.ok []) := by
  intro buffer
  rw [StateT.run_pure, Except.map, List.append_nil]
  rfl

theorem appends_bind {first second : Writer β ε Unit} {head tail : Except ε (List β)}
    (firstAppends : Appends first head) (secondAppends : Appends second tail) :
    Appends (do first; second) (do let left ← head; let right ← tail; .ok (left ++ right)) := by
  intro buffer
  rw [StateT.run_bind, firstAppends buffer]
  cases head with
  | error error => rfl
  | ok left =>
      change second.run (buffer ++ left) = _
      rw [secondAppends (buffer ++ left)]
      cases tail with
      | error error => rfl
      | ok right =>
          change Except.ok ((), buffer ++ left ++ right) = Except.ok ((), buffer ++ (left ++ right))
          rw [List.append_assoc]

/-- A computation that raises or yields a value the writer goes on with. -/
theorem appends_of_except {first : Except ε α} {writer : α → Writer β ε Unit}
    {output : α → Except ε (List β)}
    (each : ∀ value, Appends (writer value) (output value)) :
    Appends (liftM first >>= writer) (first >>= output) := by
  intro buffer
  cases first with
  | error error => rfl
  | ok value => exact each value buffer

theorem appends_forM {body : α → Writer β ε Unit} {encode : α → Except ε (List β)}
    (element : ∀ value, Appends (body value) (encode value)) (values : List α) :
    Appends (forM values body) (Format.encodeAll encode values) := by
  induction values with
  | nil => exact appends_pure
  | cons value rest ih =>
      rw [List.forM_cons]
      exact appends_bind (element value) ih

end Writer

end Pyzlc.Foundation
