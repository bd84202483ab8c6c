import Pyzlc.Foundation.Machine
import Pyzlc.Sockets.Payloads

/-!
# The receive loop

`receive_loop` awaits a message, unpacks it and calls back, under one pair of handlers for
the socket and one for the rest.  A callback acts on the subscriber, whose `running` it may
clear, and on whatever else it reaches.
-/

namespace Pyzlc

open Foundation

/-- What `unpackb` raises is in the class `Exception`. -/
def Msgpack.RaisesExceptions {α : Type} (msgpack : Msgpack α) : Prop :=
  ∀ data error, msgpack.unpackb {} data = .error error → error.isException = true

/-- The value of a message, if it can be decoded. -/
def Msgpack.decoded {α : Type} (msgpack : Msgpack α) (msg : Bytes) : Option α :=
  (msgpack.unpackb {} msg).toOption

/-- Where the coroutine stands: before its first step, at its `await`, past its loop, or
left by an exception. -/
inductive ReceivePhase where
  | notStarted
  | receiving
  | returned
  | cancelled
  | crashed (error : PyError)
  deriving DecidableEq

/-- The loop is over. -/
def ReceivePhase.Over : ReceivePhase → Prop
  | .notStarted | .receiving => False
  | .returned | .cancelled | .crashed _ => True

/-- A coroutine `receive_loop`, the flag of its subscriber, what its callback reaches, and
the arguments the callback was called with. -/
structure Receiving (α ω : Type) where
  phase : ReceivePhase
  running : Bool
  outside : ω
  called : List α

/-- What a callback does with a message, to `running` and to the rest. -/
abbrev Callback (α ω : Type) := α → Action PyError (Bool × ω) Unit

/-- What happens to the coroutine.  `stop` is `self.running = False` outside of it. -/
inductive ReceiveEvent where
  | start
  | recv (msg : Bytes)
  | recvRaises (error : OrdinaryError)
  | cancel
  | stop

namespace Receiving

variable {α ω : Type}

/-- `while self.running`. -/
def proceed (state : Receiving α ω) : Receiving α ω :=
  { state with phase := if state.running then .receiving else .returned }

/-- The handlers of either `try` block: one breaks, the other goes on. -/
def except (error : PyError) (state : Receiving α ω) : Receiving α ω :=
  if error = .cancelledError then { state with phase := .cancelled }
  else if error.isException then state.proceed
  else { state with phase := .crashed error }

/-- The second `try` block, for a message. -/
def handle (msgpack : Msgpack α) (callback : Callback α ω) (msg : Bytes)
    (state : Receiving α ω) : Receiving α ω :=
  match msgpack.unpackb {} msg with
  | .error error => state.except error
  | .ok value =>
      match (callback value).run (state.running, state.outside) with
      | .ok _ left =>
          proceed { state with
            running := left.1, outside := left.2, called := state.called ++ [value] }
      | .error error left =>
          except error { state with
            running := left.1, outside := left.2, called := state.called ++ [value] }

def step (msgpack : Msgpack α) (callback : Callback α ω) (state : Receiving α ω) :
    ReceiveEvent → Option (Receiving α ω)
  | .start => if state.phase = .notStarted then some state.proceed else none
  | .recv msg =>
      if state.phase = .receiving then some (state.handle msgpack callback msg) else none
  | .recvRaises error =>
      if state.phase = .receiving then some (state.except error.1) else none
  | .cancel =>
      if state.phase = .notStarted ∨ state.phase = .receiving then
        some (state.except .cancelledError)
      else none
  | .stop => some { state with running := false }

/-- The coroutine of a new subscriber. -/
def init (outside : ω) : Receiving α ω where
  phase := .notStarted
  running := true
  outside := outside
  called := []

def machine (msgpack : Msgpack α) (callback : Callback α ω) (outside : ω) :
    Machine (Receiving α ω) ReceiveEvent where
  start := init outside
  step := step msgpack callback

/-- The messages a run receives. -/
def messages (trace : List ReceiveEvent) : List Bytes :=
  trace.filterMap fun event =>
    match event with
    | .recv msg => some msg
    | _ => none

/-! ## One step -/

/-- How a step may leave the loop. -/
structure Sound (trace : List ReceiveEvent) (state : Receiving α ω) : Prop where
  returned : state.phase = .returned → state.running = false
  cancelled : state.phase = .cancelled → ReceiveEvent.cancel ∈ trace
  crashed : ∀ error, state.phase ≠ .crashed error

theorem sound_proceed (trace : List ReceiveEvent) (state : Receiving α ω) :
    state.proceed.Sound trace := by
  cases flag : state.running with
  | true =>
      have phase : state.proceed.phase = .receiving := by rw [proceed, flag]; rfl
      constructor
      · intro same
        cases phase.symm.trans same
      · intro same
        cases phase.symm.trans same
      · intro error same
        cases phase.symm.trans same
  | false =>
      have phase : state.proceed.phase = .returned := by rw [proceed, flag]; rfl
      constructor
      · intro _
        exact flag
      · intro same
        cases phase.symm.trans same
      · intro error same
        cases phase.symm.trans same

theorem except_of_isException {error : PyError} (ordinary : error.isException = true)
    (state : Receiving α ω) : state.except error = state.proceed := by
  have other : error ≠ .cancelledError := by
    rintro rfl
    cases ordinary
  rw [except, if_neg other, if_pos ordinary]

variable {msgpack : Msgpack α} {callback : Callback α ω}

/-- A message that cannot be decoded is passed over, and one that can is handed to the
callback; the loop goes on either way. -/
theorem handle_eq (raises : msgpack.RaisesExceptions)
    (ordinary : ∀ value seen error left,
      (callback value).run seen = .error error left → error.isException = true)
    (msg : Bytes) (state : Receiving α ω) :
    ∃ left : Receiving α ω, state.handle msgpack callback msg = left.proceed ∧
      left.called = state.called ++ (msgpack.decoded msg).toList := by
  unfold handle Msgpack.decoded
  cases unpacked : msgpack.unpackb {} msg with
  | error error =>
      exact ⟨state, except_of_isException (raises msg error unpacked) state,
        (List.append_nil _).symm⟩
  | ok value =>
      simp only
      cases ran : (callback value).run (state.running, state.outside) with
      | ok _ left => exact ⟨_, rfl, rfl⟩
      | error error left =>
          exact ⟨_, except_of_isException (ordinary value _ error left ran) _, rfl⟩

theorem messages_append (first second : List ReceiveEvent) :
    messages (first ++ second) = messages first ++ messages second := List.filterMap_append

section Runs

variable (raises : msgpack.RaisesExceptions)
  (ordinary : ∀ value seen error left,
    (callback value).run seen = .error error left → error.isException = true)

include raises ordinary

/-- One step keeps how the loop may be left, and calls back with the message it brings. -/
theorem sound_step {state next : Receiving α ω} {event : ReceiveEvent}
    {trace : List ReceiveEvent} (sound : state.Sound trace)
    (stepped : state.step msgpack callback event = some next) :
    next.Sound (trace ++ [event]) ∧
      next.called = state.called ++ (messages [event]).filterMap msgpack.decoded := by
  cases event with
  | start =>
      rcases Option.ite_none_right_eq_some.1 stepped with ⟨_, taken⟩
      cases taken
      exact ⟨sound_proceed _ state, (List.append_nil _).symm⟩
  | recv msg =>
      rcases Option.ite_none_right_eq_some.1 stepped with ⟨_, taken⟩
      rcases handle_eq raises ordinary msg state with ⟨left, same, calls⟩
      cases taken
      rw [same]
      exact ⟨sound_proceed _ left, calls⟩
  | recvRaises error =>
      rcases Option.ite_none_right_eq_some.1 stepped with ⟨_, taken⟩
      cases taken
      rw [except_of_isException error.2]
      exact ⟨sound_proceed _ state, (List.append_nil _).symm⟩
  | cancel =>
      rcases Option.ite_none_right_eq_some.1 stepped with ⟨_, taken⟩
      cases taken
      refine ⟨?_, (List.append_nil _).symm⟩
      constructor
      · nofun
      · intro _
        exact List.mem_append_right _ (List.mem_singleton_self _)
      · nofun
  | stop =>
      cases stepped
      refine ⟨?_, (List.append_nil _).symm⟩
      constructor
      · intro _
        rfl
      · intro same
        exact List.mem_append_left _ (sound.cancelled same)
      · exact sound.crashed

/-- For every order of messages, socket errors and requests to stop, and every callback that
returns or raises an ordinary exception: the callback is called with the decoded values of
the messages received, in their order, and the loop is over only once it is cancelled or
`running` is false. -/
theorem called_eq_decoded {outside : ω} {trace : List ReceiveEvent} {state : Receiving α ω}
    (run : (machine msgpack callback outside).exec trace = some state) :
    state.called = (messages trace).filterMap msgpack.decoded ∧
      (state.phase.Over → ReceiveEvent.cancel ∈ trace ∨ state.running = false) := by
  have kept : state.called = (messages trace).filterMap msgpack.decoded ∧ state.Sound trace := by
    apply Machine.exec_induction (motive := fun trace state =>
      state.called = (messages trace).filterMap msgpack.decoded ∧ state.Sound trace) _ _ run
    · exact ⟨rfl, nofun, nofun, nofun⟩
    · intro trace before event next _ holds stepped
      rcases sound_step raises ordinary holds.2 stepped with ⟨sound, calls⟩
      refine ⟨?_, sound⟩
      rw [calls, holds.1, messages_append, List.filterMap_append]
  rcases kept with ⟨calls, sound⟩
  refine ⟨calls, ?_⟩
  intro ended
  cases phase : state.phase with
  | notStarted =>
      rw [phase] at ended
      exact ended.elim
  | receiving =>
      rw [phase] at ended
      exact ended.elim
  | returned => exact Or.inr (sound.returned phase)
  | cancelled => exact Or.inl (sound.cancelled phase)
  | crashed error => exact absurd phase (sound.crashed error)

end Runs

/-- The package for the values of the format raises only such exceptions. -/
theorem raisesExceptions_standard (limit : Nat) : (Msgpack.standard limit).RaisesExceptions := by
  intro data error raised
  cases decoded : MessagePack.decode limit data with
  | none =>
      have failed : (Msgpack.standard limit).unpackb {} data = .error .valueError :=
        Msgpack.unpackValue_of_not_decode decoded
      cases failed.symm.trans raised
      rfl
  | some read =>
      have outcome : (Msgpack.standard limit).unpackb {} data = _ :=
        Msgpack.unpackValue_of_decode decoded
      rw [outcome] at raised
      split at raised
      next =>
        split at raised
        next => cases raised
        next =>
          cases raised
          rfl
      next =>
        cases raised
        rfl

/-- A callback that raises on every message. -/
def failing : Callback MessagePack.Value Unit := fun _ => throw .runtimeError

/-- A message that is cut off, a socket error, and two messages, under such a callback. -/
def failingTrace : List ReceiveEvent :=
  [.start, .recv [0x99, 0x99], .recv [0x2a], .recvRaises ⟨.zmqError, rfl⟩, .recv [0xc3], .cancel]

theorem called_eq_decoded_failing :
    ∃ state, (machine (Msgpack.standard 8) failing ()).exec failingTrace = some state ∧
      state.called = (messages failingTrace).filterMap (Msgpack.standard 8).decoded ∧
      (state.phase.Over → ReceiveEvent.cancel ∈ failingTrace ∨ state.running = false) := by
  have runs : ((machine (Msgpack.standard 8) failing ()).exec failingTrace).isSome = true := by
    decide +kernel
  rcases Option.isSome_iff_exists.1 runs with ⟨state, run⟩
  refine ⟨state, run, called_eq_decoded (raisesExceptions_standard 8) ?_ run⟩
  intro value seen error left ran
  cases ran
  rfl

/-! ## Whole runs -/

/-- How `await self._socket.recv()` ends. -/
def ofOutcome : Except OrdinaryError Bytes → ReceiveEvent
  | .ok msg => .recv msg
  | .error error => .recvRaises error

/-- What the socket yields, and then the cancellation. -/
def untilCancelled (outcomes : List (Except OrdinaryError Bytes)) : List ReceiveEvent :=
  (ReceiveEvent.start :: outcomes.map ofOutcome) ++ [ReceiveEvent.cancel]

/-- A callback that reaches nothing is called with the same values by `receiveLoop`, which keeps
the messages alone. -/
theorem receiveLoop_eq_filterMap (raises : msgpack.RaisesExceptions)
    {callback : α → Except PyError Unit}
    (ordinary : ∀ value error, callback value = .error error → error.isException = true)
    (received : List Bytes) :
    receiveLoop msgpack callback received = received.filterMap msgpack.decoded := by
  induction received with
  | nil => rfl
  | cons msg rest ih =>
      cases unpacked : msgpack.unpackb {} msg with
      | error error =>
          have nothing : msgpack.decoded msg = none := by rw [Msgpack.decoded, unpacked]; rfl
          rw [receiveLoop, unpacked, List.filterMap_cons_none nothing, ← ih]
          exact if_pos (raises msg error unpacked)
      | ok value =>
          have found : msgpack.decoded msg = some value := by rw [Msgpack.decoded, unpacked]; rfl
          rw [receiveLoop, unpacked, List.filterMap_cons_some found, ← ih]
          cases called : callback value with
          | ok _ => simp only [called]
          | error error => simp only [called, ordinary value error called, if_true]

/-- The loop awaits the next message. -/
def Live (state : Receiving α ω) : Prop := state.phase = .receiving ∧ state.running = true

theorem live_proceed {state : Receiving α ω} (running : state.running = true) :
    state.proceed.Live := by
  refine ⟨?_, running⟩
  rw [proceed, running]
  rfl

section Keeping

variable (raises : msgpack.RaisesExceptions)
  (ordinary : ∀ value seen error left,
    (callback value).run seen = .error error left → error.isException = true)
  (keeps : ∀ value seen, ((callback value).after seen).1 = seen.1)

include raises ordinary keeps

theorem live_handle {state : Receiving α ω} (live : state.Live) (msg : Bytes) :
    (state.handle msgpack callback msg).Live := by
  unfold handle
  cases unpacked : msgpack.unpackb {} msg with
  | error error =>
      simp only [except_of_isException (raises msg error unpacked)]
      exact live_proceed live.2
  | ok value =>
      have left := keeps value (state.running, state.outside)
      simp only
      cases ran : (callback value).run (state.running, state.outside) with
      | ok _ seen =>
          rw [Action.after_of_ok ran] at left
          exact live_proceed (left.trans live.2)
      | error error seen =>
          rw [Action.after_of_error ran] at left
          simp only [except_of_isException (ordinary value _ error seen ran)]
          exact live_proceed (left.trans live.2)

theorem exists_live (outside : ω) (outcomes : List (Except OrdinaryError Bytes)) :
    ∃ state, (machine msgpack callback outside).exec
        (ReceiveEvent.start :: outcomes.map ofOutcome) = some state ∧ state.Live := by
  induction outcomes using List.reverseRecOn with
  | nil => exact ⟨_, rfl, rfl, rfl⟩
  | append_singleton outcomes outcome ih =>
      rcases ih with ⟨state, before, live⟩
      have extended : ReceiveEvent.start :: (outcomes ++ [outcome]).map ofOutcome =
          (ReceiveEvent.start :: outcomes.map ofOutcome) ++ [ofOutcome outcome] := by
        rw [List.map_append]
        rfl
      rw [extended]
      cases outcome with
      | ok msg =>
          exact ⟨_, Machine.exec_snoc_eq_some.2 ⟨state, before, if_pos live.1⟩,
            live_handle raises ordinary keeps live msg⟩
      | error error =>
          refine ⟨_, Machine.exec_snoc_eq_some.2 ⟨state, before, if_pos live.1⟩, ?_⟩
          rw [except_of_isException error.2]
          exact live_proceed live.2

/-- A loop whose callback leaves `running` alone takes everything the socket yields. -/
theorem exists_exec_untilCancelled (outside : ω) (outcomes : List (Except OrdinaryError Bytes)) :
    ∃ state, (machine msgpack callback outside).exec (untilCancelled outcomes) = some state := by
  rcases exists_live raises ordinary keeps outside outcomes with ⟨state, before, live⟩
  exact ⟨_, Machine.exec_snoc_eq_some.2 ⟨state, before, if_pos (Or.inr live.1)⟩⟩

end Keeping

end Receiving

end Pyzlc
