import Mathlib.Algebra.Order.Ring.Rat
import Pyzlc.Foundation.Machine
import Pyzlc.Foundation.Serials

/-!
# Streamers

A streamer submits a coroutine `update_loop` whenever `start_streaming` is called.  The event
loop runs one coroutine at a time, from one suspension to the next, while the clock goes on;
the coroutines of a streamer share its flag `running` and nothing else.  What can be observed
of them, publish calls, suspensions and the moments at which `last` is set, is kept beside the
state.
-/

namespace Pyzlc

open Foundation

/-- Where a coroutine `update_loop` stands. -/
inductive UpdatePhase where
  | submitted
  | head
  | timing
  | pausing
  | sleeping (wakeAt : ℚ)
  | marking
  | updating
  | publishing
  | ended
  deriving DecidableEq

/-- The coroutine has the event loop. -/
def UpdatePhase.active : UpdatePhase → Bool
  | .head | .timing | .pausing | .marking | .updating | .publishing => true
  | .submitted | .sleeping _ | .ended => false

/-- A coroutine with its variables. -/
structure UpdateLoop where
  phase : UpdatePhase
  last : ℚ
  diff : ℚ
  deriving DecidableEq

/-- `Streamer`, with its coroutines and the clock. -/
structure Streamer where
  running : Bool
  loops : List UpdateLoop
  now : ℚ
  deriving DecidableEq

/-- What happens to a streamer.  `raises` is an exception of `update_func` or `publish`. -/
inductive StreamerEvent where
  | startStreaming
  | stopRunning
  | advance (elapsed : ℚ)
  | enter (index : Nat)
  | wake (index : Nat)
  | cancel (index : Nat)
  | proceed (index : Nat)
  | raises (index : Nat)
  deriving DecidableEq

namespace UpdateLoop

def submitted : UpdateLoop where
  phase := .submitted
  last := 0
  diff := 0

/-- The next step of a coroutine that has the event loop. -/
def proceed (dt now : ℚ) (running : Bool) (loop : UpdateLoop) : Option UpdateLoop :=
  match loop.phase with
  | .head => some { loop with phase := if running then .timing else .ended }
  | .timing =>
      let diff := now - loop.last
      some { loop with diff := diff, phase := if diff < dt then .pausing else .marking }
  | .pausing => some { loop with phase := .sleeping (now + (dt - loop.diff)) }
  | .marking => some { loop with last := now, phase := .updating }
  | .updating => some { loop with phase := .publishing }
  | .publishing => some { loop with phase := .head }
  | .submitted | .sleeping _ | .ended => none

end UpdateLoop

namespace Streamer

/-- Some coroutine has the event loop. -/
def busy (state : Streamer) : Bool := state.loops.any fun loop => loop.phase.active

/-- Another state of one coroutine. -/
def update (index : Nat) (loop : UpdateLoop) (state : Streamer) : Streamer :=
  { state with loops := state.loops.set index loop }

def step (dt : ℚ) (state : Streamer) : StreamerEvent → Option Streamer
  | .startStreaming => some { state with loops := state.loops ++ [UpdateLoop.submitted] }
  | .stopRunning => some { state with running := false }
  | .advance elapsed => if 0 ≤ elapsed then some { state with now := state.now + elapsed } else none
  | .enter index =>
      state.loops[index]?.bind fun loop =>
        if loop.phase = .submitted ∧ state.busy = false then
          some { state.update index { loop with phase := .head, last := 0 } with running := true }
        else none
  | .wake index =>
      state.loops[index]?.bind fun loop =>
        match loop.phase with
        | .sleeping wakeAt =>
            if wakeAt ≤ state.now ∧ state.busy = false then
              some (state.update index { loop with phase := .marking })
            else none
        | _ => none
  | .cancel index =>
      state.loops[index]?.bind fun loop =>
        if loop.phase.active = false ∧ state.busy = false then
          some (state.update index { loop with phase := .ended })
        else none
  | .proceed index =>
      state.loops[index]?.bind fun loop =>
        (loop.proceed dt state.now state.running).map fun next => state.update index next
  | .raises index =>
      state.loops[index]?.bind fun loop =>
        if loop.phase = .updating ∨ loop.phase = .publishing then
          some (state.update index { loop with phase := .ended })
        else none

/-- A streamer right after construction, by the reading of the clock. -/
def init (now : ℚ) : Streamer where
  running := false
  loops := []
  now := now

end Streamer

/-- What a coroutine is seen doing. -/
inductive Happening where
  | published
  | suspended
  deriving DecidableEq

/-- The moments at which `last` was set, and what each coroutine did. -/
structure StreamerLog where
  rounds : List ℚ
  history : List (Nat × Happening)
  deriving DecidableEq

namespace Streamer

/-- What the next step of a coroutine adds to the log. -/
def observe (index : Nat) (now : ℚ) (log : StreamerLog) : UpdatePhase → StreamerLog
  | .pausing => { log with history := log.history ++ [(index, .suspended)] }
  | .marking => { log with rounds := log.rounds ++ [now] }
  | .updating => { log with history := log.history ++ [(index, .published)] }
  | _ => log

/-- What a step adds to the log. -/
def record (state : Streamer) (event : StreamerEvent) (log : StreamerLog) : StreamerLog :=
  match event with
  | .proceed index =>
      match state.loops[index]? with
      | some loop => observe index state.now log loop.phase
      | none => log
  | _ => log

/-- The runs of a streamer of a rate, with their log.  The constructor's own call of
`start_streaming` is the first event, if it makes one. -/
def machine (fps now : ℚ) : Machine (Streamer × StreamerLog) StreamerEvent :=
  Machine.recording { start := init now, step := step (1 / fps) } { rounds := [], history := [] }
    record

/-! ## What a step does -/

/-- What each event does, where it can happen. -/
inductive StepCase (dt : ℚ) (state : Streamer) (log : StreamerLog) :
    StreamerEvent → Streamer → StreamerLog → Prop where
  | startStreaming :
      StepCase dt state log .startStreaming
        { state with loops := state.loops ++ [UpdateLoop.submitted] } log
  | stopRunning : StepCase dt state log .stopRunning { state with running := false } log
  | advance (elapsed : ℚ) (forward : 0 ≤ elapsed) :
      StepCase dt state log (.advance elapsed) { state with now := state.now + elapsed } log
  | enter (index : Nat) (loop : UpdateLoop) (found : state.loops[index]? = some loop)
      (phase : loop.phase = .submitted) :
      StepCase dt state log (.enter index)
        { state.update index { loop with phase := .head, last := 0 } with running := true } log
  | wake (index : Nat) (loop : UpdateLoop) (wakeAt : ℚ)
      (found : state.loops[index]? = some loop) (phase : loop.phase = .sleeping wakeAt)
      (late : wakeAt ≤ state.now) :
      StepCase dt state log (.wake index)
        (state.update index { loop with phase := .marking }) log
  | cancel (index : Nat) (loop : UpdateLoop) (found : state.loops[index]? = some loop) :
      StepCase dt state log (.cancel index) (state.update index { loop with phase := .ended }) log
  | raises (index : Nat) (loop : UpdateLoop) (found : state.loops[index]? = some loop) :
      StepCase dt state log (.raises index) (state.update index { loop with phase := .ended }) log
  | head (index : Nat) (loop : UpdateLoop) (found : state.loops[index]? = some loop)
      (phase : loop.phase = .head) :
      StepCase dt state log (.proceed index)
        (state.update index
          { loop with phase := if state.running then .timing else .ended }) log
  | early (index : Nat) (loop : UpdateLoop) (found : state.loops[index]? = some loop)
      (phase : loop.phase = .timing) (soon : state.now - loop.last < dt) :
      StepCase dt state log (.proceed index)
        (state.update index { loop with diff := state.now - loop.last, phase := .pausing }) log
  | late (index : Nat) (loop : UpdateLoop) (found : state.loops[index]? = some loop)
      (phase : loop.phase = .timing) (overdue : dt ≤ state.now - loop.last) :
      StepCase dt state log (.proceed index)
        (state.update index { loop with diff := state.now - loop.last, phase := .marking }) log
  | pause (index : Nat) (loop : UpdateLoop) (found : state.loops[index]? = some loop)
      (phase : loop.phase = .pausing) :
      StepCase dt state log (.proceed index)
        (state.update index { loop with phase := .sleeping (state.now + (dt - loop.diff)) })
        { log with history := log.history ++ [(index, .suspended)] }
  | mark (index : Nat) (loop : UpdateLoop) (found : state.loops[index]? = some loop)
      (phase : loop.phase = .marking) :
      StepCase dt state log (.proceed index)
        (state.update index { loop with last := state.now, phase := .updating })
        { log with rounds := log.rounds ++ [state.now] }
  | publish (index : Nat) (loop : UpdateLoop) (found : state.loops[index]? = some loop)
      (phase : loop.phase = .updating) :
      StepCase dt state log (.proceed index)
        (state.update index { loop with phase := .publishing })
        { log with history := log.history ++ [(index, .published)] }
  | again (index : Nat) (loop : UpdateLoop) (found : state.loops[index]? = some loop)
      (phase : loop.phase = .publishing) :
      StepCase dt state log (.proceed index)
        (state.update index { loop with phase := .head }) log

theorem stepCase_of_proceed {dt : ℚ} {state next : Streamer} {index : Nat}
    (stepped : state.step dt (.proceed index) = some next) (log : StreamerLog) :
    StepCase dt state log (.proceed index) next (state.record (.proceed index) log) := by
  rcases Option.bind_eq_some_iff.1 stepped with ⟨loop, found, proceeded⟩
  rcases Option.map_eq_some_iff.1 proceeded with ⟨moved, taken, rfl⟩
  have recorded : state.record (.proceed index) log = observe index state.now log loop.phase := by
    rw [record, found]
  rw [recorded]
  unfold UpdateLoop.proceed at taken
  cases phase : loop.phase with
  | submitted | sleeping wakeAt | ended =>
      rw [phase] at taken
      cases taken
  | head =>
      rw [phase] at taken
      cases taken
      exact .head index loop found phase
  | timing =>
      rw [phase] at taken
      by_cases soon : state.now - loop.last < dt
      · simp only [if_pos soon] at taken
        cases taken
        exact .early index loop found phase soon
      · simp only [if_neg soon] at taken
        cases taken
        exact .late index loop found phase (not_lt.1 soon)
  | pausing =>
      rw [phase] at taken
      cases taken
      exact .pause index loop found phase
  | marking =>
      rw [phase] at taken
      cases taken
      exact .mark index loop found phase
  | updating =>
      rw [phase] at taken
      cases taken
      exact .publish index loop found phase
  | publishing =>
      rw [phase] at taken
      cases taken
      exact .again index loop found phase

theorem stepCase_of_step {dt : ℚ} {state next : Streamer} {event : StreamerEvent}
    (stepped : state.step dt event = some next) (log : StreamerLog) :
    StepCase dt state log event next (state.record event log) := by
  cases event with
  | startStreaming =>
      cases stepped
      exact .startStreaming
  | stopRunning =>
      cases stepped
      exact .stopRunning
  | advance elapsed =>
      rcases Option.ite_none_right_eq_some.1 stepped with ⟨forward, taken⟩
      cases taken
      exact .advance elapsed forward
  | enter index =>
      rcases Option.bind_eq_some_iff.1 stepped with ⟨loop, found, guarded⟩
      rcases Option.ite_none_right_eq_some.1 guarded with ⟨⟨phase, _⟩, taken⟩
      cases taken
      exact .enter index loop found phase
  | wake index =>
      rcases Option.bind_eq_some_iff.1 stepped with ⟨loop, found, guarded⟩
      split at guarded
      next wakeAt phase =>
        rcases Option.ite_none_right_eq_some.1 guarded with ⟨⟨late, _⟩, taken⟩
        cases taken
        exact .wake index loop wakeAt found phase late
      next => cases guarded
  | cancel index =>
      rcases Option.bind_eq_some_iff.1 stepped with ⟨loop, found, guarded⟩
      rcases Option.ite_none_right_eq_some.1 guarded with ⟨_, taken⟩
      cases taken
      exact .cancel index loop found
  | proceed index => exact stepCase_of_proceed stepped log
  | raises index =>
      rcases Option.bind_eq_some_iff.1 stepped with ⟨loop, found, guarded⟩
      rcases Option.ite_none_right_eq_some.1 guarded with ⟨_, taken⟩
      cases taken
      exact .raises index loop found

/-- What a recorded step does to the state and to the log. -/
theorem stepCase_of_machine {fps now : ℚ} {before after : Streamer × StreamerLog}
    {event : StreamerEvent} (stepped : (machine fps now).step before event = some after) :
    StepCase (1 / fps) before.1 before.2 event after.1 after.2 := by
  rcases Machine.recording_step.1 stepped with ⟨taken, recorded⟩
  rw [recorded]
  exact stepCase_of_step taken before.2

end Streamer

end Pyzlc
