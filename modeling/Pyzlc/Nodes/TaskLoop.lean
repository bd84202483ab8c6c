import Pyzlc.Nodes.LoopManager

/-!
# The task loop and its singleton

`TaskLoopManager` by the steps of its threads: the thread of `spin_task`, which runs the
event loop and cleans up behind it, and the calls of `stop`, which hold a lock of the manager
from their test of the stopped event to their end.  The managers are numbered in the order
in which `get_instance` makes them.
-/

namespace Pyzlc

open Foundation

/-- Where the thread of `spin_task` stands. -/
inductive SpinPhase where
  /-- The loop exists and does not run yet. -/
  | starting
  /-- In `run_forever`. -/
  | looping
  /-- Out of `run_forever`, before the `finally` block. -/
  | left
  | finished
  deriving DecidableEq, Repr

/-- Where a call of `stop` stands. -/
inductive StopPhase where
  /-- Before the lock. -/
  | entering
  /-- Returned at once, as the stopped event was set. -/
  | skipped
  /-- About to cancel the tasks and to ask the loop to stop. -/
  | signalling
  /-- Waiting for the stopped event. -/
  | waiting
  | shuttingDown
  /-- In the join of the executor's queue. -/
  | joining
  /-- About to reset the singleton. -/
  | resetting
  /-- About to release the lock. -/
  | releasing
  /-- Returned from the end of the body. -/
  | returned
  deriving DecidableEq, Repr

/-- The call holds the lock. -/
def StopPhase.holdsLock : StopPhase → Bool
  | .entering | .skipped | .returned => false
  | _ => true

/-- The call has shut down the executor. -/
def StopPhase.pastShutdown : StopPhase → Bool
  | .joining | .resetting | .releasing | .returned => true
  | _ => false

/-- The call has reset the singleton. -/
def StopPhase.pastReset : StopPhase → Bool
  | .releasing | .returned => true
  | _ => false

/-- The call has returned. -/
def StopPhase.ended : StopPhase → Bool
  | .skipped | .returned => true
  | _ => false

/-- Manages the event loop and thread pool for asynchronous tasks.  `stopCalls` are the
calls of `stop` so far, by the order in which they were made. -/
structure TaskLoopManager where
  spin : SpinPhase
  stopRequested : Bool
  loopClosed : Bool
  running : Bool
  stoppedEvent : Bool
  stopLock : Option Nat
  stopCalls : List StopPhase
  executor : DaemonThreadPoolExecutor
  deriving DecidableEq

inductive ManagerEvent where
  | enterForever
  | loopStops
  /-- A task or callback raised `SystemExit` or `KeyboardInterrupt`. -/
  | loopDies
  | finallyBlock
  | callStop
  | testStopped (call : Nat)
  | signalStop (call : Nat)
  | waitReturns (call : Nat)
  | shutdownExecutor (call : Nat)
  | joinReturns (call : Nat)
  | resetInstance (call : Nat)
  | releaseLock (call : Nat)
  | executor (event : ExecutorEvent)
  deriving DecidableEq

namespace TaskLoopManager

/-- The constructor, which waits until the loop exists. -/
def create (maxWorkers : Nat) : TaskLoopManager where
  spin := .starting
  stopRequested := false
  loopClosed := false
  running := false
  stoppedEvent := false
  stopLock := none
  stopCalls := []
  executor := .init maxWorkers

/-- A call of `stop` goes on to another phase. -/
def moveCall (call : Nat) (phase : StopPhase) (manager : TaskLoopManager) : TaskLoopManager :=
  { manager with stopCalls := manager.stopCalls.set call phase }

/-- The test of the stopped event, right after the lock is taken. -/
def testStopped (call : Nat) (manager : TaskLoopManager) : TaskLoopManager :=
  if manager.stoppedEvent then
    manager.moveCall call .skipped
  else
    { manager.moveCall call .signalling with stopLock := some call, running := false }

/-- `call_soon_threadsafe(self._loop.stop)` for a loop that runs. -/
def signalStop (call : Nat) (manager : TaskLoopManager) : TaskLoopManager :=
  { manager.moveCall call .waiting with
    stopRequested := manager.stopRequested || decide (manager.spin = .looping) }

/-- The `finally` block of `spin_task`. -/
def finallyBlock (manager : TaskLoopManager) : TaskLoopManager :=
  { manager with running := false, loopClosed := true, stoppedEvent := true, spin := .finished }

/-- The events of the executor that are not steps of `stop`. -/
def ownEvent : ExecutorEvent → Bool
  | .shutdown | .joinReturns => false
  | _ => true

def step (manager : TaskLoopManager) : ManagerEvent → Option TaskLoopManager
  | .enterForever =>
      if manager.spin = .starting then some { manager with spin := .looping, running := true }
      else none
  | .loopStops =>
      if manager.spin = .looping ∧ manager.stopRequested = true then
        some { manager with spin := .left }
      else none
  | .loopDies => if manager.spin = .looping then some { manager with spin := .left } else none
  | .finallyBlock => if manager.spin = .left then some manager.finallyBlock else none
  | .callStop => some { manager with stopCalls := manager.stopCalls ++ [.entering] }
  | .testStopped call =>
      if manager.stopCalls[call]? = some .entering ∧ manager.stopLock = none then
        some (manager.testStopped call)
      else none
  | .signalStop call =>
      if manager.stopCalls[call]? = some .signalling then some (manager.signalStop call) else none
  | .waitReturns call =>
      if manager.stopCalls[call]? = some .waiting ∧ manager.stoppedEvent = true then
        some (manager.moveCall call .shuttingDown)
      else none
  | .shutdownExecutor call =>
      if manager.stopCalls[call]? = some .shuttingDown then
        (manager.executor.step .shutdown).map fun executor =>
          { manager.moveCall call .joining with executor := executor }
      else none
  | .joinReturns call =>
      if manager.stopCalls[call]? = some .joining then
        (manager.executor.step .joinReturns).map fun executor =>
          { manager.moveCall call .resetting with executor := executor }
      else none
  | .resetInstance call =>
      if manager.stopCalls[call]? = some .resetting then some (manager.moveCall call .releasing)
      else none
  | .releaseLock call =>
      if manager.stopCalls[call]? = some .releasing then
        some { manager.moveCall call .returned with stopLock := none }
      else none
  | .executor event =>
      if ownEvent event then
        (manager.executor.step event).map fun executor => { manager with executor := executor }
      else none

/-! ## What a step can do -/

/-- Every way a step can go, with the phase of its thread. -/
inductive StepCase (manager : TaskLoopManager) : ManagerEvent → TaskLoopManager → Prop where
  | entered (phase : manager.spin = .starting) :
      StepCase manager .enterForever { manager with spin := .looping, running := true }
  | stopped (phase : manager.spin = .looping) (asked : manager.stopRequested = true) :
      StepCase manager .loopStops { manager with spin := .left }
  | died (phase : manager.spin = .looping) :
      StepCase manager .loopDies { manager with spin := .left }
  | cleaned (phase : manager.spin = .left) : StepCase manager .finallyBlock manager.finallyBlock
  | called :
      StepCase manager .callStop { manager with stopCalls := manager.stopCalls ++ [.entering] }
  | skipped (call : Nat) (phase : manager.stopCalls[call]? = some .entering)
      (free : manager.stopLock = none) (event : manager.stoppedEvent = true) :
      StepCase manager (.testStopped call) (manager.moveCall call .skipped)
  | locked (call : Nat) (phase : manager.stopCalls[call]? = some .entering)
      (free : manager.stopLock = none) (event : manager.stoppedEvent = false) :
      StepCase manager (.testStopped call)
        { manager.moveCall call .signalling with stopLock := some call, running := false }
  | signalled (call : Nat) (phase : manager.stopCalls[call]? = some .signalling) :
      StepCase manager (.signalStop call) (manager.signalStop call)
  | waited (call : Nat) (phase : manager.stopCalls[call]? = some .waiting)
      (event : manager.stoppedEvent = true) :
      StepCase manager (.waitReturns call) (manager.moveCall call .shuttingDown)
  | shut (call : Nat) (phase : manager.stopCalls[call]? = some .shuttingDown) :
      StepCase manager (.shutdownExecutor call)
        { manager.moveCall call .joining with
          executor := { manager.executor with isShutdown := true } }
  | joined (call : Nat) (phase : manager.stopCalls[call]? = some .joining) :
      StepCase manager (.joinReturns call) (manager.moveCall call .resetting)
  | reset (call : Nat) (phase : manager.stopCalls[call]? = some .resetting) :
      StepCase manager (.resetInstance call) (manager.moveCall call .releasing)
  | released (call : Nat) (phase : manager.stopCalls[call]? = some .releasing) :
      StepCase manager (.releaseLock call)
        { manager.moveCall call .returned with stopLock := none }
  | worked (event : ExecutorEvent) (executor : DaemonThreadPoolExecutor)
      (own : ownEvent event = true)
      (stepped : DaemonThreadPoolExecutor.StepCase manager.executor event executor) :
      StepCase manager (.executor event) { manager with executor := executor }

theorem stepCase_of_step {manager next : TaskLoopManager} {event : ManagerEvent}
    (stepped : manager.step event = some next) : StepCase manager event next := by
  cases event with
  | enterForever =>
      rcases Option.ite_none_right_eq_some.1 stepped with ⟨phase, same⟩
      cases same
      exact .entered phase
  | loopStops =>
      rcases Option.ite_none_right_eq_some.1 stepped with ⟨⟨phase, asked⟩, same⟩
      cases same
      exact .stopped phase asked
  | loopDies =>
      rcases Option.ite_none_right_eq_some.1 stepped with ⟨phase, same⟩
      cases same
      exact .died phase
  | finallyBlock =>
      rcases Option.ite_none_right_eq_some.1 stepped with ⟨phase, same⟩
      cases same
      exact .cleaned phase
  | callStop =>
      cases stepped
      exact .called
  | testStopped call =>
      rcases Option.ite_none_right_eq_some.1 stepped with ⟨⟨phase, free⟩, same⟩
      cases same
      cases event : manager.stoppedEvent with
      | true =>
          rw [testStopped, if_pos event]
          exact .skipped call phase free event
      | false =>
          rw [testStopped, if_neg (by rw [event]; exact Bool.false_ne_true)]
          exact .locked call phase free event
  | signalStop call =>
      rcases Option.ite_none_right_eq_some.1 stepped with ⟨phase, same⟩
      cases same
      exact .signalled call phase
  | waitReturns call =>
      rcases Option.ite_none_right_eq_some.1 stepped with ⟨⟨phase, event⟩, same⟩
      cases same
      exact .waited call phase event
  | shutdownExecutor call =>
      rcases Option.ite_none_right_eq_some.1 stepped with ⟨phase, same⟩
      cases same
      exact .shut call phase
  | joinReturns call =>
      rcases Option.ite_none_right_eq_some.1 stepped with ⟨phase, same⟩
      rcases Option.map_eq_some_iff.1 same with ⟨executor, joined, rfl⟩
      cases DaemonThreadPoolExecutor.stepCase_of_step joined
      exact .joined call phase
  | resetInstance call =>
      rcases Option.ite_none_right_eq_some.1 stepped with ⟨phase, same⟩
      cases same
      exact .reset call phase
  | releaseLock call =>
      rcases Option.ite_none_right_eq_some.1 stepped with ⟨phase, same⟩
      cases same
      exact .released call phase
  | executor event =>
      rcases Option.ite_none_right_eq_some.1 stepped with ⟨own, same⟩
      rcases Option.map_eq_some_iff.1 same with ⟨executor, worked, rfl⟩
      exact .worked event executor own (DaemonThreadPoolExecutor.stepCase_of_step worked)

end TaskLoopManager

/-- The managers made so far and `TaskLoopManager.instance`. -/
structure LoopManagers where
  managers : List TaskLoopManager
  current : Option Nat
  deriving DecidableEq

inductive LoopEvent where
  | getInstance
  | onManager (serial : Nat) (event : ManagerEvent)
  deriving DecidableEq

namespace LoopManagers

/-- `max_workers` where `get_instance` makes a manager. -/
def maxWorkers : Nat := 3

/-- Get the singleton instance of TaskLoopManager, as one step. -/
def getInstance (state : LoopManagers) : Nat × LoopManagers :=
  match state.current with
  | some serial => (serial, state)
  | none =>
      (state.managers.length,
        { managers := state.managers ++ [.create maxWorkers]
          current := some state.managers.length })

/-- A call of `stop` resets the singleton, whichever manager it is. -/
def currentAfter (state : LoopManagers) : ManagerEvent → Option Nat
  | .resetInstance _ => none
  | _ => state.current

def step (state : LoopManagers) : LoopEvent → Option LoopManagers
  | .getInstance => some state.getInstance.2
  | .onManager serial event => do
      let manager ← state.managers[serial]?
      let next ← manager.step event
      some {
        managers := state.managers.set serial next
        current := state.currentAfter event }

def machine : Machine LoopManagers LoopEvent where
  start := { managers := [], current := none }
  step := step

end LoopManagers

end Pyzlc
