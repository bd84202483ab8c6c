import Pyzlc.Nodes.ExecutorShutdown
import Pyzlc.Nodes.TaskLoop

/-!
# Stopped loop managers

A call of `stop` that finds the stopped event set takes the manager for stopped and returns.
The event is also set by a loop that ended on its own, behind which nothing is shut down and
the singleton stays; and while an orderly stop is under way, the singleton is a manager whose
loop is closed already.
-/

namespace Pyzlc

open Foundation

/-- Only `shutdown` sets the flag, and nothing takes it back. -/
theorem DaemonThreadPoolExecutor.isShutdown_of_own {executor next : DaemonThreadPoolExecutor}
    {event : ExecutorEvent} (own : TaskLoopManager.ownEvent event = true)
    (stepped : StepCase executor event next) : next.isShutdown = executor.isShutdown := by
  cases stepped with
  | shutdown => cases own
  | refused | accepted | spawned | took | foundEmpty | stayed | broke | claimed | skipped | choked
  | finished | died | left | cancelled | notCancelled | joined => rfl

namespace TaskLoopManager

/-- Some call of `stop` is in a phase. -/
def HasCall (manager : TaskLoopManager) (phases : StopPhase → Bool) : Prop :=
  ∃ phase ∈ manager.stopCalls, phases phase = true

instance (manager : TaskLoopManager) (phases : StopPhase → Bool) :
    Decidable (manager.HasCall phases) :=
  inferInstanceAs (Decidable (∃ phase ∈ manager.stopCalls, phases phase = true))

/-- At most one call of `stop` is behind its test, the one that holds the lock; the executor
is shut down exactly by the calls that came so far; the loop is closed by the thread that
ran it. -/
structure Consistent (manager : TaskLoopManager) : Prop where
  lock : ∀ (call : Nat) phase, manager.stopCalls[call]? = some phase → phase.holdsLock = true →
    manager.stopLock = some call
  shutdown : manager.executor.isShutdown = true ↔ manager.HasCall StopPhase.pastShutdown
  closed : manager.loopClosed = true ↔ manager.spin = .finished

/-! ## Calls that move on -/

theorem hasCall_iff {manager : TaskLoopManager} {phases : StopPhase → Bool} :
    manager.HasCall phases ↔
      ∃ (call : Nat) (phase : StopPhase),
        manager.stopCalls[call]? = some phase ∧ phases phase = true := by
  constructor
  · rintro ⟨phase, member, holds⟩
    rcases List.mem_iff_getElem?.1 member with ⟨call, found⟩
    exact ⟨call, phase, found, holds⟩
  · rintro ⟨call, phase, found, holds⟩
    exact ⟨phase, List.mem_of_getElem? found, holds⟩

/-- The phases of the calls after one of them moved on. -/
theorem hasCall_moveCall {manager : TaskLoopManager} {call : Nat} {old new : StopPhase}
    (phase : manager.stopCalls[call]? = some old) (phases : StopPhase → Bool)
    (kept : phases old = true → phases new = true) :
    (manager.moveCall call new).HasCall phases ↔ phases new = true ∨ manager.HasCall phases := by
  rw [hasCall_iff, hasCall_iff]
  constructor
  · rintro ⟨other, found, here, holds⟩
    rcases Serials.found_of_update phase here with ⟨_, last⟩ | ⟨_, before⟩
    · exact Or.inl (last ▸ holds)
    · exact Or.inr ⟨other, found, before, holds⟩
  · have self : (manager.moveCall call new).stopCalls[call]? = some new := by
      rw [moveCall, Serials.getElem?_update phase, if_pos rfl]
    rintro (moved | ⟨other, found, here, holds⟩)
    · exact ⟨call, new, self, moved⟩
    · by_cases same : other = call
      · cases same
        cases phase.symm.trans here
        exact ⟨call, new, self, kept holds⟩
      · refine ⟨other, found, ?_, holds⟩
        rw [moveCall, Serials.getElem?_update phase, if_neg same]
        exact here

theorem hasCall_append_entering {manager : TaskLoopManager} {phases : StopPhase → Bool}
    (not : phases .entering = false) :
    ({ manager with stopCalls := manager.stopCalls ++ [.entering] } : TaskLoopManager).HasCall
        phases ↔ manager.HasCall phases := by
  simp [HasCall, or_and_right, exists_or, not]

/-- A call that moves on within the lock, or outside it. -/
theorem Consistent.moveCall {manager : TaskLoopManager} (consistent : manager.Consistent)
    {call : Nat} {old new : StopPhase} (phase : manager.stopCalls[call]? = some old)
    (locked : new.holdsLock = true → old.holdsLock = true)
    (shutdown : new.pastShutdown = old.pastShutdown) :
    (manager.moveCall call new).Consistent where
  lock := by
    intro other found here holds
    rcases Serials.found_of_update phase here with ⟨rfl, rfl⟩ | ⟨_, before⟩
    · exact consistent.lock other old phase (locked holds)
    · exact consistent.lock other found before holds
  shutdown := by
    rw [hasCall_moveCall phase _ (by rw [shutdown]; exact id), shutdown]
    constructor
    · intro flag
      exact Or.inr (consistent.shutdown.1 flag)
    · rintro (moved | before)
      · exact consistent.shutdown.2 (hasCall_iff.2 ⟨call, old, phase, moved⟩)
      · exact consistent.shutdown.2 before
  closed := consistent.closed

theorem consistent_create (maxWorkers : Nat) : (create maxWorkers).Consistent where
  lock := by
    intro call phase found
    cases found
  shutdown := by simp [HasCall, create, DaemonThreadPoolExecutor.init]
  closed := by simp [create]

/-- The call that takes the lock, as it was free, is the only one behind its test. -/
theorem consistent_locked {manager : TaskLoopManager} (consistent : manager.Consistent)
    {call : Nat} (phase : manager.stopCalls[call]? = some .entering)
    (free : manager.stopLock = none) :
    ({ manager.moveCall call .signalling with
      stopLock := some call, running := false } : TaskLoopManager).Consistent where
  lock := by
    intro other found here holds
    rcases Serials.found_of_update phase here with ⟨rfl, _⟩ | ⟨_, before⟩
    · rfl
    · have taken := consistent.lock other found before holds
      rw [free] at taken
      cases taken
  shutdown := by
    have moved : (manager.moveCall call .signalling).HasCall StopPhase.pastShutdown ↔ _ :=
      hasCall_moveCall phase _ fun shut => absurd shut Bool.false_ne_true
    constructor
    · intro flag
      exact moved.2 (Or.inr (consistent.shutdown.1 flag))
    · intro call
      rcases moved.1 call with shut | before
      · cases shut
      · exact consistent.shutdown.2 before
  closed := consistent.closed

theorem consistent_shut {manager : TaskLoopManager} (consistent : manager.Consistent)
    {call : Nat} (phase : manager.stopCalls[call]? = some .shuttingDown) :
    ({ manager.moveCall call .joining with
      executor := { manager.executor with isShutdown := true } } : TaskLoopManager).Consistent where
  lock := by
    intro other found here holds
    rcases Serials.found_of_update phase here with ⟨rfl, _⟩ | ⟨_, before⟩
    · exact consistent.lock other .shuttingDown phase rfl
    · exact consistent.lock other found before holds
  shutdown := by
    have moved : (manager.moveCall call .joining).HasCall StopPhase.pastShutdown ↔ _ :=
      hasCall_moveCall phase _ fun _ => rfl
    exact ⟨fun _ => moved.2 (Or.inl rfl), fun _ => rfl⟩
  closed := consistent.closed

theorem consistent_released {manager : TaskLoopManager} (consistent : manager.Consistent)
    {call : Nat} (phase : manager.stopCalls[call]? = some .releasing) :
    ({ manager.moveCall call .returned with stopLock := none } : TaskLoopManager).Consistent where
  lock := by
    intro other found here holds
    rcases Serials.found_of_update phase here with ⟨_, rfl⟩ | ⟨different, before⟩
    · cases holds
    · have first := consistent.lock call .releasing phase rfl
      have second := consistent.lock other found before holds
      exact absurd (Option.some.inj (second.symm.trans first)) different
  shutdown := by
    have moved : (manager.moveCall call .returned).HasCall StopPhase.pastShutdown ↔ _ :=
      hasCall_moveCall phase _ fun _ => rfl
    constructor
    · intro _
      exact moved.2 (Or.inl rfl)
    · intro _
      exact consistent.shutdown.2 (hasCall_iff.2 ⟨call, .releasing, phase, rfl⟩)
  closed := consistent.closed

theorem consistent_step {manager next : TaskLoopManager} {event : ManagerEvent}
    (consistent : manager.Consistent) (stepped : StepCase manager event next) :
    next.Consistent := by
  -- the loop is open while its thread is anywhere but at its end
  have isOpen : manager.spin ≠ .finished → ∀ phase : SpinPhase, phase ≠ .finished →
      (manager.loopClosed = true ↔ phase = .finished) := by
    intro before phase after
    exact ⟨fun closed => absurd (consistent.closed.1 closed) before,
      fun same => absurd same after⟩
  cases stepped with
  | entered phase =>
      exact ⟨consistent.lock, consistent.shutdown, isOpen (by simp [phase]) .looping (by simp)⟩
  | stopped phase =>
      exact ⟨consistent.lock, consistent.shutdown, isOpen (by simp [phase]) .left (by simp)⟩
  | died phase =>
      exact ⟨consistent.lock, consistent.shutdown, isOpen (by simp [phase]) .left (by simp)⟩
  | cleaned => exact ⟨consistent.lock, consistent.shutdown, fun _ => rfl, fun _ => rfl⟩
  | called =>
      refine ⟨?_, ?_, consistent.closed⟩
      · intro call phase here holds
        rcases Serials.found_of_add here with ⟨_, before⟩ | ⟨_, rfl⟩
        · exact consistent.lock call phase before holds
        · cases holds
      · rw [hasCall_append_entering rfl]
        exact consistent.shutdown
  | skipped call phase => exact consistent.moveCall phase id rfl
  | locked call phase free => exact consistent_locked consistent phase free
  | signalled call phase =>
      have moved : (manager.moveCall call .waiting).Consistent :=
        consistent.moveCall phase id rfl
      exact ⟨moved.lock, moved.shutdown, moved.closed⟩
  | waited call phase => exact consistent.moveCall phase id rfl
  | shut call phase => exact consistent_shut consistent phase
  | joined call phase => exact consistent.moveCall phase id rfl
  | reset call phase => exact consistent.moveCall phase id rfl
  | released call phase => exact consistent_released consistent phase
  | worked event executor own worked =>
      refine ⟨consistent.lock, ?_, consistent.closed⟩
      rw [DaemonThreadPoolExecutor.isShutdown_of_own own worked]
      exact consistent.shutdown

/-- Only the reset takes a call past it. -/
theorem hasCall_pastReset_of_step {manager next : TaskLoopManager} {event : ManagerEvent}
    (stepped : StepCase manager event next) (past : next.HasCall StopPhase.pastReset) :
    manager.HasCall StopPhase.pastReset ∨ ∃ call, event = .resetInstance call := by
  cases stepped with
  | entered | stopped | died | cleaned | worked => exact Or.inl past
  | called => exact Or.inl ((hasCall_append_entering rfl).1 past)
  | skipped call phase | locked call phase | signalled call phase | waited call phase
  | shut call phase | joined call phase =>
      rcases (hasCall_moveCall phase StopPhase.pastReset nofun).1 past with now | before
      · cases now
      · exact Or.inl before
  | reset call => exact Or.inr ⟨call, rfl⟩
  | released call phase => exact Or.inl (hasCall_iff.2 ⟨call, .releasing, phase, rfl⟩)

/-- A call returns from the end of its body, or at its test. -/
theorem hasCall_ended_of_step {manager next : TaskLoopManager} {event : ManagerEvent}
    (stepped : StepCase manager event next) (ended : next.HasCall StopPhase.ended) :
    manager.HasCall StopPhase.ended ∨ manager.HasCall StopPhase.pastReset ∨
      (manager.stoppedEvent = true ∧ ∃ call, event = .testStopped call) := by
  cases stepped with
  | entered | stopped | died | cleaned | worked => exact Or.inl ended
  | called => exact Or.inl ((hasCall_append_entering rfl).1 ended)
  | skipped call phase free event => exact Or.inr (Or.inr ⟨event, call, rfl⟩)
  | locked call phase | signalled call phase | waited call phase | shut call phase
  | joined call phase | reset call phase =>
      rcases (hasCall_moveCall phase StopPhase.ended nofun).1 ended with now | before
      · cases now
      · exact Or.inl before
  | released call phase =>
      exact Or.inr (Or.inl (hasCall_iff.2 ⟨call, .releasing, phase, rfl⟩))

theorem isShutdown_kept {manager next : TaskLoopManager} {event : ManagerEvent}
    (stepped : StepCase manager event next) (flag : manager.executor.isShutdown = true) :
    next.executor.isShutdown = true := by
  cases stepped with
  | worked event executor own worked =>
      exact (DaemonThreadPoolExecutor.isShutdown_of_own own worked).trans flag
  | shut => rfl
  | _ => exact flag

end TaskLoopManager

namespace LoopManagers

open TaskLoopManager

/-- The managers of which a call of `stop` has returned are not the singleton, and their
executors refuse new tasks. -/
def Retired (state : LoopManagers) : Prop :=
  ∀ (serial : Nat) (manager : TaskLoopManager), state.managers[serial]? = some manager →
    manager.HasCall StopPhase.ended →
      state.current ≠ some serial ∧ manager.executor.isShutdown = true

/-- Some call of `stop` has returned. -/
def SomeEnded (state : LoopManagers) : Prop :=
  ∃ manager ∈ state.managers, manager.HasCall StopPhase.ended

instance (state : LoopManagers) : Decidable state.SomeEnded :=
  inferInstanceAs (Decidable (∃ manager ∈ state.managers, manager.HasCall StopPhase.ended))

/-- The manager that is the singleton. -/
def currentManager (state : LoopManagers) : Option TaskLoopManager :=
  state.current.bind fun serial => state.managers[serial]?

/-- `get_instance` after a return of `stop` gives a manager whose loop is not closed. -/
def HandsOutOpen (state : LoopManagers) : LoopEvent → Prop
  | .getInstance => state.SomeEnded →
      ∃ manager, state.getInstance.2.managers[state.getInstance.1]? = some manager ∧
        manager.loopClosed = false
  | _ => True

/-- No call of `stop` finds the loop of its manager at an end that no other call brought
about, and once a call has returned, nobody asks for the singleton between the end of its
loop and the reset. -/
def Orderly (state : LoopManagers) : LoopEvent → Prop
  | .onManager serial (.testStopped _) =>
      ∀ manager, state.managers[serial]? = some manager → manager.stoppedEvent = true →
        .returned ∈ manager.stopCalls
  | .getInstance => state.SomeEnded →
      ∀ manager, state.currentManager = some manager → manager.spin ≠ .finished
  | _ => True

/-- The managers are consistent, the singleton is one of them, and none that a call of `stop`
has taken out. -/
structure Consistent (state : LoopManagers) : Prop where
  managers : ∀ (serial : Nat) (manager : TaskLoopManager), state.managers[serial]? = some manager →
    manager.Consistent
  known : ∀ serial, state.current = some serial → serial < state.managers.length
  reset : ∀ (serial : Nat) (manager : TaskLoopManager), state.managers[serial]? = some manager →
    manager.HasCall StopPhase.pastReset → state.current ≠ some serial

/-- What an event does. -/
inductive StepCase (state : LoopManagers) : LoopEvent → LoopManagers → Prop where
  | known (serial : Nat) (current : state.current = some serial) :
      StepCase state .getInstance state
  | created (current : state.current = none) :
      StepCase state .getInstance
        { managers := state.managers ++ [.create maxWorkers]
          current := some state.managers.length }
  | onManager (serial : Nat) (manager next : TaskLoopManager) (event : ManagerEvent)
      (found : state.managers[serial]? = some manager)
      (stepped : TaskLoopManager.StepCase manager event next) :
      StepCase state (.onManager serial event)
        { managers := state.managers.set serial next, current := state.currentAfter event }

theorem stepCase_of_step {state next : LoopManagers} {event : LoopEvent}
    (stepped : state.step event = some next) : StepCase state event next := by
  cases event with
  | getInstance =>
      cases stepped
      rw [getInstance]
      cases current : state.current with
      | some serial => exact .known serial current
      | none => exact .created current
  | onManager serial event =>
      rcases Option.bind_eq_some_iff.1 stepped with ⟨manager, found, rest⟩
      rcases Option.bind_eq_some_iff.1 rest with ⟨after, managerStepped, same⟩
      cases same
      exact .onManager serial manager after event found
        (TaskLoopManager.stepCase_of_step managerStepped)

theorem currentAfter_eq_some {state : LoopManagers} {event : ManagerEvent} {serial : Nat}
    (current : state.currentAfter event = some serial) :
    state.current = some serial ∧ ∀ call, event ≠ .resetInstance call := by
  cases event with
  | resetInstance => cases current
  | _ => exact ⟨current, fun _ same => nomatch same⟩

theorem not_hasCall_create (maxWorkers : Nat) (phases : StopPhase → Bool) :
    ¬ (create maxWorkers).HasCall phases := by
  rintro ⟨phase, member, -⟩
  cases member

theorem consistent_step {state next : LoopManagers} {event : LoopEvent}
    (consistent : state.Consistent) (stepped : StepCase state event next) : next.Consistent := by
  cases stepped with
  | known => exact consistent
  | created current =>
      constructor
      case managers =>
        intro serial manager found
        rcases Serials.found_of_add found with ⟨_, old⟩ | ⟨_, new⟩
        · exact consistent.managers serial manager old
        · rw [new]
          exact consistent_create maxWorkers
      case known =>
        intro serial last
        cases last
        rw [List.length_append, List.length_singleton]
        exact Nat.lt_succ_self _
      case reset =>
        intro serial manager found past last
        cases last
        rcases Serials.found_of_add found with ⟨within, _⟩ | ⟨_, new⟩
        · exact Nat.lt_irrefl _ within
        · rw [new] at past
          exact not_hasCall_create _ _ past
  | onManager serial manager after event found managerStepped =>
      constructor
      case managers =>
        intro other there foundThere
        rcases Serials.found_of_update found foundThere with ⟨_, rfl⟩ | ⟨_, old⟩
        · exact TaskLoopManager.consistent_step (consistent.managers serial manager found)
            managerStepped
        · exact consistent.managers other there old
      case known =>
        intro other current
        rw [List.length_set]
        exact consistent.known other (currentAfter_eq_some current).1
      case reset =>
        intro other there foundThere past current
        rcases currentAfter_eq_some current with ⟨before, noReset⟩
        rcases Serials.found_of_update found foundThere with ⟨rfl, rfl⟩ | ⟨_, old⟩
        · rcases hasCall_pastReset_of_step managerStepped past with early | ⟨call, reset⟩
          · exact consistent.reset other manager found early before
          · exact noReset call reset
        · exact consistent.reset other there old past before

/-! ## One event -/

/-- A lock that is free is behind every call that has shut down the executor. -/
theorem returned_of_shutdown {manager : TaskLoopManager} (consistent : manager.Consistent)
    (free : manager.stopLock = none) (flag : manager.executor.isShutdown = true) :
    .returned ∈ manager.stopCalls := by
  rcases hasCall_iff.1 (consistent.shutdown.1 flag) with ⟨call, phase, found, past⟩
  have outside : phase.holdsLock ≠ true := by
    intro holds
    have taken := consistent.lock call phase found holds
    rw [free] at taken
    cases taken
  cases phase with
  | returned => exact List.mem_of_getElem? found
  | entering | skipped | signalling | waiting | shuttingDown => cases past
  | joining | resetting | releasing => exact absurd rfl outside

/-- A step of a manager leaves the managers retired exactly if it is no test of `stop` that
finds the end of a loop which no call brought about. -/
theorem retired_onManager_iff {state : LoopManagers} (consistent : state.Consistent)
    (retired : state.Retired) {serial : Nat} {manager after : TaskLoopManager}
    {event : ManagerEvent} (found : state.managers[serial]? = some manager)
    (stepped : TaskLoopManager.StepCase manager event after) :
    ({ managers := state.managers.set serial after
       current := state.currentAfter event } : LoopManagers).Retired ↔
      ∀ call, event = .testStopped call → manager.stoppedEvent = true →
        .returned ∈ manager.stopCalls := by
  have self : (state.managers.set serial after)[serial]? = some after := by
    rw [Serials.getElem?_update found, if_pos rfl]
  constructor
  · rintro retiredNext call rfl finished
    cases stepped with
    | skipped call phase free event =>
        have ended : (manager.moveCall call .skipped).HasCall StopPhase.ended :=
          (hasCall_moveCall phase StopPhase.ended nofun).2 (Or.inl rfl)
        have flag := (retiredNext serial _ self ended).2
        exact returned_of_shutdown (consistent.managers serial manager found) free flag
    | locked call phase free event =>
        rw [event] at finished
        cases finished
  · intro tests other there foundThere ended
    have current : state.current ≠ some other → state.currentAfter event ≠ some other :=
      fun before now => before (currentAfter_eq_some now).1
    rcases Serials.found_of_update found foundThere with ⟨rfl, rfl⟩ | ⟨_, old⟩
    · have before : state.current ≠ some other ∧ manager.executor.isShutdown = true := by
        rcases hasCall_ended_of_step stepped ended with early | past | ⟨finished, call, test⟩
        · exact retired other manager found early
        · refine ⟨consistent.reset other manager found past, ?_⟩
          rcases past with ⟨phase, member, holds⟩
          apply (consistent.managers other manager found).shutdown.2 ⟨phase, member, ?_⟩
          cases phase <;> first | rfl | cases holds
        · exact retired other manager found ⟨.returned, tests call test finished, rfl⟩
      exact ⟨current before.1, isShutdown_kept stepped before.2⟩
    · have before := retired other there old ended
      exact ⟨current before.1, before.2⟩

theorem orderly_onManager {state : LoopManagers} {serial : Nat} {manager : TaskLoopManager}
    (event : ManagerEvent) (found : state.managers[serial]? = some manager) :
    state.Orderly (.onManager serial event) ↔
      ∀ call, event = .testStopped call → manager.stoppedEvent = true →
        .returned ∈ manager.stopCalls := by
  cases event with
  | testStopped call =>
      constructor
      · intro orderly _ _ finished
        exact orderly manager found finished
      · intro tests other foundOther finished
        cases found.symm.trans foundOther
        exact tests call rfl finished
  | _ => exact ⟨fun _ _ same => (nomatch same), fun _ => trivial⟩

/-- The manager handed out, when there is one, is open while its thread is not at its end. -/
theorem handsOutOpen_iff {state : LoopManagers} (consistent : state.Consistent) {serial : Nat}
    (current : state.current = some serial) :
    state.HandsOutOpen .getInstance ↔ state.Orderly .getInstance := by
  have handedOut : state.getInstance = (serial, state) := by rw [getInstance, current]
  have present : ∃ manager, state.managers[serial]? = some manager :=
    ⟨_, List.getElem?_eq_getElem (consistent.known serial current)⟩
  rcases present with ⟨manager, found⟩
  have closed := (consistent.managers serial manager found).closed
  have chosen : state.currentManager = some manager := by
    rw [currentManager, current]
    exact found
  rw [HandsOutOpen, Orderly, handedOut]
  constructor
  · intro hands ended other chosenOther finished
    cases chosen.symm.trans chosenOther
    rcases hands ended with ⟨handed, foundHanded, isOpen⟩
    cases found.symm.trans foundHanded
    rw [closed.2 finished] at isOpen
    cases isOpen
  · intro orderly ended
    refine ⟨manager, found, ?_⟩
    cases flag : manager.loopClosed with
    | false => rfl
    | true => exact absurd (closed.1 flag) (orderly ended manager chosen)

/-- Making a manager takes nothing back. -/
theorem retired_created {state : LoopManagers} (retired : state.Retired) :
    ({ managers := state.managers ++ [create maxWorkers]
       current := some state.managers.length } : LoopManagers).Retired := by
  intro serial manager found ended
  rcases Serials.found_of_add found with ⟨within, old⟩ | ⟨_, new⟩
  · refine ⟨?_, (retired serial manager old ended).2⟩
    intro last
    cases last
    exact Nat.lt_irrefl _ within
  · rw [new] at ended
    exact absurd ended (not_hasCall_create _ _)

theorem handsOutOpen_of_none {state : LoopManagers} (current : state.current = none) :
    state.HandsOutOpen .getInstance := by
  intro _
  refine ⟨create maxWorkers, ?_, rfl⟩
  rw [getInstance, current]
  exact List.getElem?_concat_length

/-- The managers of calls that have returned stay retired, and the one that is handed out is
open, exactly if the event is orderly. -/
theorem retired_step_iff {state next : LoopManagers} {event : LoopEvent}
    (consistent : state.Consistent) (retired : state.Retired)
    (stepped : StepCase state event next) :
    (next.Retired ∧ state.HandsOutOpen event) ↔ state.Orderly event := by
  cases stepped with
  | known serial current =>
      rw [and_iff_right retired]
      exact handsOutOpen_iff consistent current
  | created current =>
      constructor
      · intro _ _ manager chosen
        rw [currentManager, current] at chosen
        cases chosen
      · intro _
        exact ⟨retired_created retired, handsOutOpen_of_none current⟩
  | onManager serial manager after event found managerStepped =>
      rw [orderly_onManager event found, ← retired_onManager_iff consistent retired found
        managerStepped]
      exact and_iff_left trivial

/-! ## Runs -/

theorem consistent_of_reachable {state : LoopManagers} (reachable : machine.Reachable state) :
    state.Consistent := by
  apply Machine.Reachable.invariant _ _ reachable
  · exact ⟨fun _ _ found => (nomatch found), fun _ current => (nomatch current),
      fun _ _ found => (nomatch found)⟩
  · intro state event next _ consistent stepped
    exact consistent_step consistent (stepCase_of_step stepped)

/-- The managers of returned calls stay retired along a run and a live one is handed out, if
and only if all its events are orderly. -/
theorem retired_iff {trace : List LoopEvent} {state : LoopManagers}
    (run : machine.exec trace = some state) :
    (machine.StatesAlong Retired trace ∧ machine.StepsAlong HandsOutOpen trace) ↔
      machine.StepsAlong Orderly trace := by
  apply Machine.statesAlong_and_stepsAlong_iff _ _ run
  · intro serial manager found
    cases found
  · intro state event next reachable retired stepped
    exact retired_step_iff (consistent_of_reachable reachable) retired (stepCase_of_step stepped)

/-! ## A loop that ends on its own -/

/-- A manager is stopped while its loop runs, and the next one is asked for. -/
def restartRun : List LoopEvent :=
  .getInstance :: ([.enterForever, .callStop, .testStopped 0, .signalStop 0, .loopStops,
    .finallyBlock, .waitReturns 0, .shutdownExecutor 0, .joinReturns 0, .resetInstance 0,
    .releaseLock 0].map (LoopEvent.onManager 0)) ++ [.getInstance]

instance (state : LoopManagers) : DecidablePred state.Orderly
  | .onManager serial (.testStopped _) =>
      inferInstanceAs (Decidable (∀ manager, state.managers[serial]? = some manager →
        manager.stoppedEvent = true → .returned ∈ manager.stopCalls))
  | .getInstance =>
      inferInstanceAs (Decidable (state.SomeEnded →
        ∀ manager, state.currentManager = some manager → manager.spin ≠ .finished))
  | .onManager _ .enterForever | .onManager _ .loopStops | .onManager _ .loopDies
  | .onManager _ .finallyBlock | .onManager _ .callStop | .onManager _ (.signalStop _)
  | .onManager _ (.waitReturns _) | .onManager _ (.shutdownExecutor _)
  | .onManager _ (.joinReturns _) | .onManager _ (.resetInstance _)
  | .onManager _ (.releaseLock _) | .onManager _ (.executor _) => isTrue trivial

theorem retired_along_restartRun :
    machine.StatesAlong Retired restartRun ∧ machine.StepsAlong HandsOutOpen restartRun := by
  have ran : (machine.exec restartRun).isSome = true := by decide +kernel
  rcases Option.isSome_iff_exists.1 ran with ⟨state, run⟩
  apply (retired_iff run).2
  apply Machine.stepsAlong_of_stepsFrom
  decide +kernel

/-- A task raises `SystemExit`, and then the manager is stopped. -/
def deadRun : List LoopEvent :=
  .getInstance :: [.enterForever, .loopDies, .finallyBlock, .callStop, .testStopped 0].map
    (LoopEvent.onManager 0)

/-- The second manager is asked for while its stop is behind the end of its loop. -/
def closingRun : List LoopEvent :=
  restartRun ++ [.enterForever, .callStop, .testStopped 0, .signalStop 0, .loopStops,
    .finallyBlock].map (LoopEvent.onManager 1)

/-- The dead manager stays the singleton and its executor takes tasks; a closed loop is
handed out, also where no loop ended on its own. -/
theorem retired_fails_along_deadRun :
    ¬ machine.StatesAlong Retired deadRun ∧
      ¬ machine.StepsAlong HandsOutOpen (deadRun ++ [.getInstance]) ∧
      ¬ machine.StepsAlong HandsOutOpen (closingRun ++ [.getInstance]) := by
  refine ⟨?_, ?_, ?_⟩
  · intro states
    have retired := states deadRun _ List.prefix_rfl rfl
    exact (retired 0 _ rfl (by decide +kernel)).1 rfl
  · intro steps
    rcases steps deadRun .getInstance _ List.prefix_rfl rfl (by decide +kernel) with
      ⟨manager, found, isOpen⟩
    cases found
    cases isOpen
  · intro steps
    rcases steps closingRun .getInstance _ List.prefix_rfl rfl (by decide +kernel) with
      ⟨manager, found, isOpen⟩
    cases found
    cases isOpen

end LoopManagers

end Pyzlc
