import Pyzlc.Nodes.ExecutorLedger

/-!
# Tasks accepted before a shutdown

A worker leaves on two facts read at different moments: its `get` found the queue
empty, then the flag was set.  An item accepted in between by a full pool is not served
by that worker, so a shutdown loses it exactly when no other worker is left that will
return to the queue without passing the test first.  The join of the queue waits for the
items of cancelled futures as well, which a worker has to take off and mark done.
-/

namespace Pyzlc

open Foundation

/-- The worker can still run tasks: it has not left the loop. -/
def WorkerPhase.Live : WorkerPhase → Prop
  | .polling | .timedOut | .holding _ | .executing _ => True
  | .leaving | .exited | .died => False

/-- The worker asks the queue again before it tests the flag. -/
def WorkerPhase.Serving : WorkerPhase → Prop
  | .polling | .holding _ | .executing _ => True
  | .timedOut | .leaving | .exited | .died => False

theorem WorkerPhase.Serving.live {phase : WorkerPhase} (serving : phase.Serving) : phase.Live := by
  cases phase with
  | polling | holding | executing => trivial
  | timedOut | leaving | exited | died => cases serving

namespace DaemonThreadPoolExecutor

variable {executor next : DaemonThreadPoolExecutor} {event : ExecutorEvent} {worker : WorkerId}
  {task : TaskId} {phase old : WorkerPhase}

/-- A task is on the queue and its future not cancelled. -/
def Waiting (executor : DaemonThreadPoolExecutor) (task : TaskId) : Prop :=
  task ∈ executor.workQueue ∧ executor.futures[task]? = some .pending

/-- Some worker asks the queue again before it tests the flag. -/
def Served (executor : DaemonThreadPoolExecutor) : Prop :=
  ∃ (worker : WorkerId) (phase : WorkerPhase),
    executor.workers[worker]? = some phase ∧ phase.Serving

/-- No worker is left. -/
def Deserted (executor : DaemonThreadPoolExecutor) : Prop :=
  ∀ (worker : WorkerId) (phase : WorkerPhase),
    executor.workers[worker]? = some phase → ¬ phase.Live

/-- The executor is shut down, a task waits, and no worker is left to run it. -/
def Lost (executor : DaemonThreadPoolExecutor) : Prop :=
  executor.isShutdown = true ∧ (∃ task, executor.Waiting task) ∧ executor.Deserted

/-- The executor is shut down, the join of its queue waits, and no worker is left. -/
def JoinStuck (executor : DaemonThreadPoolExecutor) : Prop :=
  executor.isShutdown = true ∧ executor.unfinishedTasks ≠ 0 ∧ executor.Deserted

/-- If items are queued, some worker asks the queue again before it tests the flag. -/
def QueueServed (executor : DaemonThreadPoolExecutor) : Prop :=
  executor.workQueue ≠ [] → executor.Served

theorem Served.not_deserted (served : executor.Served) : ¬ executor.Deserted := by
  intro deserted
  rcases served with ⟨worker, phase, found, serving⟩
  exact deserted worker phase found serving.live

theorem Waiting.queued (waiting : executor.Waiting task) : executor.workQueue ≠ [] :=
  List.ne_nil_of_mem waiting.1

theorem QueueServed.not_lost (holds : executor.QueueServed) : ¬ executor.Lost := by
  intro lost
  rcases lost.2.1 with ⟨task, waiting⟩
  exact (holds waiting.queued).not_deserted lost.2.2

theorem counted_of_reachable {maxWorkers : Nat}
    (reachable : (machine maxWorkers).Reachable executor) : executor.Counted := by
  apply reachable.invariant
  · rfl
  · intro executor event next reached counted stepped
    have movement : Movement executor next .empty _ :=
      movement_of_step (tidy_of_reachable reached) (stepCase_of_step stepped)
    exact counted.step movement

/-- What no worker has taken is on the queue. -/
theorem inProgress_of_deserted (deserted : executor.Deserted) : executor.inProgress = [] := by
  apply List.eq_nil_iff_forall_not_mem.2
  intro task busy
  rcases mem_inProgress.1 busy with ⟨worker, phase, found, taken⟩
  apply deserted worker phase found
  cases phase with
  | holding | executing => trivial
  | polling | timedOut | leaving | exited | died => cases taken

theorem QueueServed.not_joinStuck (counted : executor.Counted) (holds : executor.QueueServed) :
    ¬ executor.JoinStuck := by
  intro stuck
  have nonempty : executor.workQueue ≠ [] := by
    intro empty
    apply stuck.2.1
    rw [show executor.unfinishedTasks = _ from counted, empty,
      inProgress_of_deserted stuck.2.2]
    rfl
  exact (holds nonempty).not_deserted stuck.2.2

/-! ## A join that waits without workers -/

theorem deserted_moveTo (deserted : executor.Deserted)
    (at_old : executor.workers[worker]? = some old) (gone : ¬ phase.Live) :
    (executor.moveTo worker phase).Deserted := by
  intro other otherPhase found
  rw [workers_moveTo at_old] at found
  split at found
  next =>
    cases found
    exact gone
  next => exact deserted other otherPhase found

/-- Nothing that happens later ends it. -/
theorem JoinStuck.step (stuck : executor.JoinStuck) (stepped : StepCase executor event next) :
    next.JoinStuck := by
  rcases stuck with ⟨closed, counter, deserted⟩
  cases stepped with
  | refused | notCancelled | joined => exact ⟨closed, counter, deserted⟩
  | shutdown => exact ⟨rfl, counter, deserted⟩
  | accepted isOpen | spawned isOpen => cases closed.symm.trans isOpen
  | took worker task rest found => exact (deserted worker _ found trivial).elim
  | foundEmpty worker found | stayed worker found | broke worker found =>
      exact (deserted worker _ found trivial).elim
  | claimed worker task found | skipped worker task found | choked worker task found =>
      exact (deserted worker _ found trivial).elim
  | finished worker task outcome found => exact (deserted worker _ found trivial).elim
  | died worker task error found => exact (deserted worker _ found trivial).elim
  | left worker found =>
      have unlisted : Deserted { executor with threads := executor.threads.erase worker } :=
        deserted
      exact ⟨closed, counter, deserted_moveTo unlisted found id⟩
  | cancelled => exact ⟨closed, counter, deserted⟩

/-- A join that waits without workers never returns. -/
theorem JoinStuck.not_joined {maxWorkers : Nat} (stuck : executor.JoinStuck) :
    ∀ later, (machine maxWorkers).execFrom executor (later ++ [.joinReturns]) = none := by
  intro later
  induction later generalizing executor with
  | nil =>
      have blocked : executor.step .joinReturns = none := by
        simp only [DaemonThreadPoolExecutor.step, stuck.2.1, and_false, if_false]
      rw [List.nil_append, Machine.execFrom,
        show (machine maxWorkers).step executor .joinReturns = none from blocked]
      rfl
  | cons event later ih =>
      rw [List.cons_append, Machine.execFrom]
      cases stepped : (machine maxWorkers).step executor event with
      | none => rfl
      | some next => exact ih (stuck.step (stepCase_of_step stepped))

/-! ## Safe shutdowns -/

/-- A worker that moves on to a serving phase serves. -/
theorem served_moveTo (at_old : executor.workers[worker]? = some old) (serving : phase.Serving) :
    (executor.moveTo worker phase).Served := by
  refine ⟨worker, phase, ?_, serving⟩
  rw [workers_moveTo at_old, if_pos rfl]

/-- A worker that did not serve can move anywhere. -/
theorem Served.moveTo (served : executor.Served) (at_old : executor.workers[worker]? = some old)
    (idle : ¬ old.Serving) : (executor.moveTo worker phase).Served := by
  rcases served with ⟨server, serverPhase, found, serving⟩
  refine ⟨server, serverPhase, ?_, serving⟩
  rw [workers_moveTo at_old, if_neg]
  · exact found
  · intro same
    rw [same, at_old] at found
    cases found
    exact idle serving

/-- After a shutdown, no step that is not a death takes the last server off queued items. -/
theorem QueueServed.step (tidy : executor.Tidy) (closed : executor.isShutdown = true)
    (holds : executor.QueueServed)
    (survives : ∀ worker error, event = .finish worker (.raised error) → error.isException = true)
    (stepped : StepCase executor event next) : next.QueueServed := by
  intro queued
  cases stepped with
  | refused => exact holds queued
  | accepted isOpen => cases closed.symm.trans isOpen
  | spawned isOpen => cases closed.symm.trans isOpen
  | took worker taken rest found => exact served_moveTo found trivial
  | foundEmpty worker found empty => exact absurd empty queued
  | stayed worker found => exact served_moveTo found trivial
  | broke worker found => exact (holds queued).moveTo found id
  | claimed worker taken found => exact served_moveTo found trivial
  | skipped worker taken found => exact served_moveTo found trivial
  | choked worker taken found notPending notCancelled =>
      exact (tidy.not_choked found notPending notCancelled).elim
  | finished worker taken outcome found => exact served_moveTo found trivial
  | died worker taken error found uncaught =>
      cases uncaught.symm.trans (survives worker error rfl)
  | left worker found => exact (holds queued).moveTo found id
  | cancelled => exact holds queued
  | notCancelled => exact holds queued
  | shutdown => exact holds queued
  | joined => exact holds queued

theorem isShutdown_of_step (stepped : StepCase executor event next)
    (closed : next.isShutdown = true) : executor.isShutdown = true ∨ event = .shutdown := by
  cases stepped with
  | shutdown => exact Or.inr rfl
  | refused | accepted | spawned | took | foundEmpty | stayed | broke | claimed | skipped | choked
  | finished | died | left | cancelled | notCancelled | joined => exact Or.inl closed

/-- The tasks of a run return or raise an `Exception`. -/
def Ordinary (trace : List ExecutorEvent) : Prop :=
  ∀ worker error, .finish worker (.raised error) ∈ trace → error.isException = true

/-- Every shutdown of the run finds the queue served. -/
def SafeShutdowns (maxWorkers : Nat) (trace : List ExecutorEvent) : Prop :=
  (machine maxWorkers).StepsAlong
    (fun executor event => event = .shutdown → executor.QueueServed) trace

theorem queueServed_of_safeShutdowns {maxWorkers : Nat} {trace : List ExecutorEvent}
    (ordinary : Ordinary trace) (safe : SafeShutdowns maxWorkers trace) :
    (machine maxWorkers).StatesAlong
      (fun executor => executor.isShutdown = true → executor.QueueServed) trace := by
  have steps : (machine maxWorkers).StepsAlong (fun executor event =>
      (event = .shutdown → executor.QueueServed) ∧
        ∀ worker error, event = .finish worker (.raised error) → error.isException = true)
      trace := by
    intro initial event executor within reached
    constructor
    · exact safe initial event executor within reached
    · intro worker error same
      apply ordinary worker error
      apply within.subset
      exact List.mem_append_right _ (List.mem_singleton.2 same.symm)
  apply Machine.statesAlong_of_stepsAlong
    (fun executor => executor.isShutdown = true → executor.QueueServed) _ _ steps
  · intro closed
    cases closed
  · intro executor event next reachable holds met stepped closed
    have stepCase := stepCase_of_step stepped
    rcases isShutdown_of_step stepCase closed with already | now
    · exact (holds already).step (tidy_of_reachable reachable) already met.2 stepCase
    · cases now
      cases stepped
      exact met.1 rfl

/-! ## Unsafe shutdowns -/

theorem not_served_moveTo (unserved : ¬ executor.Served)
    (at_old : executor.workers[worker]? = some old) (idle : ¬ phase.Serving) :
    ¬ (executor.moveTo worker phase).Served := by
  intro served
  rcases served with ⟨server, serverPhase, found, serving⟩
  rw [workers_moveTo at_old] at found
  split at found
  next =>
    cases found
    exact idle serving
  next => exact unserved ⟨server, serverPhase, found, serving⟩

/-- A closed executor whose queue is not served runs into a state that joins for ever, and has
lost the tasks that wait: each worker that timed out only has its test left to make. -/
theorem stuck_of_unserved (maxWorkers remaining : Nat) :
    ∀ executor : DaemonThreadPoolExecutor, executor.workers.count .timedOut = remaining →
      executor.isShutdown = true → executor.unfinishedTasks ≠ 0 → ¬ executor.Served →
      ∃ later stuck, Ordinary later ∧ (machine maxWorkers).execFrom executor later = some stuck ∧
        stuck.JoinStuck ∧ ∀ task, executor.Waiting task → stuck.Lost := by
  induction remaining with
  | zero =>
      intro executor none closed unfinished unserved
      have deserted : executor.Deserted := by
        intro worker phase found live
        cases phase with
        | timedOut =>
            have member := List.mem_of_getElem? found
            exact List.count_eq_zero.1 none member
        | polling => exact unserved ⟨worker, _, found, trivial⟩
        | holding => exact unserved ⟨worker, _, found, trivial⟩
        | executing => exact unserved ⟨worker, _, found, trivial⟩
        | leaving | exited | died => cases live
      refine ⟨[], executor, ?_, rfl, ⟨closed, unfinished, deserted⟩, ?_⟩
      · intro worker error member
        cases member
      · intro task waiting
        exact ⟨closed, ⟨task, waiting⟩, deserted⟩
  | succ remaining ih =>
      intro executor some closed unfinished unserved
      have member : WorkerPhase.timedOut ∈ executor.workers := by
        apply List.count_pos_iff.1
        rw [some]
        exact Nat.succ_pos remaining
      rcases List.getElem_of_mem member with ⟨worker, within, phase⟩
      have found : executor.workers[worker]? = Option.some .timedOut := by
        rw [List.getElem?_eq_getElem within, phase]
      have stepped : executor.step (.testShutdown worker) =
          Option.some (executor.moveTo worker .leaving) := by
        simp only [step, found, closed, if_true]
      have fewer : (executor.moveTo worker .leaving).workers.count .timedOut = remaining := by
        rw [moveTo, List.count_set within, phase, some]
        rfl
      rcases ih (executor.moveTo worker .leaving) fewer closed unfinished
        (not_served_moveTo unserved found id) with ⟨later, stuck, ordinary, run, joins, loses⟩
      refine ⟨.testShutdown worker :: later, stuck, ?_, ?_, joins, loses⟩
      · intro other error memberLater
        cases memberLater with
        | tail _ inLater => exact ordinary other error inLater
      · simp only [Machine.execFrom]
        rw [show (machine maxWorkers).step executor (.testShutdown worker) =
          Option.some (executor.moveTo worker .leaving) from stepped]
        exact run

/-- Runs of ordinary tasks whose shutdowns are all safe lose no task and never join a queue
without workers, and any shutdown that is not safe can be continued until the join waits for
ever, with every task that waited lost. -/
theorem tasks_survive_safe_shutdowns (maxWorkers : Nat) (trace : List ExecutorEvent) :
    (Ordinary trace → SafeShutdowns maxWorkers trace →
      (machine maxWorkers).StatesAlong (fun executor => ¬ executor.Lost ∧ ¬ executor.JoinStuck)
        trace) ∧
    ∀ executor, (machine maxWorkers).exec trace = some executor → ¬ executor.QueueServed →
      ∃ later stuck, Ordinary later ∧
        (machine maxWorkers).exec (trace ++ .shutdown :: later) = some stuck ∧
        stuck.JoinStuck ∧ ∀ task, executor.Waiting task → stuck.Lost := by
  constructor
  · intro ordinary safe initial executor within reached
    have served := queueServed_of_safeShutdowns ordinary safe initial executor within reached
    constructor
    · intro lost
      exact (served lost.1).not_lost lost
    · intro stuck
      exact (served stuck.1).not_joinStuck (counted_of_reachable ⟨initial, reached⟩) stuck
  · intro executor run unsafeNow
    rcases Classical.not_imp.1 unsafeNow with ⟨queued, unserved⟩
    have unfinished : executor.unfinishedTasks ≠ 0 := by
      have counted : executor.unfinishedTasks = _ := counted_of_reachable ⟨trace, run⟩
      have positive := List.length_pos_of_ne_nil queued
      omega
    rcases stuck_of_unserved maxWorkers _ { executor with isShutdown := true } rfl
      rfl unfinished unserved with ⟨later, stuck, ordinary, continued, joins, loses⟩
    refine ⟨later, stuck, ordinary, ?_, joins, loses⟩
    rw [Machine.exec, Machine.execFrom_append, show (machine maxWorkers).execFrom
      (machine maxWorkers).start trace = some executor from run]
    exact continued

/-- A task is accepted and another one is cancelled, the executor is shut down, and the worker
leaves when it has run the one and marked the other. -/
def servedRun : List ExecutorEvent :=
  [.submit, .submit, .cancel 1, .shutdown, .get 0, .claim 0, .finish 0 .returned, .get 0,
    .claim 0, .joinReturns, .getTimesOut 0, .testShutdown 0]

theorem servedRun_safe : SafeShutdowns 1 servedRun := by
  apply Machine.stepsAlong_of_stepsFrom
  refine ⟨nofun, fun accepted stepped => ?_⟩
  cases stepped
  refine ⟨nofun, fun accepted stepped => ?_⟩
  cases stepped
  refine ⟨nofun, fun cancelled stepped => ?_⟩
  cases stepped
  refine ⟨fun _ _ => ⟨0, .polling, rfl, trivial⟩, fun closed stepped => ?_⟩
  exact ⟨nofun, fun _ _ => ⟨nofun, fun _ _ => ⟨nofun, fun _ _ => ⟨nofun, fun _ _ => ⟨nofun,
    fun _ _ => ⟨nofun, fun _ _ => ⟨nofun, fun _ _ => ⟨nofun, fun _ _ => trivial⟩⟩⟩⟩⟩⟩⟩⟩

theorem tasks_survive_servedRun :
    ((machine 1).exec servedRun).isSome = true ∧
      (machine 1).StatesAlong (fun executor => ¬ executor.Lost ∧ ¬ executor.JoinStuck)
        servedRun := by
  refine ⟨by decide +kernel, ?_⟩
  apply (tasks_survive_safe_shutdowns 1 servedRun).1 _ servedRun_safe
  intro worker error member
  simp [servedRun] at member

/-- The only worker has timed out when the second task is accepted and the executor is
shut down. -/
def lostRun : List ExecutorEvent :=
  [.submit, .get 0, .claim 0, .finish 0 .returned, .getTimesOut 0, .submit, .shutdown,
    .testShutdown 0]

theorem task_lost_along_lostRun :
    ∃ executor, (machine 1).exec lostRun = some executor ∧ executor.Lost ∧
      executor.JoinStuck := by
  have deserted : ∀ executor : DaemonThreadPoolExecutor, executor.workers = [.leaving] →
      executor.Deserted := by
    intro executor workers worker phase found live
    rw [workers] at found
    match worker with
    | 0 =>
        cases found
        exact live
    | _ + 1 => cases found
  refine ⟨_, rfl, ⟨rfl, ⟨1, ?_, rfl⟩, deserted _ rfl⟩, rfl, ?_, deserted _ rfl⟩
  · decide
  · decide

end DaemonThreadPoolExecutor

end Pyzlc
