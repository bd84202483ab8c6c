import Pyzlc.Foundation.Machine
import Pyzlc.Foundation.Serials
import Pyzlc.Utils.Exception

/-!
# The daemon thread pool

`DaemonThreadPoolExecutor` by the atomic steps of its threads: a submission under the
lock, each operation of a worker on the queue, its test of the shutdown flag, the
claim of a future, the end of a task.  Tasks and workers are numbered in the order in
which they are accepted and spawned.
-/

namespace Pyzlc

open Foundation

abbrev TaskId := Nat

abbrev WorkerId := Nat

/-- How the function of a task ends. -/
inductive TaskOutcome where
  | returned
  | raised (error : PyError)
  deriving DecidableEq

/-- The states of a `concurrent.futures.Future`. -/
inductive FutureState where
  | pending
  | running
  | cancelled
  | cancelledAndNotified
  | finished (outcome : TaskOutcome)
  deriving DecidableEq

/-- Where a worker stands in `_worker`. -/
inductive WorkerPhase where
  /-- In `get`. -/
  | polling
  /-- `get` has raised `Empty`, the flag is not read yet. -/
  | timedOut
  /-- An item is taken, its future is not claimed yet. -/
  | holding (task : TaskId)
  /-- In the function of a task. -/
  | executing (task : TaskId)
  /-- Out of the loop, still registered. -/
  | leaving
  | exited
  /-- Ended by an exception that left the loop. -/
  | died
  deriving DecidableEq

/-- The task a worker has taken and not marked done. -/
def WorkerPhase.task? : WorkerPhase → Option TaskId
  | .holding task | .executing task => some task
  | _ => none

structure DaemonThreadPoolExecutor where
  maxWorkers : Nat
  workQueue : List TaskId
  unfinishedTasks : Nat
  futures : List FutureState
  workers : List WorkerPhase
  threads : List WorkerId
  isShutdown : Bool
  deriving DecidableEq

inductive ExecutorEvent where
  | submit
  | get (worker : WorkerId)
  | getTimesOut (worker : WorkerId)
  | testShutdown (worker : WorkerId)
  | claim (worker : WorkerId)
  | finish (worker : WorkerId) (outcome : TaskOutcome)
  | leave (worker : WorkerId)
  | cancel (task : TaskId)
  | shutdown
  | joinReturns
  deriving DecidableEq

namespace DaemonThreadPoolExecutor

def init (maxWorkers : Nat) : DaemonThreadPoolExecutor where
  maxWorkers := maxWorkers
  workQueue := []
  unfinishedTasks := 0
  futures := []
  workers := []
  threads := []
  isShutdown := false

/-- A worker goes on to another phase. -/
def moveTo (worker : WorkerId) (phase : WorkerPhase) (executor : DaemonThreadPoolExecutor) :
    DaemonThreadPoolExecutor :=
  { executor with workers := executor.workers.set worker phase }

def setFuture (task : TaskId) (future : FutureState) (executor : DaemonThreadPoolExecutor) :
    DaemonThreadPoolExecutor :=
  { executor with futures := executor.futures.set task future }

/-- `Queue.task_done`. -/
def taskDone (executor : DaemonThreadPoolExecutor) : DaemonThreadPoolExecutor :=
  { executor with unfinishedTasks := executor.unfinishedTasks - 1 }

/-- `_spawn_worker`. -/
def spawnWorker (executor : DaemonThreadPoolExecutor) : DaemonThreadPoolExecutor :=
  { executor with
    workers := executor.workers ++ [.polling]
    threads := executor.threads ++ [executor.workers.length] }

/-- A new future is put on the queue. -/
def enqueue (executor : DaemonThreadPoolExecutor) : DaemonThreadPoolExecutor :=
  { executor with
    futures := executor.futures ++ [.pending]
    workQueue := executor.workQueue ++ [executor.futures.length]
    unfinishedTasks := executor.unfinishedTasks + 1 }

/-- `submit`: refused after shutdown, which changes nothing. -/
def submit (executor : DaemonThreadPoolExecutor) : DaemonThreadPoolExecutor :=
  if executor.isShutdown then executor
  else if executor.enqueue.threads.length < executor.maxWorkers then executor.enqueue.spawnWorker
  else executor.enqueue

/-- `future.set_running_or_notify_cancel()` and what depends on it. -/
def claim (worker : WorkerId) (task : TaskId) (executor : DaemonThreadPoolExecutor) :
    DaemonThreadPoolExecutor :=
  match executor.futures[task]? with
  | some .pending => (executor.setFuture task .running).moveTo worker (.executing task)
  | some .cancelled =>
      ((executor.setFuture task .cancelledAndNotified).taskDone).moveTo worker .polling
  | _ => executor.moveTo worker .died

/-- The end of a task: `except Exception` sets the outcome, anything else passes. -/
def finish (worker : WorkerId) (task : TaskId) (outcome : TaskOutcome)
    (executor : DaemonThreadPoolExecutor) : DaemonThreadPoolExecutor :=
  match outcome with
  | .returned => ((executor.setFuture task (.finished outcome)).taskDone).moveTo worker .polling
  | .raised error =>
      if error.isException then
        ((executor.setFuture task (.finished outcome)).taskDone).moveTo worker .polling
      else executor.taskDone.moveTo worker .died

/-- `Future.cancel`. -/
def cancel (task : TaskId) (executor : DaemonThreadPoolExecutor) : DaemonThreadPoolExecutor :=
  match executor.futures[task]? with
  | some .pending => executor.setFuture task .cancelled
  | _ => executor

def step (executor : DaemonThreadPoolExecutor) : ExecutorEvent → Option DaemonThreadPoolExecutor
  | .submit => some executor.submit
  | .get worker =>
      match executor.workers[worker]?, executor.workQueue with
      | some .polling, task :: rest =>
          some ({ executor with workQueue := rest }.moveTo worker (.holding task))
      | _, _ => none
  | .getTimesOut worker =>
      match executor.workers[worker]?, executor.workQueue with
      | some .polling, [] => some (executor.moveTo worker .timedOut)
      | _, _ => none
  | .testShutdown worker =>
      match executor.workers[worker]? with
      | some .timedOut =>
          some (executor.moveTo worker (if executor.isShutdown then .leaving else .polling))
      | _ => none
  | .claim worker =>
      match executor.workers[worker]? with
      | some (.holding task) => some (executor.claim worker task)
      | _ => none
  | .finish worker outcome =>
      match executor.workers[worker]? with
      | some (.executing task) => some (executor.finish worker task outcome)
      | _ => none
  | .leave worker =>
      match executor.workers[worker]? with
      | some .leaving =>
          some ({ executor with threads := executor.threads.erase worker }.moveTo worker .exited)
      | _ => none
  | .cancel task => some (executor.cancel task)
  | .shutdown => some { executor with isShutdown := true }
  | .joinReturns =>
      if executor.isShutdown = true ∧ executor.unfinishedTasks = 0 then some executor else none

/-- The runs of an executor. -/
def machine (maxWorkers : Nat) : Machine DaemonThreadPoolExecutor ExecutorEvent where
  start := init maxWorkers
  step := step

/-! ## What a step can do -/

/-- Every way a step can go, with the phase its worker was in. -/
inductive StepCase (executor : DaemonThreadPoolExecutor) :
    ExecutorEvent → DaemonThreadPoolExecutor → Prop where
  | refused (closed : executor.isShutdown = true) : StepCase executor .submit executor
  | accepted (isOpen : executor.isShutdown = false)
      (full : ¬ executor.threads.length < executor.maxWorkers) :
      StepCase executor .submit executor.enqueue
  | spawned (isOpen : executor.isShutdown = false)
      (room : executor.threads.length < executor.maxWorkers) :
      StepCase executor .submit executor.enqueue.spawnWorker
  | took (worker : WorkerId) (task : TaskId) (rest : List TaskId)
      (phase : executor.workers[worker]? = some .polling)
      (queued : executor.workQueue = task :: rest) :
      StepCase executor (.get worker)
        ({ executor with workQueue := rest }.moveTo worker (.holding task))
  | foundEmpty (worker : WorkerId) (phase : executor.workers[worker]? = some .polling)
      (empty : executor.workQueue = []) :
      StepCase executor (.getTimesOut worker) (executor.moveTo worker .timedOut)
  | stayed (worker : WorkerId) (phase : executor.workers[worker]? = some .timedOut)
      (isOpen : executor.isShutdown = false) :
      StepCase executor (.testShutdown worker) (executor.moveTo worker .polling)
  | broke (worker : WorkerId) (phase : executor.workers[worker]? = some .timedOut)
      (closed : executor.isShutdown = true) :
      StepCase executor (.testShutdown worker) (executor.moveTo worker .leaving)
  | claimed (worker : WorkerId) (task : TaskId)
      (phase : executor.workers[worker]? = some (.holding task))
      (future : executor.futures[task]? = some .pending) :
      StepCase executor (.claim worker)
        ((executor.setFuture task .running).moveTo worker (.executing task))
  | skipped (worker : WorkerId) (task : TaskId)
      (phase : executor.workers[worker]? = some (.holding task))
      (future : executor.futures[task]? = some .cancelled) :
      StepCase executor (.claim worker)
        (((executor.setFuture task .cancelledAndNotified).taskDone).moveTo worker .polling)
  | choked (worker : WorkerId) (task : TaskId)
      (phase : executor.workers[worker]? = some (.holding task))
      (notPending : executor.futures[task]? ≠ some .pending)
      (notCancelled : executor.futures[task]? ≠ some .cancelled) :
      StepCase executor (.claim worker) (executor.moveTo worker .died)
  | finished (worker : WorkerId) (task : TaskId) (outcome : TaskOutcome)
      (phase : executor.workers[worker]? = some (.executing task))
      (caught : ∀ error, outcome = .raised error → error.isException = true) :
      StepCase executor (.finish worker outcome)
        (((executor.setFuture task (.finished outcome)).taskDone).moveTo worker .polling)
  | died (worker : WorkerId) (task : TaskId) (error : PyError)
      (phase : executor.workers[worker]? = some (.executing task))
      (uncaught : error.isException = false) :
      StepCase executor (.finish worker (.raised error)) (executor.taskDone.moveTo worker .died)
  | left (worker : WorkerId) (phase : executor.workers[worker]? = some .leaving) :
      StepCase executor (.leave worker)
        ({ executor with threads := executor.threads.erase worker }.moveTo worker .exited)
  | cancelled (task : TaskId) (future : executor.futures[task]? = some .pending) :
      StepCase executor (.cancel task) (executor.setFuture task .cancelled)
  | notCancelled (task : TaskId) (future : executor.futures[task]? ≠ some .pending) :
      StepCase executor (.cancel task) executor
  | shutdown : StepCase executor .shutdown { executor with isShutdown := true }
  | joined (closed : executor.isShutdown = true) (allDone : executor.unfinishedTasks = 0) :
      StepCase executor .joinReturns executor

theorem stepCase_of_step {executor next : DaemonThreadPoolExecutor} {event : ExecutorEvent}
    (stepped : executor.step event = some next) : StepCase executor event next := by
  cases event with
  | submit =>
      cases stepped
      unfold submit
      split
      next closed => exact StepCase.refused closed
      next isOpen =>
        have isOpen : executor.isShutdown = false := Bool.not_eq_true _ ▸ isOpen
        split
        next room => exact StepCase.spawned isOpen room
        next full => exact StepCase.accepted isOpen full
  | get worker =>
      simp only [step] at stepped
      split at stepped
      next task rest phase queued =>
        cases stepped
        exact StepCase.took worker task rest phase queued
      next => cases stepped
  | getTimesOut worker =>
      simp only [step] at stepped
      split at stepped
      next phase empty =>
        cases stepped
        exact StepCase.foundEmpty worker phase empty
      next => cases stepped
  | testShutdown worker =>
      simp only [step] at stepped
      split at stepped
      next phase =>
        cases stepped
        cases flag : executor.isShutdown with
        | true => exact StepCase.broke worker phase flag
        | false => exact StepCase.stayed worker phase flag
      next => cases stepped
  | claim worker =>
      simp only [step] at stepped
      split at stepped
      next task phase =>
        cases stepped
        unfold claim
        split
        next future => exact StepCase.claimed worker task phase future
        next future => exact StepCase.skipped worker task phase future
        next notPending notCancelled =>
          exact StepCase.choked worker task phase notPending notCancelled
      next => cases stepped
  | finish worker outcome =>
      simp only [step] at stepped
      split at stepped
      next task phase =>
        cases stepped
        cases outcome with
        | returned =>
            apply StepCase.finished worker task .returned phase
            intro error same
            cases same
        | raised error =>
            unfold finish
            simp only
            split
            next caught =>
              apply StepCase.finished worker task (.raised error) phase
              intro other same
              cases same
              exact caught
            next uncaught =>
              exact StepCase.died worker task error phase (Bool.not_eq_true _ ▸ uncaught)
      next => cases stepped
  | leave worker =>
      simp only [step] at stepped
      split at stepped
      next phase =>
        cases stepped
        exact StepCase.left worker phase
      next => cases stepped
  | cancel task =>
      cases stepped
      unfold cancel
      split
      next future => exact StepCase.cancelled task future
      next future => exact StepCase.notCancelled task future
  | shutdown =>
      cases stepped
      exact StepCase.shutdown
  | joinReturns =>
      simp only [step] at stepped
      split at stepped
      next holds =>
        cases stepped
        exact StepCase.joined holds.1 holds.2
      next => cases stepped

end DaemonThreadPoolExecutor

end Pyzlc
