import Pyzlc.Foundation.ServerQueue
import Pyzlc.Foundation.Simulation
import Pyzlc.Nodes.ExecutorLedger

/-!
# The pool as a queue with servers

`DaemonThreadPoolExecutor` refines a queue with `max_workers` servers: workers come and go, poll,
time out, claim futures and end by exceptions, and still the tasks are taken in the order in which
they were submitted, and no more of them are in progress than the executor may have workers.
-/

namespace Pyzlc

open Foundation

/-- The worker has not left its thread. -/
def WorkerPhase.present : WorkerPhase → Bool
  | .exited => false
  | .polling | .timedOut | .holding _ | .executing _ | .leaving | .died => true

namespace DaemonThreadPoolExecutor

variable {executor next : DaemonThreadPoolExecutor} {event : ExecutorEvent} {worker : WorkerId}
  {phase old : WorkerPhase} {maxWorkers : Nat}

/-! ## Workers and their threads -/

/-- Every worker that has not left is among the registered threads. -/
def Enrolled (executor : DaemonThreadPoolExecutor) : Prop :=
  executor.workers.countP WorkerPhase.present ≤ executor.threads.length

theorem countP_moveTo (at_old : executor.workers[worker]? = some old)
    (same : phase.present = old.present) :
    (executor.moveTo worker phase).workers.countP WorkerPhase.present =
      executor.workers.countP WorkerPhase.present := by
  rcases workers_split at_old phase with ⟨front, back, before, after⟩
  simp only [before, after, List.countP_append, List.countP_cons, same]

theorem Enrolled.moved (enrolled : executor.Enrolled)
    (at_old : executor.workers[worker]? = some old)
    (workers : next.workers = (executor.moveTo worker phase).workers)
    (threads : next.threads = executor.threads) (same : phase.present = old.present) :
    next.Enrolled := by
  unfold Enrolled
  rw [workers, threads, countP_moveTo at_old same]
  exact enrolled

theorem Enrolled.step (enrolled : executor.Enrolled) (stepped : StepCase executor event next) :
    next.Enrolled := by
  cases stepped with
  | spawned isOpen room =>
      show (executor.workers ++ [WorkerPhase.polling]).countP WorkerPhase.present ≤
        (executor.threads ++ [executor.workers.length]).length
      rw [List.countP_append, List.length_append]
      exact Nat.add_le_add_right enrolled 1
  | left worker phase =>
      rcases workers_split phase .exited with ⟨front, back, before, after⟩
      have fewer : executor.threads.length - 1 ≤ (executor.threads.erase worker).length :=
        List.le_length_erase
      have there : executor.workers.countP WorkerPhase.present ≤ executor.threads.length := enrolled
      rw [before] at there
      show (executor.moveTo worker .exited).workers.countP WorkerPhase.present ≤
        (executor.threads.erase worker).length
      rw [after]
      simp only [List.countP_append, List.countP_cons, WorkerPhase.present] at there ⊢
      simp only [if_true, Bool.false_eq_true, if_false] at there ⊢
      omega
  | took worker task rest phase queued =>
      exact enrolled.moved phase rfl rfl rfl
  | foundEmpty worker phase | stayed worker phase | broke worker phase =>
      exact enrolled.moved phase rfl rfl rfl
  | claimed worker task phase | skipped worker task phase | choked worker task phase
  | finished worker task outcome phase | died worker task error phase =>
      exact enrolled.moved phase rfl rfl rfl
  | refused | accepted | cancelled | notCancelled | shutdown | joined => exact enrolled

theorem enrolled_of_reachable (reachable : (machine maxWorkers).Reachable executor) :
    executor.Enrolled ∧ Crewed maxWorkers executor := by
  apply reachable.invariant
  · exact ⟨Nat.le_refl 0, rfl, Nat.zero_le maxWorkers⟩
  · intro before event after _ kept stepped
    have stepCase := stepCase_of_step stepped
    exact ⟨kept.1.step stepCase, kept.2.step stepCase⟩

/-- Only so many tasks are in progress as there may be workers. -/
theorem length_inProgress_le (reachable : (machine maxWorkers).Reachable executor) :
    executor.inProgress.length ≤ maxWorkers := by
  rcases enrolled_of_reachable reachable with ⟨enrolled, crewed⟩
  have busy : executor.inProgress.length ≤ executor.workers.countP WorkerPhase.present := by
    rw [inProgress, List.length_filterMap_eq_countP]
    apply List.countP_mono_left
    intro phase _ taken
    cases phase with
    | exited => cases taken
    | polling | timedOut | holding | executing | leaving | died => rfl
  exact busy.trans (enrolled.trans crewed.2)

/-! ## The queue behind it -/

/-- What a step is to the queue. -/
def serverActions (executor : DaemonThreadPoolExecutor) : ExecutorEvent → List ServerAction
  | .submit => if executor.isShutdown then [] else [.accept]
  | .get _ => [.start]
  | .claim worker =>
      match executor.workers[worker]? with
      | some (.holding task) =>
          if executor.futures[task]? = some .cancelled then [.finish task] else []
      | _ => []
  | .finish worker _ =>
      match executor.workers[worker]? with
      | some (.executing task) => [.finish task]
      | _ => []
  | .getTimesOut _ | .testShutdown _ | .leave _ | .cancel _ | .shutdown | .joinReturns => []

/-- The executor is where the queue is. -/
structure Serves (executor : DaemonThreadPoolExecutor) (queue : ServerQueue maxWorkers) : Prop where
  reachable : (machine maxWorkers).Reachable executor
  accepted : queue.accepted = executor.futures.length
  waiting : queue.waiting = executor.workQueue
  busy : queue.busy.Perm executor.inProgress

variable {queue : ServerQueue maxWorkers}

theorem Serves.still (serves : executor.Serves queue)
    (reached : (machine maxWorkers).Reachable next)
    (length : next.futures.length = executor.futures.length)
    (sameQueue : next.workQueue = executor.workQueue)
    (progress : next.inProgress = executor.inProgress) : next.Serves queue where
  reachable := reached
  accepted := serves.accepted.trans length.symm
  waiting := serves.waiting.trans sameQueue.symm
  busy := progress ▸ serves.busy

/-- A submission is accepted by the queue. -/
theorem Serves.accept (serves : executor.Serves queue)
    (reached : (machine maxWorkers).Reachable next)
    (length : next.futures.length = executor.futures.length + 1)
    (longer : next.workQueue = executor.workQueue ++ [executor.futures.length])
    (progress : next.inProgress = executor.inProgress) : next.Serves queue.accept where
  reachable := reached
  accepted := by rw [length, ← serves.accepted, ServerQueue.accept]
  waiting := by rw [ServerQueue.waiting_accept, serves.waiting, serves.accepted, longer]
  busy := progress ▸ serves.busy

/-- The task that is taken is the one that the queue starts. -/
theorem Serves.start (serves : executor.Serves queue)
    (reached : (machine maxWorkers).Reachable next) {task : TaskId}
    (length : next.futures.length = executor.futures.length)
    (shorter : executor.workQueue = task :: next.workQueue)
    (progress : next.inProgress.Perm (task :: executor.inProgress)) :
    ∃ later, (ServerQueue.machine maxWorkers).execFrom queue [.start] = some later ∧
      next.Serves later := by
  rcases ServerQueue.started_of_waiting (serves.waiting.trans shorter) with ⟨rfl, waits⟩
  have room : queue.busy.length < maxWorkers := by
    have within := length_inProgress_le reached
    rw [progress.length_eq, List.length_cons] at within
    rw [serves.busy.length_eq]
    exact within
  refine ⟨queue.start waits room, ?_, reached, serves.accepted.trans length.symm, ?_, ?_⟩
  · show (if possible : _ then _ else none).bind _ = _
    rw [dif_pos ⟨waits, room⟩]
    rfl
  · have split := serves.waiting.trans shorter
    rw [ServerQueue.waiting_start] at split
    exact (List.cons.inj split).2
  · exact (serves.busy.cons queue.started).trans progress.symm

theorem Serves.finish (serves : executor.Serves queue)
    (reached : (machine maxWorkers).Reachable next) {task : TaskId}
    (length : next.futures.length = executor.futures.length)
    (sameQueue : next.workQueue = executor.workQueue)
    (progress : executor.inProgress.Perm (task :: next.inProgress)) :
    ∃ later, (ServerQueue.machine maxWorkers).execFrom queue [.finish task] = some later ∧
      next.Serves later := by
  have whole := serves.busy.trans progress
  have listed : task ∈ queue.busy := whole.mem_iff.2 List.mem_cons_self
  refine ⟨queue.finish task, ?_, reached, serves.accepted.trans length.symm,
    serves.waiting.trans sameQueue.symm, ?_⟩
  · show (if task ∈ queue.busy then _ else none).bind _ = _
    rw [if_pos listed]
    rfl
  · have fewer := whole.erase task
    rw [List.erase_cons_head] at fewer
    exact fewer

/-- Every step of the executor is what it is to the queue. -/
theorem Serves.step (serves : executor.Serves queue) (stepped : executor.step event = some next) :
    ∃ later, (ServerQueue.machine maxWorkers).execFrom queue (executor.serverActions event) =
        some later ∧ next.Serves later := by
  have reached : (machine maxWorkers).Reachable next := serves.reachable.step stepped
  have tidy := tidy_of_reachable serves.reachable
  cases stepCase_of_step stepped with
  | refused closed =>
      rw [serverActions, if_pos closed]
      exact ⟨queue, rfl, serves⟩
  | accepted isOpen full =>
      rw [serverActions, if_neg (by rw [isOpen]; exact Bool.false_ne_true)]
      exact ⟨queue.accept, rfl, serves.accept reached List.length_append rfl rfl⟩
  | spawned isOpen room =>
      rw [serverActions, if_neg (by rw [isOpen]; exact Bool.false_ne_true)]
      exact ⟨queue.accept, rfl, serves.accept reached List.length_append rfl inProgress_spawnWorker⟩
  | took worker task rest phase queued =>
      have at_popped : ({ executor with workQueue := rest } :
          DaemonThreadPoolExecutor).workers[worker]? = some .polling := phase
      exact serves.start reached rfl queued (inProgress_moveTo_take at_popped rfl rfl)
  | foundEmpty worker phase | stayed worker phase | broke worker phase | left worker phase =>
      exact ⟨queue, rfl, serves.still reached rfl rfl (inProgress_moveTo_same phase rfl)⟩
  | claimed worker task phase future =>
      have quiet : executor.serverActions (.claim worker) = [] := by
        simp only [serverActions, phase, future]
        rfl
      rw [quiet]
      exact ⟨queue, rfl, serves.still reached (length_setFuture _ _ _) rfl
        (inProgress_moveTo_same phase rfl)⟩
  | skipped worker task phase future =>
      have ends : executor.serverActions (.claim worker) = [.finish task] := by
        simp only [serverActions, phase, future, if_true]
      rw [ends]
      exact serves.finish reached (length_setFuture _ _ _) rfl
        (inProgress_moveTo_drop phase rfl rfl)
  | choked worker task phase notPending notCancelled =>
      exact (tidy.not_choked phase notPending notCancelled).elim
  | finished worker task outcome phase =>
      have ends : executor.serverActions (.finish worker outcome) = [.finish task] := by
        simp only [serverActions, phase]
      rw [ends]
      exact serves.finish reached (length_setFuture _ _ _) rfl
        (inProgress_moveTo_drop phase rfl rfl)
  | died worker task error phase =>
      have ends : executor.serverActions (.finish worker (.raised error)) = [.finish task] := by
        simp only [serverActions, phase]
      rw [ends]
      exact serves.finish reached rfl rfl (inProgress_moveTo_drop phase rfl rfl)
  | cancelled task future =>
      exact ⟨queue, rfl, serves.still reached (length_setFuture _ _ _) rfl rfl⟩
  | notCancelled task future => exact ⟨queue, rfl, serves⟩
  | shutdown | joined => exact ⟨queue, rfl, serves.still reached rfl rfl rfl⟩

/-- Every run of the executor is a run of a queue with that many servers: the tasks wait and are
taken in the order in which they were accepted, and the tasks in progress are the busy ones. -/
theorem exec_serverQueue {trace : List ExecutorEvent}
    (run : (machine maxWorkers).exec trace = some executor) :
    ∃ queue : ServerQueue maxWorkers,
      (ServerQueue.machine maxWorkers).exec
          ((machine maxWorkers).actionsAlong serverActions (init maxWorkers) trace) = some queue ∧
        executor.futures.length = queue.accepted ∧ executor.workQueue = queue.waiting ∧
        executor.inProgress.Perm queue.busy ∧ executor.inProgress.length ≤ maxWorkers := by
  have start : (machine maxWorkers).start.Serves (ServerQueue.machine maxWorkers).start :=
    ⟨⟨[], rfl⟩, rfl, rfl, List.Perm.refl []⟩
  rcases Machine.exec_of_simulated start
    (fun state event next abstract serves stepped => serves.step stepped) run with
    ⟨queue, ran, serves⟩
  exact ⟨queue, ran, serves.accepted.symm, serves.waiting.symm, serves.busy.symm,
    length_inProgress_le serves.reachable⟩

/-- The tasks of the rough run are accepted and started in order, the second one ends first. -/
theorem exec_serverQueue_roughRun :
    ∃ executor queue, (machine 2).exec roughRun = some executor ∧
      (ServerQueue.machine 2).exec [.accept, .accept, .start, .start, .finish 1, .finish 0] =
        some queue ∧ executor.inProgress.Perm queue.busy := by
  have runs : ((machine 2).exec roughRun).isSome = true := by
    decide +kernel
  rcases Option.isSome_iff_exists.1 runs with ⟨executor, run⟩
  rcases exec_serverQueue run with ⟨queue, ran, _, _, busy, _⟩
  have actions : (machine 2).actionsAlong serverActions (init 2) roughRun =
      [.accept, .accept, .start, .start, .finish 1, .finish 0] := by
    decide +kernel
  rw [actions] at ran
  exact ⟨executor, queue, run, ran, busy⟩

end DaemonThreadPoolExecutor

end Pyzlc
