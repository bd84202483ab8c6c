import Mathlib.Data.List.Nodup
import Pyzlc.Nodes.LoopManager

/-!
# Tasks on their way through the pool

A task is on the queue or with one worker, never both and never twice, and its future
says how far it has come.  So a worker never claims a future that was already claimed,
which is what would make the library raise there.
-/

namespace Pyzlc

open Foundation

namespace DaemonThreadPoolExecutor

variable {executor : DaemonThreadPoolExecutor} {worker : WorkerId} {task : TaskId}
  {phase old : WorkerPhase} {future : FutureState}

/-- The future is not claimed yet. -/
def Unclaimed (executor : DaemonThreadPoolExecutor) (task : TaskId) : Prop :=
  executor.futures[task]? = some .pending ∨ executor.futures[task]? = some .cancelled

/-- The worker has taken the task. -/
def Has (executor : DaemonThreadPoolExecutor) (worker : WorkerId) (task : TaskId) : Prop :=
  ∃ phase, executor.workers[worker]? = some phase ∧ phase.task? = some task

/-- Where the tasks are, and what their futures say. -/
structure Tidy (executor : DaemonThreadPoolExecutor) : Prop where
  queue_nodup : executor.workQueue.Nodup
  queued : ∀ task ∈ executor.workQueue, executor.Unclaimed task
  held : ∀ (worker : WorkerId) (task : TaskId), executor.workers[worker]? = some (.holding task) →
    executor.Unclaimed task
  executing : ∀ (worker : WorkerId) (task : TaskId),
    executor.workers[worker]? = some (.executing task) → executor.futures[task]? = some .running
  apart : ∀ worker task, executor.Has worker task → task ∉ executor.workQueue
  distinct : ∀ worker other task, executor.Has worker task → executor.Has other task →
    worker = other

/-! ## Single updates -/

theorem workers_moveTo (at_old : executor.workers[worker]? = some old) (other : WorkerId) :
    (executor.moveTo worker phase).workers[other]? =
      if other = worker then some phase else executor.workers[other]? :=
  Serials.getElem?_update at_old phase other

theorem futures_setFuture {before : FutureState} (known : executor.futures[task]? = some before)
    (other : TaskId) :
    (executor.setFuture task future).futures[other]? =
      if other = task then some future else executor.futures[other]? :=
  Serials.getElem?_update known future other

/-- What a worker has after one worker moved on. -/
theorem has_moveTo (at_old : executor.workers[worker]? = some old) {other : WorkerId} :
    (executor.moveTo worker phase).Has other task ↔
      if other = worker then phase.task? = some task else executor.Has other task := by
  unfold Has
  rw [workers_moveTo at_old]
  split <;> simp

/-- A worker that moves to a phase without a task keeps the rest in order. -/
theorem Tidy.moveTo_idle (tidy : executor.Tidy) (at_old : executor.workers[worker]? = some old)
    (idle : phase.task? = none) : (executor.moveTo worker phase).Tidy where
  queue_nodup := tidy.queue_nodup
  queued := tidy.queued
  held := by
    intro other task found
    rw [workers_moveTo at_old] at found
    split at found
    next =>
      cases found
      cases idle
    next => exact tidy.held other task found
  executing := by
    intro other task found
    rw [workers_moveTo at_old] at found
    split at found
    next =>
      cases found
      cases idle
    next => exact tidy.executing other task found
  apart := by
    intro other task has
    rw [has_moveTo at_old] at has
    split at has
    next => cases idle.symm.trans has
    next => exact tidy.apart other task has
  distinct := by
    intro first second task hasFirst hasSecond
    rw [has_moveTo at_old] at hasFirst hasSecond
    split at hasFirst
    next => cases idle.symm.trans hasFirst
    next =>
      split at hasSecond
      next => cases idle.symm.trans hasSecond
      next => exact tidy.distinct first second task hasFirst hasSecond

/-- A future that no queued or taken task has may be set to anything. -/
theorem Tidy.setFuture_done (tidy : executor.Tidy) {before : FutureState}
    (known : executor.futures[task]? = some before) (notQueued : task ∉ executor.workQueue)
    (notTaken : ∀ worker, ¬ executor.Has worker task) : (executor.setFuture task future).Tidy where
  queue_nodup := tidy.queue_nodup
  queued := by
    intro other member
    have different : other ≠ task := fun same => notQueued (same ▸ member)
    rw [Unclaimed, futures_setFuture known, if_neg different]
    exact tidy.queued other member
  held := by
    intro worker other found
    have different : other ≠ task := fun same => notTaken worker ⟨_, found, congrArg some same⟩
    rw [Unclaimed, futures_setFuture known, if_neg different]
    exact tidy.held worker other found
  executing := by
    intro worker other found
    have different : other ≠ task := fun same => notTaken worker ⟨_, found, congrArg some same⟩
    rw [futures_setFuture known, if_neg different]
    exact tidy.executing worker other found
  apart := tidy.apart
  distinct := tidy.distinct

/-- A worker done with its task: the future gets its last state, the worker polls again. -/
theorem Tidy.settle (tidy : executor.Tidy) (at_old : executor.workers[worker]? = some old)
    (taken : old.task? = some task) {before : FutureState}
    (known : executor.futures[task]? = some before) :
    (((executor.setFuture task future).taskDone).moveTo worker .polling).Tidy := by
  have moved : (executor.moveTo worker .polling).Tidy := tidy.moveTo_idle at_old rfl
  have has : executor.Has worker task := ⟨old, at_old, taken⟩
  have settled : ((executor.moveTo worker .polling).setFuture task future).Tidy := by
    apply moved.setFuture_done known
    · exact tidy.apart worker task has
    · intro other otherHas
      rw [has_moveTo at_old] at otherHas
      split at otherHas
      next => cases otherHas
      next different => exact different (tidy.distinct other worker task otherHas has)
  exact ⟨settled.queue_nodup, settled.queued, settled.held, settled.executing, settled.apart,
    settled.distinct⟩

theorem Tidy.took (tidy : executor.Tidy) {rest : List TaskId}
    (at_old : executor.workers[worker]? = some .polling)
    (queued : executor.workQueue = task :: rest) :
    ({ executor with workQueue := rest }.moveTo worker (.holding task)).Tidy := by
  have nodup := tidy.queue_nodup
  rw [queued, List.nodup_cons] at nodup
  have at_popped : ({ executor with workQueue := rest } :
      DaemonThreadPoolExecutor).workers[worker]? = some .polling := at_old
  have inQueue : ∀ other ∈ rest, other ∈ executor.workQueue := by
    intro other member
    rw [queued]
    exact List.mem_cons_of_mem _ member
  have taskQueued : task ∈ executor.workQueue := by
    rw [queued]
    exact List.mem_cons_self
  constructor
  · exact nodup.2
  · intro other member
    exact tidy.queued other (inQueue other member)
  · intro other held found
    rw [workers_moveTo at_popped] at found
    split at found
    next =>
      cases found
      exact tidy.queued task taskQueued
    next => exact tidy.held other held found
  · intro other running found
    rw [workers_moveTo at_popped] at found
    split at found
    next => cases found
    next => exact tidy.executing other running found
  · intro other taken has
    rw [has_moveTo at_popped] at has
    split at has
    next =>
      cases has
      exact nodup.1
    next =>
      intro member
      exact tidy.apart other taken has (inQueue taken member)
  · intro first second taken hasFirst hasSecond
    rw [has_moveTo at_popped] at hasFirst hasSecond
    split at hasFirst
    next sameFirst =>
      split at hasSecond
      next sameSecond => exact sameFirst.trans sameSecond.symm
      next =>
        cases hasFirst
        exact absurd taskQueued (tidy.apart second _ hasSecond)
    next =>
      split at hasSecond
      next =>
        cases hasSecond
        exact absurd taskQueued (tidy.apart first _ hasFirst)
      next => exact tidy.distinct first second taken hasFirst hasSecond

theorem Tidy.claimed (tidy : executor.Tidy)
    (at_old : executor.workers[worker]? = some (.holding task))
    (known : executor.futures[task]? = some .pending) :
    ((executor.setFuture task .running).moveTo worker (.executing task)).Tidy := by
  have has : executor.Has worker task := ⟨_, at_old, rfl⟩
  have at_set : (executor.setFuture task .running).workers[worker]? = some (.holding task) := at_old
  have futures : ∀ other : TaskId,
      ((executor.setFuture task .running).moveTo worker (.executing task)).futures[other]? =
        if other = task then some .running else executor.futures[other]? :=
    futures_setFuture known
  have keeps : ∀ other taken,
      ((executor.setFuture task .running).moveTo worker (.executing task)).Has other taken →
        executor.Has other taken := by
    intro other taken hasAfter
    rw [has_moveTo at_set] at hasAfter
    split at hasAfter
    next same =>
      cases hasAfter
      rw [same]
      exact has
    next => exact hasAfter
  have differs : ∀ other taken, other ≠ worker → executor.Has other taken → taken ≠ task := by
    intro other taken different hasOther same
    rw [same] at hasOther
    exact different (tidy.distinct other worker task hasOther has)
  constructor
  · exact tidy.queue_nodup
  · intro other member
    have different : other ≠ task := fun same => tidy.apart worker task has (same ▸ member)
    rw [Unclaimed, futures, if_neg different]
    exact tidy.queued other member
  · intro other held found
    rw [workers_moveTo at_set] at found
    split at found
    next => cases found
    next different =>
      have hasOther : executor.Has other held := ⟨_, found, rfl⟩
      rw [Unclaimed, futures, if_neg (differs other held different hasOther)]
      exact tidy.held other held found
  · intro other running found
    rw [futures]
    rw [workers_moveTo at_set] at found
    split at found
    next =>
      cases found
      rw [if_pos rfl]
    next different =>
      have hasOther : executor.Has other running := ⟨_, found, rfl⟩
      rw [if_neg (differs other running different hasOther)]
      exact tidy.executing other running found
  · intro other taken hasAfter
    exact tidy.apart other taken (keeps other taken hasAfter)
  · intro first second taken hasFirst hasSecond
    exact tidy.distinct first second taken (keeps first taken hasFirst)
      (keeps second taken hasSecond)

theorem Tidy.cancelled (tidy : executor.Tidy) (known : executor.futures[task]? = some .pending) :
    (executor.setFuture task .cancelled).Tidy where
  queue_nodup := tidy.queue_nodup
  queued := by
    intro other member
    rw [Unclaimed, futures_setFuture known]
    split
    next => exact Or.inr rfl
    next => exact tidy.queued other member
  held := by
    intro worker other found
    rw [Unclaimed, futures_setFuture known]
    split
    next => exact Or.inr rfl
    next => exact tidy.held worker other found
  executing := by
    intro worker other found
    have running := tidy.executing worker other found
    rw [futures_setFuture known]
    split
    next same =>
      rw [same, known] at running
      cases running
    next => exact running
  apart := tidy.apart
  distinct := tidy.distinct

theorem Unclaimed.lt (unclaimed : executor.Unclaimed task) : task < executor.futures.length := by
  rcases unclaimed with pending | cancelled
  · exact (List.getElem?_eq_some_iff.1 pending).1
  · exact (List.getElem?_eq_some_iff.1 cancelled).1

/-- Every taken task has a future. -/
theorem Tidy.has_lt (tidy : executor.Tidy) (has : executor.Has worker task) :
    task < executor.futures.length := by
  rcases has with ⟨phase, found, taken⟩
  cases phase with
  | holding held =>
      cases taken
      exact (tidy.held worker task found).lt
  | executing running =>
      cases taken
      exact (List.getElem?_eq_some_iff.1 (tidy.executing worker task found)).1
  | polling | timedOut | leaving | exited | died => cases taken

theorem futures_enqueue_of_lt (within : task < executor.futures.length) :
    executor.enqueue.futures[task]? = executor.futures[task]? :=
  List.getElem?_append_left within

theorem Tidy.enqueue (tidy : executor.Tidy) : executor.enqueue.Tidy where
  queue_nodup := by
    apply List.nodup_append.2
    refine ⟨tidy.queue_nodup, List.nodup_singleton _, ?_⟩
    intro task member last isLast same
    rw [same, List.mem_singleton.1 isLast] at member
    exact Nat.lt_irrefl _ (tidy.queued _ member).lt
  queued := by
    intro task member
    rcases List.mem_append.1 member with before | last
    · have unclaimed := tidy.queued task before
      rw [Unclaimed, futures_enqueue_of_lt unclaimed.lt]
      exact unclaimed
    · rw [List.mem_singleton.1 last]
      left
      exact List.getElem?_concat_length
  held := by
    intro worker task found
    have unclaimed := tidy.held worker task found
    rw [Unclaimed, futures_enqueue_of_lt unclaimed.lt]
    exact unclaimed
  executing := by
    intro worker task found
    have running := tidy.executing worker task found
    rw [futures_enqueue_of_lt (List.getElem?_eq_some_iff.1 running).1]
    exact running
  apart := by
    intro worker task has member
    rcases List.mem_append.1 member with before | last
    · exact tidy.apart worker task has before
    · have within := tidy.has_lt has
      rw [List.mem_singleton.1 last] at within
      exact Nat.lt_irrefl _ within
  distinct := tidy.distinct

/-- A phase found in a grown pool is an old worker's, or the new worker polling. -/
theorem workers_spawnWorker (found : executor.spawnWorker.workers[worker]? = some phase) :
    executor.workers[worker]? = some phase ∨ phase = .polling := by
  rcases Serials.found_of_add found with ⟨_, before⟩ | ⟨_, last⟩
  · exact Or.inl before
  · exact Or.inr last

theorem Tidy.spawnWorker (tidy : executor.Tidy) : executor.spawnWorker.Tidy := by
  have keeps : ∀ worker task, executor.spawnWorker.Has worker task → executor.Has worker task := by
    intro worker task has
    rcases has with ⟨phase, found, taken⟩
    rcases workers_spawnWorker found with before | fresh
    · exact ⟨phase, before, taken⟩
    · rw [fresh] at taken
      cases taken
  constructor
  · exact tidy.queue_nodup
  · exact tidy.queued
  · intro worker task found
    rcases workers_spawnWorker found with before | fresh
    · exact tidy.held worker task before
    · cases fresh
  · intro worker task found
    rcases workers_spawnWorker found with before | fresh
    · exact tidy.executing worker task before
    · cases fresh
  · intro worker task has
    exact tidy.apart worker task (keeps worker task has)
  · intro first second task hasFirst hasSecond
    exact tidy.distinct first second task (keeps first task hasFirst) (keeps second task hasSecond)

/-! ## Every step -/

/-- A worker never meets a future that is neither pending nor cancelled. -/
theorem Tidy.not_choked (tidy : executor.Tidy)
    (at_old : executor.workers[worker]? = some (.holding task))
    (notPending : executor.futures[task]? ≠ some .pending)
    (notCancelled : executor.futures[task]? ≠ some .cancelled) : False := by
  rcases tidy.held worker task at_old with pending | cancelled
  · exact notPending pending
  · exact notCancelled cancelled

theorem Tidy.step {next : DaemonThreadPoolExecutor} {event : ExecutorEvent} (tidy : executor.Tidy)
    (stepped : StepCase executor event next) : next.Tidy := by
  cases stepped with
  | refused => exact tidy
  | accepted => exact tidy.enqueue
  | spawned => exact tidy.enqueue.spawnWorker
  | took worker task rest phase queued => exact tidy.took phase queued
  | foundEmpty worker phase empty => exact tidy.moveTo_idle phase rfl
  | stayed worker phase => exact tidy.moveTo_idle phase rfl
  | broke worker phase => exact tidy.moveTo_idle phase rfl
  | claimed worker task phase future => exact tidy.claimed phase future
  | skipped worker task phase future => exact tidy.settle phase rfl future
  | choked worker task phase notPending notCancelled =>
      exact (tidy.not_choked phase notPending notCancelled).elim
  | finished worker task outcome phase =>
      exact tidy.settle phase rfl (tidy.executing worker task phase)
  | died worker task error phase =>
      have moved : (executor.moveTo worker .died).Tidy := tidy.moveTo_idle phase rfl
      exact ⟨moved.queue_nodup, moved.queued, moved.held, moved.executing, moved.apart,
        moved.distinct⟩
  | left worker phase =>
      have moved : (executor.moveTo worker .exited).Tidy := tidy.moveTo_idle phase rfl
      exact ⟨moved.queue_nodup, moved.queued, moved.held, moved.executing, moved.apart,
        moved.distinct⟩
  | cancelled task future => exact tidy.cancelled future
  | notCancelled => exact tidy
  | shutdown =>
      exact ⟨tidy.queue_nodup, tidy.queued, tidy.held, tidy.executing, tidy.apart, tidy.distinct⟩
  | joined => exact tidy

theorem tidy_init (maxWorkers : Nat) : (init maxWorkers).Tidy where
  queue_nodup := List.nodup_nil
  queued := by
    intro task member
    cases member
  held := by
    intro worker task found
    cases found
  executing := by
    intro worker task found
    cases found
  apart := by
    intro worker task _ member
    cases member
  distinct := by
    intro worker other task has
    rcases has with ⟨phase, found, _⟩
    cases found

theorem tidy_of_reachable {maxWorkers : Nat}
    (reachable : (machine maxWorkers).Reachable executor) : executor.Tidy := by
  apply reachable.invariant (tidy_init maxWorkers)
  intro before event after _ tidy stepped
  exact tidy.step (stepCase_of_step stepped)

end DaemonThreadPoolExecutor

end Pyzlc
