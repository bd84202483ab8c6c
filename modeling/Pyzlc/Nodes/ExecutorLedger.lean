import Mathlib.Data.List.Perm.Basic
import Pyzlc.Nodes.ExecutorTasks

/-!
# The books of the thread pool

A ledger beside the executor notes which items were taken off the queue, which functions
were called and have ended, which items were marked done and which futures callers have
cancelled.  The queue's counter is the number of items queued or in progress along every
run, so a join that returns finds every accepted task ended or cancelled.
-/

namespace Pyzlc

open Foundation

/-- What has happened to the tasks of an executor. -/
structure ExecutorLedger where
  /-- Items that a worker took off the queue. -/
  taken : List TaskId
  /-- Tasks whose function was called. -/
  invoked : List TaskId
  /-- Tasks whose function has returned or raised. -/
  ended : List TaskId
  /-- Items for which `task_done` was called. -/
  marked : List TaskId
  /-- Tasks whose future a caller has cancelled. -/
  cancelled : List TaskId

namespace ExecutorLedger

def empty : ExecutorLedger where
  taken := []
  invoked := []
  ended := []
  marked := []
  cancelled := []

/-- The entry of one step. -/
def record (executor : DaemonThreadPoolExecutor) (event : ExecutorEvent) (ledger : ExecutorLedger) :
    ExecutorLedger :=
  match event with
  | .get worker =>
      match executor.workers[worker]?, executor.workQueue with
      | some .polling, task :: _ => { ledger with taken := task :: ledger.taken }
      | _, _ => ledger
  | .claim worker =>
      match executor.workers[worker]? with
      | some (.holding task) =>
          match executor.futures[task]? with
          | some .pending => { ledger with invoked := task :: ledger.invoked }
          | some .cancelled => { ledger with marked := task :: ledger.marked }
          | _ => ledger
      | _ => ledger
  | .finish worker _ =>
      match executor.workers[worker]? with
      | some (.executing task) =>
          { ledger with ended := task :: ledger.ended, marked := task :: ledger.marked }
      | _ => ledger
  | .cancel task =>
      match executor.futures[task]? with
      | some .pending => { ledger with cancelled := task :: ledger.cancelled }
      | _ => ledger
  | _ => ledger

end ExecutorLedger

namespace DaemonThreadPoolExecutor

/-- The runs of an executor, with their ledger. -/
abbrev keeping (maxWorkers : Nat) :
    Machine (DaemonThreadPoolExecutor × ExecutorLedger) ExecutorEvent :=
  (machine maxWorkers).recording ExecutorLedger.empty ExecutorLedger.record

variable {executor next : DaemonThreadPoolExecutor} {event : ExecutorEvent} {worker : WorkerId}
  {task : TaskId} {phase old : WorkerPhase}

/-! ## Tasks in progress -/

/-- The tasks that workers have taken and not marked done. -/
def inProgress (executor : DaemonThreadPoolExecutor) : List TaskId :=
  executor.workers.filterMap WorkerPhase.task?

theorem mem_inProgress : task ∈ executor.inProgress ↔ ∃ worker, executor.Has worker task := by
  rw [inProgress, List.mem_filterMap]
  constructor
  · intro found
    rcases found with ⟨phase, member, taken⟩
    rcases List.mem_iff_getElem?.1 member with ⟨worker, found⟩
    exact ⟨worker, phase, found, taken⟩
  · intro has
    rcases has with ⟨worker, phase, found, taken⟩
    exact ⟨phase, List.mem_of_getElem? found, taken⟩

/-- No task is in progress twice. -/
theorem Tidy.inProgress_nodup (tidy : executor.Tidy) : executor.inProgress.Nodup := by
  apply (List.pairwise_filterMap).2
  apply List.pairwise_iff_getElem.2
  intro first second firstLt secondLt before one takenOne other takenOther same
  have hasFirst : executor.Has first one := ⟨_, List.getElem?_eq_getElem firstLt, takenOne⟩
  have hasSecond : executor.Has second one :=
    ⟨_, List.getElem?_eq_getElem secondLt, takenOther.trans (congrArg some same.symm)⟩
  exact Nat.ne_of_lt before (tidy.distinct first second one hasFirst hasSecond)

/-- The pool around one of its workers. -/
theorem workers_split (at_old : executor.workers[worker]? = some old) (phase : WorkerPhase) :
    ∃ front back, executor.workers = front ++ old :: back ∧
      (executor.moveTo worker phase).workers = front ++ phase :: back := by
  rcases List.getElem?_eq_some_iff.1 at_old with ⟨within, found⟩
  refine ⟨executor.workers.take worker, executor.workers.drop (worker + 1), ?_, ?_⟩
  · rw [← found, List.getElem_cons_drop, List.take_append_drop]
  · exact List.set_eq_take_append_cons_drop.trans (if_pos within)

theorem inProgress_moveTo_same (at_old : executor.workers[worker]? = some old)
    (same : phase.task? = old.task?) :
    (executor.moveTo worker phase).inProgress = executor.inProgress := by
  rcases workers_split at_old phase with ⟨front, back, before, after⟩
  simp only [inProgress, before, after, List.filterMap_append, List.filterMap_cons, same]

theorem inProgress_moveTo_take (at_old : executor.workers[worker]? = some old)
    (idle : old.task? = none) (takes : phase.task? = some task) :
    (executor.moveTo worker phase).inProgress.Perm (task :: executor.inProgress) := by
  rcases workers_split at_old phase with ⟨front, back, before, after⟩
  simp only [inProgress, before, after, List.filterMap_append, List.filterMap_cons, idle, takes]
  exact List.perm_middle

theorem inProgress_moveTo_drop (at_old : executor.workers[worker]? = some old)
    (has : old.task? = some task) (idle : phase.task? = none) :
    executor.inProgress.Perm (task :: (executor.moveTo worker phase).inProgress) := by
  rcases workers_split at_old phase with ⟨front, back, before, after⟩
  simp only [inProgress, before, after, List.filterMap_append, List.filterMap_cons, idle, has]
  exact List.perm_middle

theorem inProgress_spawnWorker : executor.spawnWorker.inProgress = executor.inProgress := by
  rw [inProgress, spawnWorker, List.filterMap_append]
  exact List.append_nil _

/-! ## Calls and cancellations -/

/-- The function of a task is being called or was. -/
def Claimed (executor : DaemonThreadPoolExecutor) (task : TaskId) : Prop :=
  executor.futures[task]? = some .running ∨
    ∃ outcome, executor.futures[task]? = some (.finished outcome)

/-- A caller has cancelled the future. -/
def Cancelled (executor : DaemonThreadPoolExecutor) (task : TaskId) : Prop :=
  executor.futures[task]? = some .cancelled ∨
    executor.futures[task]? = some .cancelledAndNotified

theorem Claimed.not_cancelled (claimed : executor.Claimed task) : ¬ executor.Cancelled task := by
  intro cancelled
  rcases claimed with running | ⟨outcome, finished⟩
  · rcases cancelled with before | noticed
    · cases running.symm.trans before
    · cases running.symm.trans noticed
  · rcases cancelled with before | noticed
    · cases finished.symm.trans before
    · cases finished.symm.trans noticed

/-- A future that neither was cancelled nor is now leaves the cancellations as they are. -/
theorem cancelled_setFuture {before : FutureState}
    (known : executor.futures[task]? = some before) (after : FutureState)
    (notBefore : before ≠ .cancelled ∧ before ≠ .cancelledAndNotified)
    (notAfter : after ≠ .cancelled ∧ after ≠ .cancelledAndNotified) (other : TaskId) :
    (executor.setFuture task after).Cancelled other ↔ executor.Cancelled other := by
  rw [Cancelled, Cancelled, futures_setFuture known]
  split
  next same =>
    rw [same, known]
    simp only [Option.some.injEq]
    exact iff_of_false (not_or.2 notAfter) (not_or.2 notBefore)
  next => exact Iff.rfl

/-- What the futures say about the calls and the cancellations of the ledger. -/
structure Noted (executor : DaemonThreadPoolExecutor) (ledger : ExecutorLedger) : Prop where
  once : ledger.invoked.Nodup
  claimed : ∀ task ∈ ledger.invoked, executor.Claimed task
  cancelled : ∀ task, task ∈ ledger.cancelled ↔ executor.Cancelled task

/-- Only the futures matter. -/
theorem Noted.congr {ledger : ExecutorLedger} (noted : Noted executor ledger)
    (same : next.futures = executor.futures) : Noted next ledger where
  once := noted.once
  claimed := by
    unfold Claimed
    rw [same]
    exact noted.claimed
  cancelled := by
    unfold Cancelled
    rw [same]
    exact noted.cancelled

theorem Noted.enqueue {ledger : ExecutorLedger} (noted : Noted executor ledger) :
    Noted executor.enqueue ledger where
  once := noted.once
  claimed := by
    intro task member
    have claimed := noted.claimed task member
    have within : task < executor.futures.length := by
      rcases claimed with running | ⟨outcome, finished⟩
      · exact (List.getElem?_eq_some_iff.1 running).1
      · exact (List.getElem?_eq_some_iff.1 finished).1
    rw [Claimed, futures_enqueue_of_lt within]
    exact claimed
  cancelled := by
    intro task
    rw [noted.cancelled, Cancelled, Cancelled]
    rcases Nat.lt_or_ge task executor.futures.length with within | beyond
    · rw [futures_enqueue_of_lt within]
    · apply iff_of_false
      · rw [List.getElem?_eq_none beyond]
        exact not_or.2 ⟨nofun, nofun⟩
      · intro either
        have last : executor.enqueue.futures = executor.futures ++ [.pending] := rfl
        rw [last, List.getElem?_append_right beyond, List.getElem?_singleton] at either
        split at either
        next => exact either.elim nofun nofun
        next => exact either.elim nofun nofun

/-- A call moves its future from pending to running. -/
theorem Noted.claim {ledger : ExecutorLedger} (noted : Noted executor ledger)
    (known : executor.futures[task]? = some .pending) :
    Noted (executor.setFuture task .running)
      { ledger with invoked := task :: ledger.invoked } where
  once := by
    apply List.nodup_cons.2
    refine ⟨?_, noted.once⟩
    intro member
    rcases noted.claimed task member with running | ⟨outcome, finished⟩
    · cases known.symm.trans running
    · cases known.symm.trans finished
  claimed := by
    intro other member
    rw [Claimed, futures_setFuture known]
    split
    next => exact Or.inl rfl
    next different =>
      rcases List.mem_cons.1 member with same | earlier
      · exact absurd same different
      · exact noted.claimed other earlier
  cancelled := by
    intro other
    rw [noted.cancelled]
    exact (cancelled_setFuture known .running ⟨nofun, nofun⟩ ⟨nofun, nofun⟩ other).symm

/-- A future that was claimed and not cancelled gets its outcome. -/
theorem Noted.finish {ledger : ExecutorLedger} (noted : Noted executor ledger)
    (known : executor.futures[task]? = some .running) (outcome : TaskOutcome) :
    Noted (executor.setFuture task (.finished outcome)) ledger where
  once := noted.once
  claimed := by
    intro other member
    rw [Claimed, futures_setFuture known]
    split
    next => exact Or.inr ⟨outcome, rfl⟩
    next => exact noted.claimed other member
  cancelled := by
    intro other
    rw [noted.cancelled]
    exact (cancelled_setFuture known (.finished outcome) ⟨nofun, nofun⟩ ⟨nofun, nofun⟩ other).symm

/-- A future that was pending or cancelled is cancelled now. -/
theorem Noted.cancel {ledger ledger' : ExecutorLedger} {before after : FutureState}
    (noted : Noted executor ledger) (known : executor.futures[task]? = some before)
    (unclaimed : before = .pending ∨ before = .cancelled)
    (isCancelled : after = .cancelled ∨ after = .cancelledAndNotified)
    (sameCalls : ledger'.invoked = ledger.invoked)
    (entry : ∀ other, other ∈ ledger'.cancelled ↔ other = task ∨ other ∈ ledger.cancelled) :
    Noted (executor.setFuture task after) ledger' where
  once := by
    rw [sameCalls]
    exact noted.once
  claimed := by
    intro other member
    rw [sameCalls] at member
    have claimed := noted.claimed other member
    rw [Claimed, futures_setFuture known]
    split
    next same =>
      rw [same, Claimed, known] at claimed
      rcases unclaimed with rfl | rfl
      · exact claimed.elim nofun nofun
      · exact claimed.elim nofun nofun
    next => exact claimed
  cancelled := by
    intro other
    rw [entry, noted.cancelled, Cancelled, Cancelled, futures_setFuture known]
    split
    next same =>
      apply iff_of_true (Or.inl same)
      rcases isCancelled with rfl | rfl
      · exact Or.inl rfl
      · exact Or.inr rfl
    next different => exact or_iff_right different

theorem Noted.step {ledger : ExecutorLedger} (tidy : executor.Tidy) (noted : Noted executor ledger)
    (stepped : StepCase executor event next) : Noted next (ledger.record executor event) := by
  cases stepped with
  | refused | joined => exact noted
  | accepted => exact noted.enqueue
  | spawned => exact noted.enqueue.congr rfl
  | took worker task rest phase queued =>
      simp only [ExecutorLedger.record, phase, queued]
      exact ⟨noted.once, noted.claimed, noted.cancelled⟩
  | foundEmpty | stayed | broke | left | shutdown => exact noted.congr rfl
  | claimed worker task phase future =>
      simp only [ExecutorLedger.record, phase, future]
      exact (noted.claim future).congr rfl
  | skipped worker task phase future =>
      simp only [ExecutorLedger.record, phase, future]
      have noticed : Noted (executor.setFuture task .cancelledAndNotified)
          { ledger with marked := task :: ledger.marked } := by
        apply noted.cancel future (Or.inr rfl) (Or.inr rfl)
        · rfl
        · intro other
          rw [or_iff_right_of_imp]
          rintro rfl
          exact (noted.cancelled _).2 (Or.inl future)
      exact noticed.congr rfl
  | choked worker task phase notPending notCancelled =>
      exact (tidy.not_choked phase notPending notCancelled).elim
  | finished worker task outcome phase =>
      simp only [ExecutorLedger.record, phase]
      have kept := noted.finish (tidy.executing worker task phase) outcome
      exact ⟨kept.once, kept.claimed, kept.cancelled⟩
  | died worker task error phase =>
      simp only [ExecutorLedger.record, phase]
      exact ⟨noted.once, noted.claimed, noted.cancelled⟩
  | cancelled task future =>
      simp only [ExecutorLedger.record, future]
      exact noted.cancel future (Or.inl rfl) (Or.inl rfl) rfl fun _ => List.mem_cons
  | notCancelled task future =>
      simp only [ExecutorLedger.record]
      exact noted

/-- What is being executed was called, and so was what has ended. -/
structure Called (executor : DaemonThreadPoolExecutor) (ledger : ExecutorLedger) : Prop where
  executing : ∀ (worker : WorkerId) (task : TaskId),
    executor.workers[worker]? = some (.executing task) → task ∈ ledger.invoked
  ended : ∀ task ∈ ledger.ended, task ∈ ledger.invoked

/-- A worker that does not enter a function executes nothing new. -/
theorem Called.moveTo {ledger : ExecutorLedger} (called : Called executor ledger)
    (at_old : executor.workers[worker]? = some old) (phase : WorkerPhase)
    (outside : ∀ task, phase ≠ .executing task) : Called (executor.moveTo worker phase) ledger where
  executing := by
    intro other task found
    rw [workers_moveTo at_old] at found
    split at found
    next => exact absurd (Option.some.inj found) (outside task)
    next => exact called.executing other task found
  ended := called.ended

/-- What ends was called. -/
theorem Called.ended_cons {ledger : ExecutorLedger} (called : Called executor ledger)
    (at_old : executor.workers[worker]? = some (.executing task)) :
    ∀ other ∈ task :: ledger.ended, other ∈ ledger.invoked := by
  intro other member
  rcases List.mem_cons.1 member with rfl | earlier
  · exact called.executing worker other at_old
  · exact called.ended other earlier

theorem Called.step {ledger : ExecutorLedger} (called : Called executor ledger)
    (stepped : StepCase executor event next) : Called next (ledger.record executor event) := by
  cases stepped with
  | refused | accepted | shutdown | joined => exact ⟨called.executing, called.ended⟩
  | spawned =>
      constructor
      · intro worker task found
        rcases workers_spawnWorker found with before | fresh
        · exact called.executing worker task before
        · cases fresh
      · exact called.ended
  | took worker task rest phase queued =>
      simp only [ExecutorLedger.record, phase, queued]
      have moved := called.moveTo phase (.holding task) fun _ => nofun
      exact ⟨moved.executing, moved.ended⟩
  | foundEmpty worker phase | stayed worker phase | broke worker phase =>
      exact called.moveTo phase _ fun _ => nofun
  | left worker phase =>
      have moved := called.moveTo phase .exited fun _ => nofun
      exact ⟨moved.executing, moved.ended⟩
  | claimed worker task phase future =>
      simp only [ExecutorLedger.record, phase, future]
      constructor
      · intro other running found
        have at_set : (executor.setFuture task .running).workers[worker]? = some (.holding task) :=
          phase
        rw [workers_moveTo at_set] at found
        split at found
        next =>
          cases found
          exact List.mem_cons_self
        next => exact List.mem_cons_of_mem _ (called.executing other running found)
      · intro other member
        exact List.mem_cons_of_mem _ (called.ended other member)
  | skipped worker task phase future =>
      simp only [ExecutorLedger.record, phase, future]
      have moved := called.moveTo phase .polling fun _ => nofun
      exact ⟨moved.executing, moved.ended⟩
  | choked worker task phase notPending notCancelled =>
      simp only [ExecutorLedger.record, phase]
      exact called.moveTo phase .died fun _ => nofun
  | finished worker task outcome phase =>
      simp only [ExecutorLedger.record, phase]
      have moved := called.moveTo phase .polling fun _ => nofun
      exact ⟨moved.executing, called.ended_cons phase⟩
  | died worker task error phase =>
      simp only [ExecutorLedger.record, phase]
      have moved := called.moveTo phase .died fun _ => nofun
      exact ⟨moved.executing, called.ended_cons phase⟩
  | cancelled task future =>
      simp only [ExecutorLedger.record, future]
      exact ⟨called.executing, called.ended⟩
  | notCancelled task future =>
      simp only [ExecutorLedger.record]
      exact called

/-! ## How a step moves the tasks -/

theorem length_setFuture (task : TaskId) (future : FutureState)
    (executor : DaemonThreadPoolExecutor) :
    (executor.setFuture task future).futures.length = executor.futures.length :=
  List.length_set

/-- The four ways a step can move tasks: not at all, onto the queue, from the queue to a
worker, and away from a worker. -/
inductive Movement (executor next : DaemonThreadPoolExecutor) (ledger noted : ExecutorLedger) :
    Prop where
  | still (progress : next.inProgress = executor.inProgress)
      (queue : next.workQueue = executor.workQueue)
      (length : next.futures.length = executor.futures.length)
      (counter : next.unfinishedTasks = executor.unfinishedTasks)
      (taken : noted.taken = ledger.taken) (marked : noted.marked = ledger.marked)
      (ended : noted.ended = ledger.ended)
      (cancelled : ∀ task ∈ ledger.cancelled, task ∈ noted.cancelled)
  | accepted (progress : next.inProgress = executor.inProgress)
      (queue : next.workQueue = executor.workQueue ++ [executor.futures.length])
      (length : next.futures.length = executor.futures.length + 1)
      (counter : next.unfinishedTasks = executor.unfinishedTasks + 1) (same : noted = ledger)
  | took (task : TaskId) (queue : executor.workQueue = task :: next.workQueue)
      (progress : next.inProgress.Perm (task :: executor.inProgress))
      (length : next.futures.length = executor.futures.length)
      (counter : next.unfinishedTasks = executor.unfinishedTasks)
      (entry : noted = { ledger with taken := task :: ledger.taken })
  | marked (task : TaskId) (progress : executor.inProgress.Perm (task :: next.inProgress))
      (queue : next.workQueue = executor.workQueue)
      (length : next.futures.length = executor.futures.length)
      (counter : next.unfinishedTasks = executor.unfinishedTasks - 1)
      (entry : noted.marked = task :: ledger.marked) (taken : noted.taken = ledger.taken)
      (ended : ∀ other ∈ ledger.ended, other ∈ noted.ended)
      (cancelled : noted.cancelled = ledger.cancelled)
      (reason : task ∈ noted.ended ∨ executor.Cancelled task)

theorem movement_of_step {ledger : ExecutorLedger} (tidy : executor.Tidy)
    (stepped : StepCase executor event next) :
    Movement executor next ledger (ledger.record executor event) := by
  cases stepped with
  | refused | shutdown | joined => exact .still rfl rfl rfl rfl rfl rfl rfl fun _ => id
  | accepted => exact .accepted rfl rfl List.length_append rfl rfl
  | spawned => exact .accepted inProgress_spawnWorker rfl List.length_append rfl rfl
  | took worker task rest phase queued =>
      simp only [ExecutorLedger.record, phase, queued]
      have at_popped : ({ executor with workQueue := rest } :
          DaemonThreadPoolExecutor).workers[worker]? = some .polling := phase
      exact .took task queued (inProgress_moveTo_take at_popped rfl rfl) rfl rfl rfl
  | foundEmpty worker phase | stayed worker phase | broke worker phase | left worker phase =>
      exact .still (inProgress_moveTo_same phase rfl) rfl rfl rfl rfl rfl rfl fun _ => id
  | claimed worker task phase future =>
      simp only [ExecutorLedger.record, phase, future]
      exact .still (inProgress_moveTo_same phase rfl) rfl (length_setFuture _ _ _) rfl rfl rfl rfl
        fun _ => id
  | skipped worker task phase future =>
      simp only [ExecutorLedger.record, phase, future]
      exact .marked task (inProgress_moveTo_drop phase rfl rfl) rfl (length_setFuture _ _ _) rfl
        rfl rfl (fun _ => id) rfl (Or.inr (Or.inl future))
  | choked worker task phase notPending notCancelled =>
      exact (tidy.not_choked phase notPending notCancelled).elim
  | finished worker task outcome phase =>
      simp only [ExecutorLedger.record, phase]
      exact .marked task (inProgress_moveTo_drop phase rfl rfl) rfl (length_setFuture _ _ _) rfl
        rfl rfl (fun _ => List.mem_cons_of_mem _) rfl (Or.inl List.mem_cons_self)
  | died worker task error phase =>
      simp only [ExecutorLedger.record, phase]
      exact .marked task (inProgress_moveTo_drop phase rfl rfl) rfl rfl rfl rfl rfl
        (fun _ => List.mem_cons_of_mem _) rfl (Or.inl List.mem_cons_self)
  | cancelled task future =>
      simp only [ExecutorLedger.record, future]
      exact .still rfl rfl (length_setFuture _ _ _) rfl rfl rfl rfl fun _ => List.mem_cons_of_mem _
  | notCancelled task future =>
      simp only [ExecutorLedger.record]
      exact .still rfl rfl rfl rfl rfl rfl rfl fun _ => id

/-! ## The counter and the items taken -/

/-- The counter is the number of items queued or in progress. -/
def Counted (executor : DaemonThreadPoolExecutor) : Prop :=
  executor.unfinishedTasks = executor.workQueue.length + executor.inProgress.length

theorem Counted.step {ledger noted : ExecutorLedger} (counted : executor.Counted)
    (movement : Movement executor next ledger noted) : next.Counted := by
  unfold Counted at counted ⊢
  cases movement with
  | still progress queue _ counter =>
      rw [counter, queue, progress]
      exact counted
  | accepted progress queue _ counter =>
      rw [counter, queue, progress, List.length_append, List.length_singleton, counted]
      omega
  | took task queue progress _ counter =>
      rw [queue, List.length_cons] at counted
      rw [counter, progress.length_eq, List.length_cons, counted]
      omega
  | marked task progress queue _ counter =>
      rw [progress.length_eq, List.length_cons] at counted
      rw [counter, queue, counted, ← Nat.add_assoc, Nat.add_sub_cancel]

/-- Every item taken is in progress or marked done, and is neither taken nor marked twice. -/
structure Accounted (executor : DaemonThreadPoolExecutor) (ledger : ExecutorLedger) : Prop where
  marked : (ledger.marked ++ executor.inProgress).Perm ledger.taken
  once : ledger.taken.Nodup
  fresh : ∀ task ∈ ledger.taken, task < executor.futures.length ∧ task ∉ executor.workQueue

theorem Accounted.step {ledger noted : ExecutorLedger} (tidy : executor.Tidy)
    (accounted : Accounted executor ledger) (movement : Movement executor next ledger noted) :
    Accounted next noted := by
  cases movement with
  | still progress queue length _ taken marked =>
      constructor
      · rw [marked, progress, taken]
        exact accounted.marked
      · rw [taken]
        exact accounted.once
      · rw [taken, length, queue]
        exact accounted.fresh
  | accepted progress queue length _ same =>
      rw [same]
      constructor
      · rw [progress]
        exact accounted.marked
      · exact accounted.once
      · intro task member
        rcases accounted.fresh task member with ⟨within, notQueued⟩
        rw [length, queue, List.mem_append, List.mem_singleton]
        refine ⟨Nat.lt_succ_of_lt within, ?_⟩
        rintro (before | last)
        · exact notQueued before
        · exact Nat.ne_of_lt within last
  | took task queue progress length _ entry =>
      have nodup := tidy.queue_nodup
      rw [queue, List.nodup_cons] at nodup
      have queued : task ∈ executor.workQueue := by
        rw [queue]
        exact List.mem_cons_self
      rw [entry]
      constructor
      · exact ((progress.append_left _).trans List.perm_middle).trans (accounted.marked.cons task)
      · apply List.nodup_cons.2
        refine ⟨?_, accounted.once⟩
        intro member
        exact (accounted.fresh task member).2 queued
      · intro other member
        rw [length]
        rcases List.mem_cons.1 member with rfl | earlier
        · exact ⟨(tidy.queued other queued).lt, nodup.1⟩
        · rcases accounted.fresh other earlier with ⟨within, notQueued⟩
          refine ⟨within, ?_⟩
          intro later
          apply notQueued
          rw [queue]
          exact List.mem_cons_of_mem _ later
  | marked task progress queue length _ entry taken =>
      constructor
      · rw [entry, taken, List.cons_append]
        apply List.Perm.trans _ accounted.marked
        exact List.perm_middle.symm.trans (progress.symm.append_left ledger.marked)
      · rw [taken]
        exact accounted.once
      · rw [taken, length, queue]
        exact accounted.fresh

/-! ## Where accepted tasks are -/

/-- Every accepted task is queued, in progress, ended or cancelled. -/
def Settled (executor : DaemonThreadPoolExecutor) (ledger : ExecutorLedger) : Prop :=
  ∀ task < executor.futures.length, task ∈ executor.workQueue ∨ task ∈ executor.inProgress ∨
    task ∈ ledger.ended ∨ task ∈ ledger.cancelled

theorem Settled.step {ledger ledger' : ExecutorLedger} (noted : Noted executor ledger)
    (settled : Settled executor ledger) (movement : Movement executor next ledger ledger') :
    Settled next ledger' := by
  intro task within
  cases movement with
  | still progress queue length _ _ _ ended cancelled =>
      rw [length] at within
      rw [queue, progress, ended]
      rcases settled task within with queued | busy | past | revoked
      · exact Or.inl queued
      · exact Or.inr (Or.inl busy)
      · exact Or.inr (Or.inr (Or.inl past))
      · exact Or.inr (Or.inr (Or.inr (cancelled task revoked)))
  | accepted progress queue length _ same =>
      rw [length] at within
      rw [queue, progress, same, List.mem_append, List.mem_singleton]
      rcases Nat.lt_succ_iff_lt_or_eq.1 within with earlier | last
      · rcases settled task earlier with queued | elsewhere
        · exact Or.inl (Or.inl queued)
        · exact Or.inr elsewhere
      · exact Or.inl (Or.inr last)
  | took taken queue progress length _ entry =>
      rw [length] at within
      rw [progress.mem_iff, List.mem_cons, entry]
      rcases settled task within with queued | busy | elsewhere
      · rw [queue] at queued
        rcases List.mem_cons.1 queued with same | later
        · exact Or.inr (Or.inl (Or.inl same))
        · exact Or.inl later
      · exact Or.inr (Or.inl (Or.inr busy))
      · exact Or.inr (Or.inr elsewhere)
  | marked dropped progress queue length _ _ _ ended cancelled reason =>
      rw [length] at within
      rw [queue, cancelled]
      rcases settled task within with queued | busy | past | revoked
      · exact Or.inl queued
      · rcases List.mem_cons.1 (progress.mem_iff.1 busy) with rfl | remains
        · rcases reason with past | revoked
          · exact Or.inr (Or.inr (Or.inl past))
          · exact Or.inr (Or.inr (Or.inr ((noted.cancelled task).2 revoked)))
        · exact Or.inr (Or.inl remains)
      · exact Or.inr (Or.inr (Or.inl (ended task past)))
      · exact Or.inr (Or.inr (Or.inr revoked))

/-! ## Threads and the shutdown flag -/

/-- The registered threads are no more than the executor may have. -/
def Crewed (maxWorkers : Nat) (executor : DaemonThreadPoolExecutor) : Prop :=
  executor.maxWorkers = maxWorkers ∧ executor.threads.length ≤ maxWorkers

theorem Crewed.step {maxWorkers : Nat} (crewed : Crewed maxWorkers executor)
    (stepped : StepCase executor event next) : Crewed maxWorkers next := by
  cases stepped with
  | spawned isOpen room =>
      refine ⟨crewed.1, ?_⟩
      rw [crewed.1] at room
      show (executor.threads ++ [executor.workers.length]).length ≤ maxWorkers
      rw [List.length_append]
      exact room
  | left worker phase =>
      refine ⟨crewed.1, ?_⟩
      exact (List.length_erase_le (l := executor.threads)).trans crewed.2
  | refused | accepted | took | foundEmpty | stayed | broke | claimed | skipped | choked
  | finished | died | cancelled | notCancelled | shutdown | joined => exact crewed

/-- A shut down executor stays so and accepts nothing. -/
theorem closed_step (closed : executor.isShutdown = true)
    (stepped : StepCase executor event next) :
    next.isShutdown = true ∧ next.futures.length = executor.futures.length := by
  cases stepped with
  | accepted isOpen | spawned isOpen => cases closed.symm.trans isOpen
  | claimed | skipped | finished | cancelled => exact ⟨closed, length_setFuture _ _ _⟩
  | shutdown => exact ⟨rfl, rfl⟩
  | refused | took | foundEmpty | stayed | broke | choked | died | left | notCancelled | joined =>
      exact ⟨closed, rfl⟩

/-! ## Whole runs -/

/-- Everything the books keep, along a run. -/
structure Audited (maxWorkers : Nat) (state : DaemonThreadPoolExecutor × ExecutorLedger) :
    Prop where
  counted : state.1.Counted
  noted : state.1.Noted state.2
  called : state.1.Called state.2
  accounted : state.1.Accounted state.2
  settled : state.1.Settled state.2
  crewed : Crewed maxWorkers state.1

theorem audited_of_reachable {maxWorkers : Nat}
    {state : DaemonThreadPoolExecutor × ExecutorLedger}
    (reachable : (keeping maxWorkers).Reachable state) : Audited maxWorkers state := by
  apply reachable.invariant
  · constructor
    · rfl
    · exact ⟨List.nodup_nil, nofun, fun task => iff_of_false nofun (not_or.2 ⟨nofun, nofun⟩)⟩
    · exact ⟨nofun, nofun⟩
    · exact ⟨List.Perm.refl [], List.nodup_nil, nofun⟩
    · exact nofun
    · exact ⟨rfl, Nat.zero_le _⟩
  · intro before event after reached audited stepped
    rcases Machine.recording_step.1 stepped with ⟨taken, recorded⟩
    have tidy := tidy_of_reachable (Machine.reachable_of_recording reached)
    have stepCase := stepCase_of_step taken
    have movement : Movement before.1 after.1 before.2 after.2 := by
      rw [recorded]
      exact movement_of_step tidy stepCase
    constructor
    · exact audited.counted.step movement
    · rw [recorded]
      exact audited.noted.step tidy stepCase
    · rw [recorded]
      exact audited.called.step stepCase
    · exact audited.accounted.step tidy movement
    · exact audited.settled.step audited.noted movement
    · exact audited.crewed.step stepCase

/-- The executor's books: each function is called at most once and none whose future was
cancelled before; what has ended was called; the counter is the number of tasks queued or
being processed; every item taken is in progress or was marked done once; and the threads are
no more than allowed. -/
structure Bookkept (maxWorkers : Nat) (state : DaemonThreadPoolExecutor × ExecutorLedger) :
    Prop where
  invokedOnce : state.2.invoked.Nodup
  cancelledNotInvoked : ∀ task ∈ state.2.cancelled, task ∉ state.2.invoked
  endedInvoked : ∀ task ∈ state.2.ended, task ∈ state.2.invoked
  counter : state.1.unfinishedTasks = (state.1.workQueue ++ state.1.inProgress).length
  eachOnce : (state.1.workQueue ++ state.1.inProgress).Nodup
  marked : (state.2.marked ++ state.1.inProgress).Perm state.2.taken
  takenOnce : state.2.taken.Nodup
  crew : state.1.threads.length ≤ maxWorkers

theorem bookkept_of_reachable {maxWorkers : Nat}
    {state : DaemonThreadPoolExecutor × ExecutorLedger}
    (reachable : (keeping maxWorkers).Reachable state) : Bookkept maxWorkers state := by
  have audited := audited_of_reachable reachable
  have tidy := tidy_of_reachable (Machine.reachable_of_recording reachable)
  constructor
  · exact audited.noted.once
  · intro task cancelled invoked
    exact (audited.noted.claimed task invoked).not_cancelled
      ((audited.noted.cancelled task).1 cancelled)
  · exact audited.called.ended
  · rw [List.length_append]
    exact audited.counted
  · apply List.nodup_append.2
    refine ⟨tidy.queue_nodup, tidy.inProgress_nodup, ?_⟩
    intro task queued other busy same
    rw [← same] at busy
    rcases mem_inProgress.1 busy with ⟨worker, has⟩
    exact tidy.apart worker task has queued
  · exact audited.accounted.marked
  · exact audited.accounted.once
  · exact audited.crewed.2

/-- A run from a shut down executor accepts no task. -/
theorem accepts_nothing {maxWorkers : Nat} {trace segment : List ExecutorEvent}
    {state next : DaemonThreadPoolExecutor × ExecutorLedger}
    (run : (keeping maxWorkers).exec trace = some state) (closed : state.1.isShutdown = true)
    (after : (keeping maxWorkers).exec (trace ++ segment) = some next) :
    next.1.futures.length = state.1.futures.length := by
  have always : (keeping maxWorkers).Throughout (fun _ => True) trace segment :=
    fun _ _ _ _ => trivial
  have related := always.related
    (fun earlier later => earlier.1.isShutdown = true →
      later.1.isShutdown = true ∧ later.1.futures.length = earlier.1.futures.length)
    (fun _ still => ⟨still, rfl⟩) ?_ ?_ run after
  · exact (related closed).2
  · intro first second third _ before behind still
    rcases before still with ⟨middle, same⟩
    rcases behind middle with ⟨last, sameAgain⟩
    exact ⟨last, sameAgain.trans same⟩
  · intro _ _ _ _ _ _ _ stepped _ still
    exact closed_step still (stepCase_of_step (Machine.recording_step.1 stepped).1)

/-- Where a join returns, every accepted task has ended or was cancelled. -/
theorem joined_of_settled {maxWorkers : Nat}
    {state next : DaemonThreadPoolExecutor × ExecutorLedger}
    (reachable : (keeping maxWorkers).Reachable state)
    (stepped : (keeping maxWorkers).step state .joinReturns = some next) :
    ∀ task < next.1.futures.length, task ∈ next.2.ended ∨ task ∈ next.2.cancelled := by
  have audited := audited_of_reachable reachable
  rcases Machine.recording_step.1 stepped with ⟨taken, recorded⟩
  rcases Option.ite_none_right_eq_some.1 taken with ⟨⟨_, allDone⟩, same⟩
  have sameLedger : next.2 = state.2 := recorded
  have nothing := audited.counted
  rw [Counted, allDone] at nothing
  have emptyQueue := List.length_eq_zero_iff.1 (Nat.eq_zero_of_add_eq_zero_right nothing.symm)
  have idle := List.length_eq_zero_iff.1 (Nat.eq_zero_of_add_eq_zero_left nothing.symm)
  intro task within
  rw [← Option.some.inj same] at within
  rw [sameLedger]
  rcases audited.settled task within with queued | busy | past
  · rw [emptyQueue] at queued
    cases queued
  · rw [idle] at busy
    cases busy
  · exact past

/-- Along every run the executor's books are right, nothing is accepted behind a shutdown, and
a join returns only when every task ever accepted has ended or was cancelled. -/
theorem bookkeeping (maxWorkers : Nat) {trace : List ExecutorEvent}
    {state : DaemonThreadPoolExecutor × ExecutorLedger}
    (run : (keeping maxWorkers).exec trace = some state) :
    Bookkept maxWorkers state ∧
    (state.1.isShutdown = true → ∀ segment next,
      (keeping maxWorkers).exec (trace ++ segment) = some next →
      next.1.futures.length = state.1.futures.length) ∧
    ∀ next, (keeping maxWorkers).step state .joinReturns = some next →
      ∀ task < next.1.futures.length, task ∈ next.2.ended ∨ task ∈ next.2.cancelled := by
  refine ⟨bookkept_of_reachable ⟨trace, run⟩, ?_, ?_⟩
  · intro closed segment next after
    exact accepts_nothing run closed after
  · intro next stepped
    exact joined_of_settled ⟨trace, run⟩ stepped

/-- One task is cancelled behind the back of its worker, the other leaves its worker by an
exception that is no `Exception`. -/
def roughRun : List ExecutorEvent :=
  [.submit, .submit, .get 0, .get 1, .cancel 1, .claim 0, .claim 1, .shutdown,
    .finish 0 (.raised (.baseException "SystemExit")), .joinReturns]

theorem bookkeeping_of_roughRun :
    ∃ state, (keeping 2).exec roughRun = some state ∧ Bookkept 2 state ∧
      ∀ task < state.1.futures.length, task ∈ state.2.ended ∨ task ∈ state.2.cancelled := by
  have runs : ((keeping 2).exec roughRun).isSome = true := by
    decide +kernel
  rcases Option.isSome_iff_exists.1 runs with ⟨state, run⟩
  have split : roughRun = roughRun.dropLast ++ [.joinReturns] := rfl
  rw [split] at run
  rcases Machine.exec_snoc_eq_some.1 run with ⟨before, reached, joined⟩
  exact ⟨state, run, (bookkeeping 2 run).1, (bookkeeping 2 reached).2.2 state joined⟩

end DaemonThreadPoolExecutor

end Pyzlc
