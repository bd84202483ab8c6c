import Mathlib.Algebra.GroupWithZero.Nat
import Pyzlc.Foundation.Inevitable
import Pyzlc.Nodes.ExecutorLedger
import Pyzlc.Nodes.ExecutorShutdown

/-!
# Futures resolved and workers kept

`_worker` sets the outcome of a function that returns or raises an `Exception`; any other
exception passes through the loop, leaves the future running and ends the thread, which
stays registered.  As long as every function returns or raises an `Exception`, the futures
of ended tasks are done, no worker is lost before the shutdown, and whatever is queued
will be run.
-/

namespace Pyzlc

open Foundation

/-- The steps of workers with a task to get to, whose functions end as they should; a
`get` that times out is not one of them. -/
def ExecutorEvent.AtWork : ExecutorEvent → Prop
  | .get _ | .testShutdown _ | .claim _ | .finish _ .returned => True
  | .finish _ (.raised error) => error.isException = true
  | .submit | .getTimesOut _ | .leave _ | .cancel _ | .shutdown | .joinReturns => False

/-- The steps a worker still has to make before it is back at an empty queue. -/
def WorkerPhase.load : WorkerPhase → Nat
  | .holding _ => 2
  | .timedOut | .executing _ => 1
  | .polling | .leaving | .exited | .died => 0

namespace DaemonThreadPoolExecutor

variable {executor next : DaemonThreadPoolExecutor} {event : ExecutorEvent} {worker : WorkerId}
  {task other : TaskId} {phase old : WorkerPhase}

/-! ## The work that is left -/

/-- What the workers have to do: an item on the queue is worth three steps. -/
def load (executor : DaemonThreadPoolExecutor) : Nat :=
  3 * executor.workQueue.length + (executor.workers.map WorkerPhase.load).sum

theorem load_moveTo (at_old : executor.workers[worker]? = some old) (phase : WorkerPhase) :
    (executor.moveTo worker phase).load + old.load = executor.load + phase.load := by
  rcases workers_split at_old phase with ⟨front, back, before, after⟩
  have queue : (executor.moveTo worker phase).workQueue = executor.workQueue := rfl
  simp only [load, queue, before, after, List.map_append, List.map_cons, List.sum_append,
    List.sum_cons]
  omega

theorem load_moveTo_lt (at_old : executor.workers[worker]? = some old)
    (lighter : phase.load < old.load) : (executor.moveTo worker phase).load < executor.load := by
  have balance := load_moveTo at_old phase
  omega

/-- An item that moves from the queue to a worker is nearer to its end. -/
theorem load_took {rest : List TaskId} (at_old : executor.workers[worker]? = some .polling)
    (queued : executor.workQueue = task :: rest) :
    ({ executor with workQueue := rest }.moveTo worker (.holding task)).load < executor.load := by
  have at_popped : ({ executor with workQueue := rest } :
      DaemonThreadPoolExecutor).workers[worker]? = some .polling := at_old
  have balance := load_moveTo at_popped (.holding task)
  have whole : executor.load =
      3 * (rest.length + 1) + (executor.workers.map WorkerPhase.load).sum := by
    rw [load, queued, List.length_cons]
  have shorter : ({ executor with workQueue := rest } : DaemonThreadPoolExecutor).load =
      3 * rest.length + (executor.workers.map WorkerPhase.load).sum := rfl
  simp only [WorkerPhase.load] at balance
  omega

/-! ## A waiting task is run -/

/-- Some worker has not left its loop. -/
def Manned (executor : DaemonThreadPoolExecutor) : Prop :=
  ∃ (worker : WorkerId) (phase : WorkerPhase),
    executor.workers[worker]? = some phase ∧ phase.Live

theorem manned_moveTo (at_old : executor.workers[worker]? = some old) (live : phase.Live) :
    (executor.moveTo worker phase).Manned := by
  refine ⟨worker, phase, ?_, live⟩
  rw [workers_moveTo at_old, if_pos rfl]

/-- The task is on the queue, or taken and not claimed yet. -/
def Unstarted (executor : DaemonThreadPoolExecutor) (task : TaskId) : Prop :=
  task ∈ executor.workQueue ∨ ∃ worker : WorkerId,
    executor.workers[worker]? = some (.holding task)

/-- A pending task of an open executor that still has workers. -/
structure Due (task : TaskId) (executor : DaemonThreadPoolExecutor) : Prop where
  tidy : executor.Tidy
  isOpen : executor.isShutdown = false
  manned : executor.Manned
  pending : executor.futures[task]? = some .pending
  place : executor.Unstarted task

/-- The function of the task is called, in whatever order the workers go on. -/
def WillRun (task : TaskId) (executor : DaemonThreadPoolExecutor) : Prop :=
  (machine executor.maxWorkers).Inevitable ExecutorEvent.AtWork
    (fun next => next.futures[task]? = some .running) executor

/-- A task that is held stays so when another worker, or one with another task, moves. -/
theorem place_moveTo (at_old : executor.workers[worker]? = some old)
    (different : old ≠ .holding task) (place : executor.Unstarted task) :
    (executor.moveTo worker phase).Unstarted task := by
  rcases place with queued | ⟨holder, found⟩
  · exact Or.inl queued
  · refine Or.inr ⟨holder, ?_⟩
    rw [workers_moveTo at_old, if_neg]
    · exact found
    · intro same
      rw [same, at_old] at found
      exact different (Option.some.inj found)

/-- A worker can go on as long as a task is due. -/
theorem Due.possible (due : executor.Due task) :
    ∃ event next, event.AtWork ∧ executor.step event = some next := by
  rcases due.place with queued | ⟨holder, found⟩
  · rcases due.manned with ⟨worker, phase, found, live⟩
    cases phase with
    | polling =>
        rcases List.exists_cons_of_ne_nil (List.ne_nil_of_mem queued) with ⟨head, rest, nonempty⟩
        refine ⟨.get worker, { executor with workQueue := rest }.moveTo worker (.holding head),
          trivial, ?_⟩
        simp only [step, found, nonempty]
    | timedOut =>
        refine ⟨.testShutdown worker, executor.moveTo worker .polling, trivial, ?_⟩
        simp only [step, found, due.isOpen]
        rfl
    | holding taken =>
        refine ⟨.claim worker, executor.claim worker taken, trivial, ?_⟩
        simp only [step, found]
    | executing running =>
        refine ⟨.finish worker .returned, executor.finish worker running .returned, trivial, ?_⟩
        simp only [step, found]
    | leaving | exited | died => cases live
  · refine ⟨.claim holder, executor.claim holder task, trivial, ?_⟩
    simp only [step, found]

/-- A pending future stays pending while those of other tasks change. -/
theorem pending_setFuture {other : TaskId} {before : FutureState}
    (known : executor.futures[other]? = some before) (future : FutureState)
    (different : task ≠ other) (pending : executor.futures[task]? = some .pending) :
    (executor.setFuture other future).futures[task]? = some .pending := by
  rw [futures_setFuture known, if_neg different]
  exact pending

/-- A worker that moves on with another task, whatever becomes of that one's future, leaves
a due task due and the work less. -/
theorem Due.moved {changed : DaemonThreadPoolExecutor} (due : executor.Due task)
    (tidy : (changed.moveTo worker phase).Tidy) (isOpen : changed.isShutdown = executor.isShutdown)
    (queue : changed.workQueue = executor.workQueue) (workers : changed.workers = executor.workers)
    (pending : changed.futures[task]? = some .pending)
    (at_old : executor.workers[worker]? = some old) (different : old ≠ .holding task)
    (live : phase.Live) (lighter : phase.load < old.load) :
    (changed.moveTo worker phase).Due task ∧
      (changed.moveTo worker phase).load < executor.load := by
  have at_changed : changed.workers[worker]? = some old := by
    rw [workers]
    exact at_old
  have place : changed.Unstarted task := by
    rw [Unstarted, queue, workers]
    exact due.place
  have less := load_moveTo_lt at_changed lighter
  have sameLoad : changed.load = executor.load := by
    rw [load, load, queue, workers]
  constructor
  · exact ⟨tidy, isOpen.trans due.isOpen, manned_moveTo at_changed live, pending,
      place_moveTo at_changed different place⟩
  · rw [← sameLoad]
    exact less

/-- Every step of the workers gets a due task nearer to its call. -/
theorem Due.closer (due : executor.Due task) (atWork : event.AtWork)
    (stepped : StepCase executor event next) :
    next.futures[task]? = some .running ∨ (next.Due task ∧ next.load < executor.load) := by
  have tidy := due.tidy.step stepped
  cases stepped with
  | refused | accepted | spawned | foundEmpty | left | cancelled | notCancelled | shutdown
  | joined => cases atWork
  | took worker head rest phase queued =>
      have at_popped : ({ executor with workQueue := rest } :
          DaemonThreadPoolExecutor).workers[worker]? = some .polling := phase
      refine Or.inr ⟨⟨tidy, due.isOpen, manned_moveTo at_popped trivial, due.pending, ?_⟩,
        load_took phase queued⟩
      rcases due.place with member | ⟨holder, found⟩
      · rw [queued] at member
        rcases List.mem_cons.1 member with rfl | later
        · refine Or.inr ⟨worker, ?_⟩
          rw [workers_moveTo at_popped, if_pos rfl]
        · exact Or.inl later
      · exact place_moveTo at_popped nofun (Or.inr ⟨holder, found⟩)
  | stayed worker phase =>
      right
      exact due.moved tidy rfl rfl rfl due.pending phase nofun trivial Nat.zero_lt_one
  | broke worker phase closed => cases due.isOpen.symm.trans closed
  | claimed worker claimed phase future =>
      by_cases same : task = claimed
      · left
        show (executor.setFuture claimed .running).futures[task]? = some .running
        rw [futures_setFuture future, if_pos same]
      · right
        have elsewhere : WorkerPhase.holding claimed ≠ .holding task := by
          intro held
          cases held
          exact same rfl
        have pending := pending_setFuture future .running same due.pending
        exact due.moved tidy rfl rfl rfl pending phase elsewhere trivial (Nat.lt_succ_self 1)
  | skipped worker skipped phase future =>
      have different : task ≠ skipped := by
        intro same
        rw [← same] at future
        cases due.pending.symm.trans future
      have elsewhere : WorkerPhase.holding skipped ≠ .holding task := by
        intro held
        cases held
        exact different rfl
      have pending := pending_setFuture future .cancelledAndNotified different due.pending
      right
      exact due.moved tidy rfl rfl rfl pending phase elsewhere trivial Nat.zero_lt_two
  | choked worker held phase notPending notCancelled =>
      exact (due.tidy.not_choked phase notPending notCancelled).elim
  | finished worker ended outcome phase =>
      have running := due.tidy.executing worker ended phase
      have different : task ≠ ended := by
        intro same
        rw [← same] at running
        cases due.pending.symm.trans running
      have pending := pending_setFuture running (.finished outcome) different due.pending
      right
      exact due.moved tidy rfl rfl rfl pending phase nofun trivial Nat.zero_lt_one
  | died worker ended error phase uncaught => cases uncaught.symm.trans atWork

theorem Due.willRun (due : executor.Due task) : executor.WillRun task := by
  apply Machine.inevitable_of_measure load _ _ due
  · intro state due
    exact due.possible
  · intro state event next due atWork stepped
    exact due.closer atWork (stepCase_of_step stepped)

/-! ## Workers before the shutdown -/

/-- An open executor: every spawned worker is registered and none has left its loop by
itself, and a task was accepted only with a worker spawned for it. -/
structure Staffed (maxWorkers : Nat) (executor : DaemonThreadPoolExecutor) : Prop where
  registered : executor.threads.length = executor.workers.length
  allowed : executor.maxWorkers = maxWorkers
  stays : ∀ phase ∈ executor.workers, phase ≠ .died → phase.Live
  spawned : 1 ≤ maxWorkers → 0 < executor.futures.length → 0 < executor.workers.length

/-- A worker goes on, and no task is accepted. -/
theorem Staffed.moved {maxWorkers : Nat} (staffed : Staffed maxWorkers executor)
    (workers : next.workers = executor.workers.set worker phase)
    (live : phase ≠ .died → phase.Live) (threads : next.threads = executor.threads)
    (futures : next.futures.length = executor.futures.length)
    (allowed : next.maxWorkers = executor.maxWorkers) : Staffed maxWorkers next := by
  have length : next.workers.length = executor.workers.length := by
    rw [workers, List.length_set]
  constructor
  · rw [threads, length]
    exact staffed.registered
  · exact allowed.trans staffed.allowed
  · intro found member alive
    rw [workers] at member
    rcases List.mem_or_eq_of_mem_set member with before | same
    · exact staffed.stays found before alive
    · rw [same] at alive ⊢
      exact live alive
  · rw [futures, length]
    exact staffed.spawned

theorem Staffed.step {maxWorkers : Nat} (staffed : Staffed maxWorkers executor)
    (stepped : StepCase executor event next) (isOpen : next.isShutdown = false) :
    Staffed maxWorkers next := by
  cases stepped with
  | refused | notCancelled | joined => exact staffed
  | shutdown => cases isOpen
  | accepted _ full =>
      refine ⟨staffed.registered, staffed.allowed, staffed.stays, ?_⟩
      intro positive _
      have crew : executor.maxWorkers ≤ executor.threads.length := Nat.le_of_not_lt full
      rw [staffed.registered, staffed.allowed] at crew
      exact Nat.lt_of_lt_of_le positive crew
  | spawned =>
      constructor
      · show (executor.threads ++ [_]).length = (executor.workers ++ [_]).length
        rw [List.length_append, List.length_append, staffed.registered]
        rfl
      · exact staffed.allowed
      · intro phase member alive
        rcases List.mem_append.1 member with before | last
        · exact staffed.stays phase before alive
        · rw [List.mem_singleton.1 last]
          trivial
      · intro _ _
        show 0 < (executor.workers ++ [_]).length
        rw [List.length_append]
        exact Nat.succ_pos _
  | took | foundEmpty | stayed => exact staffed.moved rfl (fun _ => trivial) rfl rfl rfl
  | broke worker _ closed => cases closed.symm.trans isOpen
  | claimed | skipped | finished =>
      exact staffed.moved rfl (fun _ => trivial) rfl (length_setFuture _ _ _) rfl
  | choked | died => exact staffed.moved rfl (fun alive => absurd rfl alive) rfl rfl rfl
  | left worker phase => cases staffed.stays _ (List.mem_of_getElem? phase) nofun
  | cancelled task =>
      refine ⟨staffed.registered, staffed.allowed, staffed.stays, ?_⟩
      rw [length_setFuture]
      exact staffed.spawned

theorem staffed_of_reachable {maxWorkers : Nat}
    (reachable : (machine maxWorkers).Reachable executor) :
    executor.isShutdown = false → Staffed maxWorkers executor := by
  apply reachable.invariant
  · intro _
    exact ⟨rfl, rfl, nofun, fun _ => id⟩
  · intro before event after _ staffed stepped isOpen
    have stepCase := stepCase_of_step stepped
    have wasOpen : before.isShutdown = false := by
      cases flag : before.isShutdown with
      | false => rfl
      | true => cases isOpen.symm.trans (closed_step flag stepCase).1
    exact (staffed wasOpen).step stepCase isOpen

/-! ## What a run of the pool keeps -/

/-- The futures of ended tasks are done, no worker was lost, and what waits is run. -/
structure Resolved (maxWorkers : Nat) (state : DaemonThreadPoolExecutor × ExecutorLedger) :
    Prop where
  resolved : ∀ task ∈ state.2.ended, ∃ outcome, state.1.futures[task]? = some (.finished outcome)
  survive : WorkerPhase.died ∉ state.1.workers
  serving : state.1.isShutdown = false → ∀ phase ∈ state.1.workers, phase.Live
  runs : 1 ≤ maxWorkers → state.1.isShutdown = false → ∀ task, state.1.Waiting task →
    state.1.WillRun task

/-- The function of a task returns or raises an `Exception`. -/
def EndsOrdinarily (_ : DaemonThreadPoolExecutor × ExecutorLedger) (event : ExecutorEvent) : Prop :=
  ∀ worker error, event = .finish worker (.raised error) → error.isException = true

theorem finished_of_step {outcome : TaskOutcome} (tidy : executor.Tidy)
    (finished : executor.futures[task]? = some (.finished outcome))
    (stepped : StepCase executor event next) :
    next.futures[task]? = some (.finished outcome) := by
  have elsewhere : ∀ {other : TaskId} {before after : FutureState},
      executor.futures[other]? = some before → before ≠ .finished outcome →
      (executor.setFuture other after).futures[task]? = some (.finished outcome) := by
    intro other before after known different
    rw [futures_setFuture known, if_neg]
    · exact finished
    · intro same
      rw [← same, finished] at known
      exact different (Option.some.inj known).symm
  cases stepped with
  | accepted | spawned =>
      exact (futures_enqueue_of_lt (List.getElem?_eq_some_iff.1 finished).1).trans finished
  | claimed worker other phase future => exact elsewhere future nofun
  | skipped worker other phase future => exact elsewhere future nofun
  | finished worker other outcome phase =>
      exact elsewhere (tidy.executing worker other phase) nofun
  | cancelled other future => exact elsewhere future nofun
  | refused | took | foundEmpty | stayed | broke | choked | died | left | notCancelled | shutdown
  | joined => exact finished

/-- The futures of ended tasks stay done. -/
theorem resolved_step {ledger : ExecutorLedger} (tidy : executor.Tidy)
    (resolved : ∀ task ∈ ledger.ended, ∃ outcome,
      executor.futures[task]? = some (.finished outcome))
    (ordinary : ∀ worker error, event = .finish worker (.raised error) → error.isException = true)
    (stepped : StepCase executor event next) :
    ∀ task ∈ (ledger.record executor event).ended, ∃ outcome,
      next.futures[task]? = some (.finished outcome) := by
  intro task member
  have earlier : task ∈ ledger.ended → ∃ outcome,
      next.futures[task]? = some (.finished outcome) := by
    intro before
    rcases resolved task before with ⟨outcome, finished⟩
    exact ⟨outcome, finished_of_step tidy finished stepped⟩
  cases stepped with
  | finished worker ended outcome phase =>
      simp only [ExecutorLedger.record, phase] at member
      rcases List.mem_cons.1 member with rfl | before
      · refine ⟨outcome, ?_⟩
        exact (futures_setFuture (tidy.executing worker task phase) task).trans (if_pos rfl)
      · exact earlier before
  | died worker ended error phase uncaught =>
      cases uncaught.symm.trans (ordinary worker error rfl)
  | took worker taken rest phase queued =>
      simp only [ExecutorLedger.record, phase, queued] at member
      exact earlier member
  | claimed worker taken phase future | skipped worker taken phase future =>
      simp only [ExecutorLedger.record, phase, future] at member
      exact earlier member
  | choked worker taken phase notPending notCancelled =>
      exact (tidy.not_choked phase notPending notCancelled).elim
  | cancelled taken future =>
      simp only [ExecutorLedger.record, future] at member
      exact earlier member
  | notCancelled taken future =>
      simp only [ExecutorLedger.record] at member
      exact earlier member
  | refused | accepted | spawned | foundEmpty | stayed | broke | left | shutdown | joined =>
      exact earlier member

/-- Only an exception that is no `Exception` ends a thread. -/
theorem survive_step (tidy : executor.Tidy) (survive : WorkerPhase.died ∉ executor.workers)
    (ordinary : ∀ worker error, event = .finish worker (.raised error) → error.isException = true)
    (stepped : StepCase executor event next) : WorkerPhase.died ∉ next.workers := by
  have moved : ∀ {worker : WorkerId} {phase : WorkerPhase}, phase ≠ .died →
      WorkerPhase.died ∉ executor.workers.set worker phase := by
    intro worker phase alive member
    rcases List.mem_or_eq_of_mem_set member with before | same
    · exact survive before
    · exact alive same.symm
  cases stepped with
  | spawned =>
      intro member
      rcases List.mem_append.1 member with before | last
      · exact survive before
      · cases List.mem_singleton.1 last
  | took | foundEmpty | stayed | broke | claimed | skipped | finished | left => exact moved nofun
  | choked worker task phase notPending notCancelled =>
      exact (tidy.not_choked phase notPending notCancelled).elim
  | died worker task error phase uncaught =>
      cases uncaught.symm.trans (ordinary worker error rfl)
  | refused | accepted | cancelled | notCancelled | shutdown | joined => exact survive

/-- A thread that a function's exception ends leaves the future of the task running. -/
theorem ordinary_of_resolved (ledger : ExecutorLedger) (tidy : executor.Tidy)
    (stepped : StepCase executor event next)
    (resolved : ∀ task ∈ (ledger.record executor event).ended, ∃ outcome,
      next.futures[task]? = some (.finished outcome)) :
    ∀ worker error, event = .finish worker (.raised error) → error.isException = true := by
  intro worker error same
  cases stepped with
  | finished found task outcome phase caught =>
      cases same
      exact caught error rfl
  | died found task uncaught phase =>
      simp only [ExecutorLedger.record, phase] at resolved
      rcases resolved task List.mem_cons_self with ⟨outcome, finished⟩
      cases (tidy.executing found task phase).symm.trans finished
  | refused | accepted | spawned | took | foundEmpty | stayed | broke | claimed | skipped | choked
  | left | cancelled | notCancelled | shutdown | joined => cases same

/-- With no worker lost, an open executor has workers for whatever waits. -/
theorem Resolved.of_survive {maxWorkers : Nat}
    {state : DaemonThreadPoolExecutor × ExecutorLedger}
    (reachable : (machine maxWorkers).Reachable state.1)
    (resolved : ∀ task ∈ state.2.ended, ∃ outcome,
      state.1.futures[task]? = some (.finished outcome))
    (survive : WorkerPhase.died ∉ state.1.workers) : Resolved maxWorkers state := by
  have serving : state.1.isShutdown = false → ∀ phase ∈ state.1.workers, phase.Live := by
    intro isOpen phase member
    apply (staffed_of_reachable reachable isOpen).stays phase member
    rintro rfl
    exact survive member
  refine ⟨resolved, survive, serving, ?_⟩
  intro positive isOpen task waiting
  have accepted : 0 < state.1.futures.length :=
    Nat.zero_lt_of_lt (List.getElem?_eq_some_iff.1 waiting.2).1
  have crew := (staffed_of_reachable reachable isOpen).spawned positive accepted
  have first : state.1.workers[0]? = some state.1.workers[0] := List.getElem?_eq_getElem crew
  have live := serving isOpen _ (List.getElem_mem crew)
  apply Due.willRun
  exact ⟨tidy_of_reachable reachable, isOpen, ⟨0, _, first, live⟩, waiting.2, Or.inl waiting.1⟩

/-- A step keeps everything resolved unless a function ends with another exception. -/
theorem resolved_step_iff {maxWorkers : Nat}
    {state after : DaemonThreadPoolExecutor × ExecutorLedger}
    (reachable : (keeping maxWorkers).Reachable state) (holds : Resolved maxWorkers state)
    (stepped : (keeping maxWorkers).step state event = some after) :
    Resolved maxWorkers after ↔ EndsOrdinarily state event := by
  rcases Machine.recording_step.1 stepped with ⟨taken, recorded⟩
  have reached := Machine.reachable_of_recording reachable
  have tidy := tidy_of_reachable reached
  have stepCase := stepCase_of_step taken
  constructor
  · intro keeps
    apply ordinary_of_resolved state.2 tidy stepCase
    rw [← recorded]
    exact keeps.resolved
  · intro ordinary
    apply Resolved.of_survive (reached.step taken)
    · rw [recorded]
      exact resolved_step tidy holds.resolved ordinary stepCase
    · exact survive_step tidy holds.survive ordinary stepCase

/-- Along a run, the futures of ended tasks are done, no worker is lost and what waits is
run, exactly if every function of the run returns or raises an `Exception`. -/
theorem resolved_iff_endsOrdinarily {maxWorkers : Nat} {trace : List ExecutorEvent}
    {state : DaemonThreadPoolExecutor × ExecutorLedger}
    (run : (keeping maxWorkers).exec trace = some state) :
    (keeping maxWorkers).StatesAlong (Resolved maxWorkers) trace ↔
      (keeping maxWorkers).StepsAlong EndsOrdinarily trace := by
  apply Machine.statesAlong_iff_stepsAlong _ _ run
  · apply Resolved.of_survive
    · exact ⟨[], rfl⟩
    · exact nofun
    · exact nofun
  · intro before event after reachable holds stepped
    exact resolved_step_iff reachable holds stepped

/-- One worker serves a function that raises and one that returns. -/
def mixedRun : List ExecutorEvent :=
  [.submit, .submit, .get 0, .claim 0, .finish 0 (.raised (.exception "ValueError")), .get 0,
    .claim 0, .finish 0 .returned]

theorem mixedRun_ordinary : (keeping 1).StepsAlong EndsOrdinarily mixedRun := by
  intro initial event state within _ worker error same
  have member : event ∈ mixedRun := within.subset (List.mem_append_right _ List.mem_cons_self)
  rw [same] at member
  simp only [mixedRun, List.mem_cons, reduceCtorEq, ExecutorEvent.finish.injEq,
    TaskOutcome.raised.injEq, List.not_mem_nil, false_or, or_false, and_false] at member
  rw [member.2]
  rfl

theorem resolved_along_mixedRun : (keeping 1).StatesAlong (Resolved 1) mixedRun := by
  have runs : ((keeping 1).exec mixedRun).isSome = true := by decide +kernel
  rcases Option.isSome_iff_exists.1 runs with ⟨state, run⟩
  exact (resolved_iff_endsOrdinarily run).2 mixedRun_ordinary

/-- A pool whose workers have all left their loops does not run what waits. -/
theorem not_willRun_of_unmanned (unmanned : ¬ executor.Manned)
    (notRunning : executor.futures[task]? ≠ some .running) : ¬ executor.WillRun task := by
  intro willRun
  cases willRun with
  | reached running => exact notRunning running
  | later possible =>
      rcases possible with ⟨event, next, atWork, stepped⟩
      apply unmanned
      cases stepCase_of_step stepped with
      | refused | accepted | spawned | foundEmpty | left | cancelled | notCancelled | shutdown
      | joined => cases atWork
      | took worker _ _ phase | stayed worker phase | broke worker phase
      | claimed worker _ phase | skipped worker _ phase | choked worker _ phase
      | finished worker _ _ phase | died worker _ _ phase => exact ⟨worker, _, phase, trivial⟩

/-- The only worker runs a function that exits, then a second task is submitted. -/
def exitingRun : List ExecutorEvent :=
  [.submit, .get 0, .claim 0, .finish 0 (.raised (.baseException "SystemExit")), .submit]

/-- The future of the first task stays running, and the second task is not run: the dead
thread is still registered, so no other is spawned. -/
theorem exit_loses_worker :
    ∃ state, (keeping 1).exec exitingRun = some state ∧
      (0 ∈ state.2.ended ∧ state.1.futures[0]? = some .running) ∧
      (state.1.Waiting 1 ∧ ¬ state.1.WillRun 1) ∧ ¬ Resolved 1 state := by
  refine ⟨_, rfl, ⟨?_, rfl⟩, ⟨⟨?_, rfl⟩, ?_⟩, ?_⟩
  · decide
  · decide
  · apply not_willRun_of_unmanned
    · intro manned
      rcases manned with ⟨worker, phase, found, live⟩
      match worker with
      | 0 =>
          cases found
          exact live
      | _ + 1 => cases found
    · decide
  · intro holds
    rcases holds.resolved 0 (by decide) with ⟨outcome, finished⟩
    cases finished

end DaemonThreadPoolExecutor

end Pyzlc
