import Pyzlc.Nodes.ExecutorQueue
import Pyzlc.Sockets.HandlerPool

/-!
# When handlers are called

A request that times out leaves its task behind.  If no worker had claimed it by then, the handler
is never called; if one had, the handler is being called for nobody.  So at any time at most one
request has a task that still can be claimed, however many have timed out, and workers whose
handlers do not return are lost to every later request.
-/

namespace Pyzlc

open Foundation

/-- The worker is in a function, or was left by an exception that is no `Exception`. -/
def WorkerPhase.occupied : WorkerPhase → Bool
  | .executing _ | .died => true
  | .polling | .timedOut | .holding _ | .leaving | .exited => false

namespace DaemonThreadPoolExecutor

variable {executor next : DaemonThreadPoolExecutor} {event : ExecutorEvent} {worker : WorkerId}
  {task : TaskId} {phase old : WorkerPhase} {maxWorkers : Nat}

/-! ## What becomes of a future -/

/-- The changes of a future in one step; a claim is noted. -/
inductive FutureMove (executor next : DaemonThreadPoolExecutor) (noted : ExecutorLedger)
    (task : TaskId) : Prop where
  | still (same : next.futures[task]? = executor.futures[task]?)
  | accepted (last : task = executor.futures.length)
      (pending : next.futures[task]? = some .pending)
  | claimed (running : next.futures[task]? = some .running) (called : task ∈ noted.invoked)
  | finished (running : executor.futures[task]? = some .running) (outcome : TaskOutcome)
      (done : next.futures[task]? = some (.finished outcome))
  | cancelled (cancelled : next.Cancelled task)

theorem futureMove_enqueue (noted : ExecutorLedger)
    (same : next.futures = executor.enqueue.futures) :
    FutureMove executor next noted task := by
  rcases Nat.lt_trichotomy task executor.futures.length with within | rfl | beyond
  · apply FutureMove.still
    rw [same, futures_enqueue_of_lt within]
  · apply FutureMove.accepted rfl
    rw [same]
    exact List.getElem?_concat_length
  · apply FutureMove.still
    have longer : executor.enqueue.futures.length = executor.futures.length + 1 :=
      List.length_append
    rw [same, List.getElem?_eq_none (Nat.le_of_lt beyond),
      List.getElem?_eq_none (longer ▸ beyond)]

theorem futureMove_of_step (tidy : executor.Tidy) (ledger : ExecutorLedger)
    (stepped : StepCase executor event next) (task : TaskId) :
    FutureMove executor next (ledger.record executor event) task := by
  cases stepped with
  | refused | foundEmpty | stayed | broke | left | notCancelled | shutdown | joined | took
  | choked | died => exact .still rfl
  | accepted => exact futureMove_enqueue _ rfl
  | spawned => exact futureMove_enqueue _ rfl
  | claimed worker claimed phase future =>
      simp only [ExecutorLedger.record, phase, future]
      have change : (executor.setFuture claimed .running).futures[task]? = _ :=
        futures_setFuture future task
      split at change
      next same =>
        rw [same] at change ⊢
        exact .claimed change List.mem_cons_self
      next => exact .still change
  | skipped worker skipped phase future =>
      have change : (executor.setFuture skipped .cancelledAndNotified).futures[task]? = _ :=
        futures_setFuture future task
      split at change
      next => exact .cancelled (Or.inr change)
      next => exact .still change
  | finished worker ended outcome phase =>
      have future := tidy.executing worker ended phase
      have change : (executor.setFuture ended (.finished outcome)).futures[task]? = _ :=
        futures_setFuture future task
      split at change
      next same => exact .finished (same ▸ future) outcome change
      next => exact .still change
  | cancelled other future =>
      have change : (executor.setFuture other .cancelled).futures[task]? = _ :=
        futures_setFuture future task
      split at change
      next => exact .cancelled (Or.inl change)
      next => exact .still change

/-- A future that is pending after a step was so before, or is new. -/
theorem pending_of_step (tidy : executor.Tidy) (stepped : executor.step event = some next)
    (pending : next.futures[task]? = some .pending) :
    executor.futures[task]? = some .pending ∨ task = executor.futures.length := by
  cases futureMove_of_step tidy .empty (stepCase_of_step stepped) task with
  | still same => exact Or.inl (same ▸ pending)
  | accepted last => exact Or.inr last
  | claimed running => cases pending.symm.trans running
  | finished _ outcome done => cases pending.symm.trans done
  | cancelled cancelled =>
      rcases cancelled with before | noticed
      · cases pending.symm.trans before
      · cases pending.symm.trans noticed

theorem length_futures_le (stepped : executor.step event = some next) :
    executor.futures.length ≤ next.futures.length := by
  have longer : executor.enqueue.futures.length = executor.futures.length + 1 :=
    List.length_append
  cases stepCase_of_step stepped with
  | accepted | spawned => exact longer ▸ Nat.le_succ _
  | claimed | skipped | finished | cancelled => exact (length_setFuture _ _ executor).ge
  | refused | took | foundEmpty | stayed | broke | choked | died | left | notCancelled | shutdown
  | joined => exact Nat.le_refl _

/-- Nothing is struck out of the books. -/
theorem mem_record (executor : DaemonThreadPoolExecutor) (event : ExecutorEvent)
    (ledger : ExecutorLedger) :
    ledger.invoked ⊆ (ledger.record executor event).invoked ∧
      ledger.ended ⊆ (ledger.record executor event).ended ∧
      ledger.cancelled ⊆ (ledger.record executor event).cancelled := by
  have refl : ledger.invoked ⊆ ledger.invoked ∧ ledger.ended ⊆ ledger.ended ∧
      ledger.cancelled ⊆ ledger.cancelled :=
    ⟨List.Subset.refl _, List.Subset.refl _, List.Subset.refl _⟩
  unfold ExecutorLedger.record
  split
  next => split <;> exact refl
  next =>
    split
    next =>
      split
      next => exact ⟨List.subset_cons_self _ _, refl.2⟩
      next => exact refl
      next => exact refl
    next => exact refl
  next =>
    split
    next => exact ⟨refl.1, List.subset_cons_self _ _, refl.2.2⟩
    next => exact refl
  next =>
    split
    next => exact ⟨refl.1, refl.2.1, List.subset_cons_self _ _⟩
    next => exact refl
  next => exact refl

/-- A function that is being called or was is in the books. -/
theorem invoked_of_claimed {state : DaemonThreadPoolExecutor × ExecutorLedger}
    (reachable : (keeping maxWorkers).Reachable state) :
    ∀ task, state.1.Claimed task → task ∈ state.2.invoked := by
  apply reachable.invariant
  · intro task claimed
    rcases claimed with running | ⟨outcome, finished⟩
    · cases running
    · cases finished
  · intro before event after reached noted stepped task claimed
    rcases Machine.recording_step.1 stepped with ⟨moved, recorded⟩
    have tidy := tidy_of_reachable (Machine.reachable_of_recording reached)
    have grows := (mem_record before.1 event before.2).1
    rw [recorded]
    cases futureMove_of_step tidy before.2 (stepCase_of_step moved) task with
    | still same =>
        rw [Claimed, same] at claimed
        exact grows (noted task claimed)
    | accepted last pending =>
        rcases claimed with running | ⟨outcome, finished⟩
        · cases pending.symm.trans running
        · cases pending.symm.trans finished
    | claimed _ called => exact called
    | finished running => exact grows (noted task (Or.inl running))
    | cancelled cancelled => exact absurd cancelled claimed.not_cancelled

/-! ## Workers that do not come back -/

/-- All the workers there may be are occupied. -/
def Occupied (executor : DaemonThreadPoolExecutor) : Prop :=
  executor.maxWorkers ≤ executor.workers.countP WorkerPhase.occupied

theorem occupied_present {phase : WorkerPhase} (busy : phase.occupied = true) :
    phase.present = true := by
  cases phase with
  | executing | died => rfl
  | polling | timedOut | holding | leaving | exited => cases busy

/-- No worker is left that could take a task, and none can be spawned. -/
theorem full_of_occupied (reachable : (machine maxWorkers).Reachable executor)
    (occupies : executor.Occupied) :
    executor.maxWorkers ≤ executor.threads.length ∧
      ∀ (worker : WorkerId) (phase : WorkerPhase), executor.workers[worker]? = some phase →
        phase.present = true → phase.occupied = true := by
  rcases enrolled_of_reachable reachable with ⟨enrolled, crewed⟩
  have fewer : ∀ workers : List WorkerPhase,
      workers.countP WorkerPhase.occupied ≤ workers.countP WorkerPhase.present := fun workers =>
    List.countP_mono_left fun phase _ busy => occupied_present busy
  unfold Occupied at occupies
  unfold Enrolled at enrolled
  refine ⟨occupies.trans ((fewer _).trans enrolled), ?_⟩
  intro worker phase found present
  rcases workers_split found phase with ⟨front, back, split, _⟩
  have room := crewed.2
  rw [← crewed.1] at room
  have before := fewer front
  have after := fewer back
  by_contra free
  simp only [split, List.countP_append, List.countP_cons, present, if_true, if_neg free]
    at enrolled occupies
  omega

/-- As long as no function ends, the workers stay where they are and call nothing. -/
theorem still_of_occupied (reachable : (machine maxWorkers).Reachable executor)
    (occupies : executor.Occupied) (stepped : StepCase executor event next)
    (stuck : ∀ worker outcome, event ≠ .finish worker outcome) :
    next.Occupied ∧
      ∀ ledger : ExecutorLedger, (ledger.record executor event).invoked = ledger.invoked := by
  rcases full_of_occupied reachable occupies with ⟨full, busy⟩
  cases stepped with
  | refused | accepted | shutdown | joined => exact ⟨occupies, fun _ => rfl⟩
  | spawned _ room => exact absurd room (Nat.not_lt.2 full)
  | took worker task rest phase | foundEmpty worker phase | stayed worker phase
  | broke worker phase | claimed worker task phase | skipped worker task phase
  | choked worker task phase | left worker phase => cases busy worker _ phase rfl
  | finished worker task outcome | died worker task error => exact absurd rfl (stuck _ _)
  | cancelled task future =>
      refine ⟨occupies, fun ledger => ?_⟩
      simp only [ExecutorLedger.record, future]
  | notCancelled task future =>
      refine ⟨occupies, fun ledger => ?_⟩
      simp only [ExecutorLedger.record]

end DaemonThreadPoolExecutor

/-- How the wait for the task of a request ended, and whether its function had been called. -/
structure Conclusion where
  task : TaskId
  outcome : HandlerOutcome
  begun : Bool

/-- The books of the executor, and the waits that have ended. -/
structure PoolLedger where
  books : ExecutorLedger
  concluded : List Conclusion

namespace HandlerPool

open ServiceManager

variable {κ : Type} {maxWorkers : Nat} {pool next : HandlerPool κ} {event : PoolEvent κ}
  {task : TaskId}

/-! ## The books of the pool -/

/-- What a step of the pool is to the executor. -/
def executorEvent (pool : HandlerPool κ) (event : PoolEvent κ) : Option ExecutorEvent :=
  match event with
  | .takes => if pool.takes.awaited.isSome then some .submit else none
  | .timesOut | .interrupted => pool.awaited.map .cancel
  | .handlerEnds worker result => some (.finish worker (.ofResult result))
  | .executor event => some event
  | _ => none

/-- The outcome with which a step ends the wait. -/
def waitEnds (pool : HandlerPool κ) : PoolEvent κ → Option HandlerOutcome
  | .resumes =>
      (pool.awaited.bind fun task => pool.resultOf task).map (runInExecutor false)
  | .timesOut => some .timeout
  | .interrupted => some .cancelled
  | _ => none

def conclusion (pool : HandlerPool κ) (event : PoolEvent κ) (books : ExecutorLedger) :
    Option Conclusion := do
  let task ← pool.awaited
  let outcome ← pool.waitEnds event
  some { task := task, outcome := outcome, begun := task ∈ books.invoked }

/-- The entries of one step. -/
def record (pool : HandlerPool κ) (event : PoolEvent κ) (ledger : PoolLedger) : PoolLedger where
  books :=
    match pool.executorEvent event with
    | some own => ledger.books.record pool.executor own
    | none => ledger.books
  concluded := ledger.concluded ++ (pool.conclusion event ledger.books).toList

/-- The runs of the pool, with their ledger. -/
def keeping (maxWorkers : Nat) : Machine (HandlerPool κ × PoolLedger) (PoolEvent κ) :=
  (machine maxWorkers).recording { books := .empty, concluded := [] } record

/-- What a step does to the executor, and whether a wait ends with it. -/
inductive ExecutorStep (pool : HandlerPool κ) (event : PoolEvent κ) (next : HandlerPool κ) :
    Prop where
  | moved (own : ExecutorEvent) (isOwn : pool.executorEvent event = some own)
      (stepped : pool.executor.step own = some next.executor)
  | still (noOwn : pool.executorEvent event = none) (same : next.executor = pool.executor)

theorem executorStep_of_step (stepped : pool.step event = some next) :
    ExecutorStep pool event next := by
  cases stepCase_of_step stepped with
  | outside event service manager isOutside =>
      refine .still ?_ rfl
      cases event with
      | arrives | registerService | stop => rfl
      | takes | resumes | timesOut | interrupted | handlerEnds | executor => cases isOutside
  | waits serviceName request service taken =>
      apply ExecutorStep.moved .submit _ rfl
      rw [executorEvent, takes_of_step stepped]
      rfl
  | passes looping idle =>
      refine .still ?_ rfl
      rw [executorEvent, takes_of_step stepped]
      simp only [idle, Option.isSome_none, Bool.false_eq_true, if_false]
  | resumed => exact .still rfl rfl
  | timedOut task awaits | interrupted task awaits =>
      apply ExecutorStep.moved (.cancel task) _ rfl
      rw [executorEvent, awaits]
      rfl
  | handlerEnded worker task result executing listed =>
      apply ExecutorStep.moved (.finish worker (.ofResult result)) rfl
      simp only [DaemonThreadPoolExecutor.step, executing]
  | elsewhere event executor foreign moved => exact .moved event rfl moved

/-- The executor of a run of the pool, with its books, is one of a run of the executor. -/
theorem reachable_books {state : HandlerPool κ × PoolLedger}
    (reachable : (keeping maxWorkers).Reachable state) :
    (DaemonThreadPoolExecutor.keeping maxWorkers).Reachable
      (state.1.executor, state.2.books) := by
  apply reachable.invariant
  · exact ⟨[], rfl⟩
  · intro before event after _ reached stepped
    rcases Machine.recording_step.1 stepped with ⟨moved, recorded⟩
    cases executorStep_of_step moved with
    | moved own isOwn taken =>
        have books : after.2.books = before.2.books.record before.1.executor own := by
          rw [recorded, record, isOwn]
        exact reached.step (Machine.recording_step.2 ⟨taken, books⟩)
    | still noOwn same =>
        rw [recorded, record, noOwn, same]
        exact reached

/-- Where the waits have ended: with what the function of the task has brought, late for a function
that was being called or had been, or early enough for it never to be called. -/
inductive Fits (pool : HandlerPool κ) (books : ExecutorLedger) (conclusion : Conclusion) :
    Prop where
  | brought (result : Except PyError Bytes) (listed : (conclusion.task, result) ∈ pool.results)
      (same : conclusion.outcome = runInExecutor false result) (begun : conclusion.begun = true)
  | late (gaveUp : conclusion.outcome = .timeout ∨
        conclusion.outcome = .cancelled)
      (begun : conclusion.begun = true) (called : conclusion.task ∈ books.invoked)
  | dropped (gaveUp : conclusion.outcome = .timeout ∨
        conclusion.outcome = .cancelled)
      (notBegun : conclusion.begun = false) (cancelled : conclusion.task ∈ books.cancelled)

/-- The waits end one after another, each before the next task is submitted; only the task that is
awaited can be pending; and results come from functions that have ended. -/
structure Sound (pool : HandlerPool κ) (ledger : PoolLedger) : Prop where
  served : ledger.concluded.map Conclusion.task ++ pool.awaited.toList = pool.tasks
  known : ∀ task ∈ pool.tasks, task < pool.executor.futures.length
  nodup : pool.tasks.Nodup
  settled : ∀ task ∈ pool.tasks, pool.executor.futures[task]? = some .pending →
    pool.awaited = some task
  brought : ∀ entry ∈ pool.results, entry.1 ∈ ledger.books.ended
  fits : ∀ conclusion ∈ ledger.concluded, Fits pool ledger.books conclusion

variable {ledger : PoolLedger} {books : ExecutorLedger}

theorem Fits.grows {conclusion : Conclusion} (fits : Fits pool books conclusion)
    {later : ExecutorLedger} (results : pool.results ⊆ next.results)
    (invoked : books.invoked ⊆ later.invoked) (cancelled : books.cancelled ⊆ later.cancelled) :
    Fits next later conclusion := by
  cases fits with
  | brought result listed same begun => exact .brought result (results listed) same begun
  | late gaveUp begun called => exact .late gaveUp begun (invoked called)
  | dropped gaveUp notBegun dropped => exact .dropped gaveUp notBegun (cancelled dropped)

theorem Sound.listed (sound : pool.Sound ledger) (awaits : pool.awaited = some task) :
    task ∈ pool.tasks := by
  rw [← sound.served, awaits]
  exact List.mem_append_right _ List.mem_cons_self

theorem conclusion_of_going (goesOn : pool.waitEnds event = none) :
    pool.conclusion event books = none := by
  rw [conclusion, goesOn]
  cases pool.awaited <;> rfl

/-- A step that is none of the executor and ends no wait. -/
theorem record_of_quiet (noOwn : pool.executorEvent event = none)
    (goesOn : pool.waitEnds event = none) : record pool event ledger = ledger := by
  have nothing : pool.conclusion event ledger.books = none := conclusion_of_going goesOn
  rw [record, noOwn, nothing, Option.toList_none, List.append_nil]

theorem record_of_working {own : ExecutorEvent} (isOwn : pool.executorEvent event = some own)
    (goesOn : pool.waitEnds event = none) :
    record pool event ledger =
      { ledger with books := ledger.books.record pool.executor own } := by
  have nothing : pool.conclusion event ledger.books = none := conclusion_of_going goesOn
  rw [record, isOwn, nothing, Option.toList_none, List.append_nil]

theorem Sound.quiet (sound : pool.Sound ledger) (executor : next.executor = pool.executor)
    (awaited : next.awaited = pool.awaited) (items : next.items = pool.items)
    (results : next.results = pool.results) : next.Sound ledger where
  served := by
    rw [awaited, tasks, items]
    exact sound.served
  known := by
    rw [tasks, items, executor]
    exact sound.known
  nodup := by
    rw [tasks, items]
    exact sound.nodup
  settled := by
    rw [tasks, items, executor, awaited]
    exact sound.settled
  brought := by
    rw [results]
    exact sound.brought
  fits := by
    intro conclusion listed
    exact (sound.fits conclusion listed).grows (results ▸ List.Subset.refl _)
      (List.Subset.refl _) (List.Subset.refl _)

/-- A request is taken where none is awaited. -/
theorem Sound.waits (sound : pool.Sound ledger) (idle : pool.awaited = none)
    (isOpen : pool.executor.isShutdown = false) (service : κ) (request : Bytes) :
    (pool.submitHandler service request).Sound ledger := by
  have longer : pool.executor.submit.futures = pool.executor.futures ++ [.pending] := by
    rw [DaemonThreadPoolExecutor.submit, isOpen]
    split
    next closed => cases closed
    next => split <;> rfl
  have more : (pool.submitHandler service request).tasks =
      pool.tasks ++ [pool.executor.futures.length] := List.map_append
  have fresh : pool.executor.futures.length ∉ pool.tasks :=
    fun listed => Nat.lt_irrefl _ (sound.known _ listed)
  constructor
  · have served := sound.served
    rw [idle, Option.toList_none, List.append_nil] at served
    rw [more, served]
    rfl
  · intro task listed
    show task < pool.executor.submit.futures.length
    rw [longer, List.length_append]
    rw [more] at listed
    rcases List.mem_append.1 listed with earlier | last
    · exact Nat.lt_succ_of_lt (sound.known task earlier)
    · rw [List.mem_singleton.1 last]
      exact Nat.lt_succ_self _
  · rw [more]
    exact List.nodup_append_comm.1 (List.nodup_cons.2 ⟨fresh, sound.nodup⟩)
  · intro task listed pending
    rw [more] at listed
    rcases List.mem_append.1 listed with earlier | last
    · have before : pool.executor.futures[task]? = some .pending := by
        rw [← List.getElem?_append_left (sound.known task earlier), ← longer]
        exact pending
      rw [sound.settled task earlier before] at idle
      cases idle
    · rw [List.mem_singleton.1 last]
      rfl
  · exact sound.brought
  · intro conclusion listed
    exact (sound.fits conclusion listed).grows (List.Subset.refl _) (List.Subset.refl _)
      (List.Subset.refl _)

/-- What the executor does leaves no request pending that was not. -/
theorem Sound.works (sound : pool.Sound ledger) (tidy : pool.executor.Tidy)
    {own : ExecutorEvent} (stepped : pool.executor.step own = some next.executor)
    (awaited : next.awaited = pool.awaited) (items : next.items = pool.items)
    (results : pool.results ⊆ next.results)
    (brought : ∀ entry ∈ next.results,
      entry.1 ∈ (ledger.books.record pool.executor own).ended) :
    next.Sound { ledger with books := ledger.books.record pool.executor own } where
  served := by
    rw [awaited, tasks, items]
    exact sound.served
  known := by
    intro task listed
    rw [tasks, items] at listed
    exact Nat.lt_of_lt_of_le (sound.known task listed)
      (DaemonThreadPoolExecutor.length_futures_le stepped)
  nodup := by
    rw [tasks, items]
    exact sound.nodup
  settled := by
    intro task listed pending
    rw [tasks, items] at listed
    rcases DaemonThreadPoolExecutor.pending_of_step tidy stepped pending with before | fresh
    · rw [awaited]
      exact sound.settled task listed before
    · rw [fresh] at listed
      exact absurd (sound.known _ listed) (Nat.lt_irrefl _)
  brought := brought
  fits := by
    have grows := DaemonThreadPoolExecutor.mem_record pool.executor own ledger.books
    intro conclusion listed
    exact (sound.fits conclusion listed).grows results grows.1 grows.2.2

/-- A wait ends. -/
theorem Sound.concludes (sound : pool.Sound ledger) (awaits : pool.awaited = some task)
    (notPending : pool.executor.futures[task]? ≠ some .pending) {outcome : HandlerOutcome}
    {begun : Bool}
    (fits : Fits pool ledger.books { task := task, outcome := outcome, begun := begun }) :
    (pool.resume outcome).Sound { ledger with
      concluded := ledger.concluded ++
        [{ task := task, outcome := outcome, begun := begun }] } where
  served := by
    have served := sound.served
    rw [awaits] at served
    rw [List.map_append]
    show _ ++ [task] ++ [] = pool.tasks
    rw [List.append_nil]
    exact served
  known := sound.known
  nodup := sound.nodup
  settled := by
    intro other listed pending
    have awaited := sound.settled other listed pending
    rw [awaits] at awaited
    cases awaited
    exact absurd pending notPending
  brought := sound.brought
  fits := by
    have kept : ∀ {earlier : Conclusion}, Fits pool ledger.books earlier →
        Fits (pool.resume outcome) ledger.books earlier := fun fits =>
      fits.grows (List.Subset.refl _) (List.Subset.refl _) (List.Subset.refl _)
    intro other listed
    rcases List.mem_append.1 listed with earlier | last
    · exact kept (sound.fits other earlier)
    · rw [List.mem_singleton.1 last]
      exact kept fits

theorem conclusion_of_ends (awaits : pool.awaited = some task) {outcome : HandlerOutcome}
    (ends : pool.waitEnds event = some outcome) :
    pool.conclusion event books =
      some { task := task, outcome := outcome, begun := task ∈ books.invoked } := by
  rw [conclusion, awaits, ends]
  rfl

/-- The function of a task that is given up was called, or it never will be. -/
theorem fits_of_givenUp
    (reachable : (DaemonThreadPoolExecutor.keeping maxWorkers).Reachable (pool.executor, books))
    (known : task < pool.executor.futures.length) {outcome : HandlerOutcome}
    (gaveUp : outcome = .timeout ∨ outcome = .cancelled) :
    Fits pool (books.record pool.executor (.cancel task))
      { task := task, outcome := outcome, begun := task ∈ books.invoked } := by
  by_cases called : task ∈ books.invoked
  · exact .late gaveUp (decide_eq_true called)
      ((DaemonThreadPoolExecutor.mem_record _ _ books).1 called)
  · apply Fits.dropped gaveUp (decide_eq_false called)
    have notClaimed : ¬ pool.executor.Claimed task := fun claimed =>
      called (DaemonThreadPoolExecutor.invoked_of_claimed reachable task claimed)
    have noted := (DaemonThreadPoolExecutor.audited_of_reachable reachable).noted.cancelled task
    have grows := (DaemonThreadPoolExecutor.mem_record pool.executor (.cancel task) books).2.2
    rcases List.getElem?_eq_some_iff.2 ⟨known, rfl⟩ with future
    generalize pool.executor.futures[task] = state at future
    cases state with
    | pending =>
        simp only [ExecutorLedger.record, future]
        exact List.mem_cons_self
    | running => exact absurd (Or.inl future) notClaimed
    | finished outcome => exact absurd (Or.inr ⟨outcome, future⟩) notClaimed
    | cancelled => exact grows (noted.2 (Or.inl future))
    | cancelledAndNotified => exact grows (noted.2 (Or.inr future))

theorem Sound.givesUp (sound : pool.Sound ledger)
    (reachable : (DaemonThreadPoolExecutor.keeping maxWorkers).Reachable
      (pool.executor, ledger.books))
    (awaits : pool.awaited = some task) {outcome : HandlerOutcome}
    (gaveUp : outcome = .timeout ∨ outcome = .cancelled)
    (isOwn : pool.executorEvent event = some (.cancel task))
    (ends : pool.waitEnds event = some outcome) :
    (pool.giveUp task outcome).Sound (record pool event ledger) := by
  have tidy := DaemonThreadPoolExecutor.tidy_of_reachable (Machine.reachable_of_recording reachable)
  have moves : pool.executor.step (.cancel task) = some (pool.executor.cancel task) := rfl
  have cancels : Sound { pool with executor := pool.executor.cancel task } _ :=
    sound.works tidy moves rfl rfl (List.Subset.refl _) fun entry listed =>
      (DaemonThreadPoolExecutor.mem_record _ _ ledger.books).2.1 (sound.brought entry listed)
  have notPending : (pool.executor.cancel task).futures[task]? ≠ some .pending := by
    unfold DaemonThreadPoolExecutor.cancel
    split
    next future =>
      rw [DaemonThreadPoolExecutor.futures_setFuture future, if_pos rfl]
      exact nofun
    next notPending => exact notPending
  rw [record, isOwn, conclusion_of_ends awaits ends]
  apply cancels.concludes awaits notPending
  exact (fits_of_givenUp reachable (sound.known task (sound.listed awaits)) gaveUp).grows
    (List.Subset.refl _) (List.Subset.refl _) (List.Subset.refl _)

theorem Sound.step (sound : pool.Sound ledger)
    (reachable : (DaemonThreadPoolExecutor.keeping maxWorkers).Reachable
      (pool.executor, ledger.books))
    (stepped : pool.step event = some next) : next.Sound (record pool event ledger) := by
  have tidy := DaemonThreadPoolExecutor.tidy_of_reachable (Machine.reachable_of_recording reachable)
  cases stepCase_of_step stepped with
  | outside event service manager isOutside =>
      have nothing : pool.executorEvent event = none ∧ pool.waitEnds event = none := by
        cases event with
        | arrives | registerService | stop => exact ⟨rfl, rfl⟩
        | takes | resumes | timesOut | interrupted | handlerEnds | executor => cases isOutside
      rw [record_of_quiet nothing.1 nothing.2]
      exact sound.quiet rfl rfl rfl rfl
  | passes looping idle =>
      have noOwn : pool.executorEvent .takes = none := by
        rw [executorEvent, takes_of_step stepped]
        simp only [idle, Option.isSome_none, Bool.false_eq_true, if_false]
      rw [record_of_quiet noOwn rfl]
      exact sound.quiet rfl rfl rfl rfl
  | waits serviceName request service taken looping idle running took found isOpen =>
      have isOwn : pool.executorEvent .takes = some .submit := by
        rw [executorEvent, takes_of_step stepped]
        rfl
      have same : record pool .takes ledger = ledger := by
        rw [record, isOwn, conclusion, idle]
        exact congrArg (PoolLedger.mk ledger.books) (List.append_nil _)
      rw [same]
      have still : Sound { pool with manager := taken } ledger := sound.quiet rfl rfl rfl rfl
      exact still.waits idle isOpen service request
  | resumed task result outcome awaits brought done =>
      have ends : pool.waitEnds .resumes = some (runInExecutor false result) := by
        rw [waitEnds, awaits, Option.bind_some, brought]
        rfl
      rw [record, show pool.executorEvent .resumes = none from rfl,
        conclusion_of_ends awaits ends]
      have listed := mem_of_resultOf brought
      have called := (DaemonThreadPoolExecutor.bookkept_of_reachable reachable).endedInvoked task
        (sound.brought _ listed)
      apply sound.concludes awaits
      · rw [done]
        exact nofun
      · exact .brought result listed rfl (decide_eq_true called)
  | timedOut task awaits =>
      exact sound.givesUp reachable awaits (Or.inl rfl) (by rw [executorEvent, awaits]; rfl) rfl
  | interrupted task awaits =>
      exact sound.givesUp reachable awaits (Or.inr rfl) (by rw [executorEvent, awaits]; rfl) rfl
  | handlerEnded worker task result executing listed =>
      have moves : pool.executor.step (.finish worker (.ofResult result)) =
          some (pool.executor.finish worker task (.ofResult result)) := by
        simp only [DaemonThreadPoolExecutor.step, executing]
      have brought : ∀ entry ∈ pool.results ++ [(task, result)], entry.1 ∈
          (ledger.books.record pool.executor (.finish worker (.ofResult result))).ended := by
        intro entry among
        rcases List.mem_append.1 among with earlier | last
        · exact (DaemonThreadPoolExecutor.mem_record _ _ ledger.books).2.1
            (sound.brought entry earlier)
        · rw [List.mem_singleton.1 last]
          simp only [ExecutorLedger.record, executing]
          exact List.mem_cons_self
      rw [record_of_working rfl rfl]
      exact sound.works tidy moves rfl rfl (List.subset_append_left _ _) brought
  | elsewhere own executor foreign moves =>
      rw [record_of_working rfl rfl]
      exact sound.works tidy moves rfl rfl (List.Subset.refl _) fun entry listed =>
        (DaemonThreadPoolExecutor.mem_record _ _ ledger.books).2.1 (sound.brought entry listed)

theorem sound_of_reachable {state : HandlerPool κ × PoolLedger}
    (reachable : (keeping maxWorkers).Reachable state) : state.1.Sound state.2 := by
  apply reachable.invariant
  · exact ⟨rfl, nofun, List.nodup_nil, nofun, nofun, nofun⟩
  · intro before event after reached sound stepped
    rcases Machine.recording_step.1 stepped with ⟨moved, recorded⟩
    rw [recorded]
    exact sound.step (reachable_books reached) moved

/-- What holds of the calls of handlers: none is called twice; the waits end in the order of the
requests, each with what its function has brought or given up; a function that was not called
when its wait ended is never called; and of the tasks in the queue only the awaited one can be
called for a request. -/
structure CallsKept (pool : HandlerPool κ) (ledger : PoolLedger) : Prop where
  once : ledger.books.invoked.Nodup
  served : ledger.concluded.map Conclusion.task ++ pool.awaited.toList = pool.tasks
  answered : ∀ conclusion ∈ ledger.concluded,
    (∃ result, (conclusion.task, result) ∈ pool.results ∧
      conclusion.outcome = runInExecutor false result ∧
      conclusion.task ∈ ledger.books.ended) ∨
    conclusion.outcome = .timeout ∨ conclusion.outcome = .cancelled
  called : ∀ conclusion ∈ ledger.concluded,
    (conclusion.begun = true ↔ conclusion.task ∈ ledger.books.invoked)
  backlog : ∀ task ∈ pool.executor.workQueue, task ∈ pool.tasks →
    pool.awaited = some task ∨ task ∈ ledger.books.cancelled

theorem callsKept_of_reachable {state : HandlerPool κ × PoolLedger}
    (reachable : (keeping maxWorkers).Reachable state) : state.1.CallsKept state.2 := by
  have sound := sound_of_reachable reachable
  have kept := reachable_books reachable
  have bookkept := DaemonThreadPoolExecutor.bookkept_of_reachable kept
  constructor
  · exact bookkept.invokedOnce
  · exact sound.served
  · intro conclusion listed
    cases sound.fits conclusion listed with
    | brought result among same =>
        exact Or.inl ⟨result, among, same, sound.brought _ among⟩
    | late gaveUp | dropped gaveUp => exact Or.inr gaveUp
  · intro conclusion listed
    cases sound.fits conclusion listed with
    | brought result among _ begun =>
        exact iff_of_true begun (bookkept.endedInvoked _ (sound.brought _ among))
    | late _ begun called => exact iff_of_true begun called
    | dropped _ notBegun cancelled =>
        apply iff_of_false
        · rw [notBegun]
          exact Bool.false_ne_true
        · exact bookkept.cancelledNotInvoked _ cancelled
  · intro task queued listed
    have tidy := DaemonThreadPoolExecutor.tidy_of_reachable (Machine.reachable_of_recording kept)
    rcases tidy.queued task queued with pending | cancelled
    · exact Or.inl (sound.settled task listed pending)
    · have noted := (DaemonThreadPoolExecutor.audited_of_reachable kept).noted
      exact Or.inr ((noted.cancelled task).2 (Or.inl cancelled))

/-- In every run: a handler is called at most once for a request, and never when its wait had
ended before. -/
theorem callsKept_of_run {trace : List (PoolEvent κ)} {state : HandlerPool κ × PoolLedger}
    (run : (keeping maxWorkers).exec trace = some state) : state.1.CallsKept state.2 :=
  callsKept_of_reachable ⟨trace, run⟩

/-- The only worker calls the handler of a request. -/
def callingRun : List (PoolEvent Unit) :=
  [.registerService "echo" (), .arrives [[101, 99, 104, 111], [7]], .takes, .executor (.get 0),
    .executor (.claim 0)]

/-- The request is given up, and so is the next one. -/
def givingUp : List (PoolEvent Unit) :=
  [.timesOut, .arrives [[101, 99, 104, 111], [8]], .takes, .timesOut]

/-- The worker comes back and finds the task of the second request. -/
def comingBack : List (PoolEvent Unit) :=
  [.handlerEnds 0 (.ok [7]), .executor (.get 0), .executor (.claim 0)]

theorem callsKept_of_run_comingBack :
    ∃ state, (keeping 1).exec (callingRun ++ givingUp ++ comingBack) = some state ∧
      state.1.CallsKept state.2 ∧ state.2.books.invoked = [0] ∧
      state.2.concluded.map (fun conclusion => (conclusion.task, conclusion.begun)) =
        [(0, true), (1, false)] := by
  have run : (keeping 1).exec (callingRun ++ givingUp ++ comingBack) = some _ := rfl
  exact ⟨_, run, callsKept_of_run run, rfl, rfl⟩

/-! ## Lost workers -/

/-- A function ends. -/
def frees : PoolEvent κ → Bool
  | .handlerEnds _ _ | .executor (.finish _ _) => true
  | _ => false

theorem frees_of_finish {worker : WorkerId} {outcome : TaskOutcome}
    (isOwn : pool.executorEvent event = some (.finish worker outcome)) : frees event = true := by
  cases event with
  | handlerEnds => rfl
  | executor own =>
      cases isOwn
      rfl
  | takes =>
      rw [executorEvent] at isOwn
      split at isOwn
      next => cases isOwn
      next => cases isOwn
  | timesOut | interrupted =>
      rcases Option.map_eq_some_iff.1 isOwn with ⟨task, _, other⟩
      cases other
  | arrives | registerService | stop | resumes => cases isOwn

/-- From where all workers are occupied, as long as no function ends, none is called. -/
theorem invoked_of_occupied {trace segment : List (PoolEvent κ)}
    {state later : HandlerPool κ × PoolLedger} (run : (keeping maxWorkers).exec trace = some state)
    (occupies : state.1.executor.Occupied) (stuck : ∀ event ∈ segment, frees event = false)
    (after : (keeping maxWorkers).exec (trace ++ segment) = some later) :
    later.2.books.invoked = state.2.books.invoked := by
  have always : (keeping (κ := κ) maxWorkers).Throughout (fun _ => True) trace segment :=
    fun _ _ _ _ => trivial
  have related := always.related
    (fun earlier later => earlier.1.executor.Occupied →
      later.1.executor.Occupied ∧ later.2.books.invoked = earlier.2.books.invoked)
    (fun _ still => ⟨still, rfl⟩) ?_ ?_ run after
  · exact (related occupies).2
  · intro first second third _ before behind still
    rcases before still with ⟨middle, same⟩
    rcases behind middle with ⟨last, sameAgain⟩
    exact ⟨last, sameAgain.trans same⟩
  · intro middle state event next within reached _ stepped _ still
    rcases Machine.recording_step.1 stepped with ⟨moved, recorded⟩
    have listed : event ∈ segment :=
      within.subset (List.mem_append_right _ List.mem_cons_self)
    have kept := Machine.reachable_of_recording (reachable_books ⟨_, reached⟩)
    rw [recorded, record]
    cases executorStep_of_step moved with
    | moved own isOwn taken =>
        rw [isOwn]
        have goesOn : ∀ worker outcome, own ≠ .finish worker outcome := by
          rintro worker outcome rfl
          have ends := frees_of_finish isOwn
          rw [stuck event listed] at ends
          cases ends
        rcases DaemonThreadPoolExecutor.still_of_occupied kept still
          (DaemonThreadPoolExecutor.stepCase_of_step taken) goesOn with ⟨later, called⟩
        exact ⟨later, called _⟩
    | still noOwn same =>
        rw [noOwn, same]
        exact ⟨still, rfl⟩

/-- What was concluded stays so. -/
theorem concluded_subset {trace segment : List (PoolEvent κ)}
    {state later : HandlerPool κ × PoolLedger} (run : (keeping maxWorkers).exec trace = some state)
    (after : (keeping maxWorkers).exec (trace ++ segment) = some later) :
    state.2.concluded ⊆ later.2.concluded := by
  have always : (keeping (κ := κ) maxWorkers).Throughout (fun _ => True) trace segment :=
    fun _ _ _ _ => trivial
  apply always.related (fun earlier later => earlier.2.concluded ⊆ later.2.concluded)
    (fun _ => List.Subset.refl _) _ _ run after
  · intro first second third _ before behind
    exact List.Subset.trans before behind
  · intro middle state event next _ _ _ stepped _
    rw [(Machine.recording_step.1 stepped).2]
    exact List.subset_append_left _ _

/-- Once all workers are occupied, and as long as no function ends, every request that is taken is
given up, whatever it asks for; and its handler is never called, not even when the workers come
back. -/
theorem abandoned_of_occupied {trace segment more : List (PoolEvent κ)}
    {state later final : HandlerPool κ × PoolLedger}
    (run : (keeping maxWorkers).exec trace = some state) (occupies : state.1.executor.Occupied)
    (stuck : ∀ event ∈ segment, frees event = false)
    (after : (keeping maxWorkers).exec (trace ++ segment) = some later)
    (atLast : (keeping maxWorkers).exec (trace ++ segment ++ more) = some final) :
    ∀ conclusion ∈ later.2.concluded, state.1.executor.futures.length ≤ conclusion.task →
      (conclusion.outcome = .timeout ∨ conclusion.outcome = .cancelled) ∧
        conclusion.task ∉ final.2.books.invoked := by
  intro conclusion listed fresh
  have calls := callsKept_of_reachable ⟨_, after⟩
  have uncalled : conclusion.task ∉ later.2.books.invoked := by
    rw [invoked_of_occupied run occupies stuck after]
    intro called
    have kept := reachable_books ⟨_, run⟩
    rcases (DaemonThreadPoolExecutor.audited_of_reachable kept).noted.claimed _ called with
      running | ⟨outcome, finished⟩
    · exact absurd (List.getElem?_eq_some_iff.1 running).1 (Nat.not_lt.2 fresh)
    · exact absurd (List.getElem?_eq_some_iff.1 finished).1 (Nat.not_lt.2 fresh)
  constructor
  · rcases calls.answered conclusion listed with ⟨result, _, _, ended⟩ | gaveUp
    · have kept := reachable_books ⟨_, after⟩
      exact absurd ((DaemonThreadPoolExecutor.bookkept_of_reachable kept).endedInvoked _ ended)
        uncalled
    · exact gaveUp
  · have stays := concluded_subset after atLast listed
    rw [← (callsKept_of_reachable ⟨_, atLast⟩).called conclusion stays,
      calls.called conclusion listed]
    exact uncalled

theorem abandoned_of_occupied_givingUp :
    ∃ later final : HandlerPool Unit × PoolLedger,
      (keeping 1).exec (callingRun ++ givingUp) = some later ∧
      (keeping 1).exec (callingRun ++ givingUp ++ comingBack) = some final ∧
      ∀ conclusion ∈ later.2.concluded, 1 ≤ conclusion.task →
        (conclusion.outcome = .timeout ∨ conclusion.outcome = .cancelled) ∧
          conclusion.task ∉ final.2.books.invoked := by
  have run : (keeping 1).exec callingRun = some _ := rfl
  have after : (keeping 1).exec (callingRun ++ givingUp) = some _ := rfl
  have atLast : (keeping 1).exec (callingRun ++ givingUp ++ comingBack) = some _ := rfl
  have stuck : ∀ event ∈ givingUp, frees event = false := by
    intro event listed
    simp only [givingUp, List.mem_cons, List.not_mem_nil, or_false] at listed
    rcases listed with rfl | rfl | rfl | rfl
    · rfl
    · rfl
    · rfl
    · rfl
  exact ⟨_, _, after, atLast, abandoned_of_occupied run (Nat.le_refl 1) stuck after atLast⟩

end HandlerPool

end Pyzlc
