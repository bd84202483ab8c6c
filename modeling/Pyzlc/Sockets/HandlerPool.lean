import Pyzlc.Foundation.Simulation
import Pyzlc.Nodes.ExecutorLedger
import Pyzlc.Sockets.ServiceHandler
import Pyzlc.Sockets.ServiceReplies

/-!
# Handlers in worker threads

The service loop submits a handler to the executor and awaits it for two seconds.  Meanwhile
requests arrive, services are registered, the manager may be stopped, and the workers run what
else was submitted.  To its clients the loop is still the one that serves a request in one step,
at the moment its wait ends.
-/

namespace Pyzlc

open Foundation

/-- The two seconds are over. -/
def HandlerOutcome.timeout : HandlerOutcome :=
  .raised .timeoutError PyError.isException_timeoutError

namespace ServiceManager

variable {κ : Type}

/-! ## The loop in two parts -/

/-- The `try` block of `service_loop` up to the call of `_handle_request`. -/
def takeRequest : Action PyError (ServiceManager κ) (Option (Text × Bytes)) := do
  let manager ← get
  if manager.resSocket.poll then
    let frames ← onSocket RepSocket.recvMultipart
    let pair ← orRaise (unpackPair frames)
    let serviceName ← orRaise (decodeUtf8 pair.1)
    return some (serviceName, pair.2)
  else return none

/-- What `_handle_request` makes of the end of its wait. -/
def conclude (outcome : HandlerOutcome) (manager : ServiceManager κ) :
    Except PyError (Bytes × Bytes) :=
  match outcome with
  | .value result => .ok (ResponseStatus.success.encode, result.getD [])
  | .cancelled =>
      if manager.running then .ok (ResponseStatus.unknownError.encode, [])
      else .error .cancelledError
  | .raised error _ =>
      match error with
      | .runtimeError =>
          if manager.running then .ok (ResponseStatus.unknownError.encode, [])
          else .error .runtimeError
      | .timeoutError => .ok (ResponseStatus.serviceTimeout.encode, [])
      | .extraData => .ok (ResponseStatus.invalidRequest.encode, [])
      | _ => .ok (ResponseStatus.unknownError.encode, [])

/-- The rest of the `try` block; `stop` has closed the socket. -/
def giveReply (handled : Except PyError (Bytes × Bytes)) :
    Action PyError (ServiceManager κ) Unit := do
  let reply ← orRaise handled
  let manager ← get
  if manager.running then onSocket (RepSocket.sendMultipart [reply.1, reply.2])
  else throw .zmqError

/-- The `except` clauses of `service_loop`. -/
def caught : EStateM.Result PyError (ServiceManager κ) Unit → ServiceManager κ
  | .ok _ next => next
  | .error error next =>
      if error.isException && next.running then next else { next with ended := true }

/-- The reply that `_handle_request` gives without a wait: there is no such service, or the
executor takes no more tasks. -/
def answerAtOnce (serviceName : Text) (manager : ServiceManager κ) : ServiceManager κ :=
  match manager.callableServices.lookup serviceName with
  | none => caught ((giveReply (.ok (ResponseStatus.noService.encode, []))).run manager)
  | some _ => caught ((giveReply (manager.conclude (.raised .runtimeError rfl))).run manager)

end ServiceManager

/-- A handler that was submitted with its request. -/
structure WorkItem (κ : Type) where
  task : TaskId
  service : κ
  request : Bytes

/-- How the function of a task ends that calls a handler. -/
def TaskOutcome.ofResult : Except PyError Bytes → TaskOutcome
  | .ok _ => .returned
  | .error error => .raised error

/-- The service manager and its executor, the task it awaits, the work items of its requests, and
what their functions have brought. -/
structure HandlerPool (κ : Type) where
  manager : ServiceManager κ
  executor : DaemonThreadPoolExecutor
  awaited : Option TaskId
  items : List (WorkItem κ)
  results : List (TaskId × Except PyError Bytes)

inductive PoolEvent (κ : Type) where
  | arrives (frames : List Bytes)
  | registerService (serviceName : Text) (service : κ)
  | stop
  /-- The loop from its head to its head, or to the wait for a handler. -/
  | takes
  /-- The wait ends because the future is done. -/
  | resumes
  | timesOut
  /-- The wait ends because the task of the loop was cancelled. -/
  | interrupted
  /-- The function of a request ends. -/
  | handlerEnds (worker : WorkerId) (result : Except PyError Bytes)
  /-- A step of the executor that no request is the reason of. -/
  | executor (event : ExecutorEvent)

namespace HandlerPool

open ServiceManager

variable {κ : Type}

/-- The tasks of the requests. -/
def tasks (pool : HandlerPool κ) : List TaskId := pool.items.map WorkItem.task

/-- What the function of a task has brought. -/
def resultOf (task : TaskId) (pool : HandlerPool κ) : Option (Except PyError Bytes) :=
  (pool.results.find? fun entry => entry.1 = task).map Prod.snd

/-- The futures of requests are known to the loop alone, and their functions end as such. -/
def foreign (pool : HandlerPool κ) : ExecutorEvent → Bool
  | .finish worker _ =>
      match pool.executor.workers[worker]? with
      | some (.executing task) => task ∉ pool.tasks
      | _ => true
  | .cancel task => task ∉ pool.tasks
  | _ => true

/-- `wait_for(run_in_executor(service, request))` up to its wait. -/
def submitHandler (service : κ) (request : Bytes) (pool : HandlerPool κ) : HandlerPool κ :=
  { pool with
    executor := pool.executor.submit
    awaited := some pool.executor.futures.length
    items := pool.items ++
      [{ task := pool.executor.futures.length, service := service, request := request }] }

/-- The loop goes on from its head. -/
def takes (pool : HandlerPool κ) : HandlerPool κ :=
  if pool.manager.running then
    match takeRequest.run pool.manager with
    | .error error next => { pool with manager := caught (.error error next) }
    | .ok none next => { pool with manager := next }
    | .ok (some (serviceName, request)) next =>
        match next.callableServices.lookup serviceName with
        | some service =>
            if pool.executor.isShutdown then
              { pool with manager := next.answerAtOnce serviceName }
            else { pool with manager := next }.submitHandler service request
        | none => { pool with manager := next.answerAtOnce serviceName }
  else { pool with manager := { pool.manager with ended := true } }

/-- The loop goes on from the wait. -/
def resume (outcome : HandlerOutcome) (pool : HandlerPool κ) : HandlerPool κ :=
  { pool with
    manager := caught ((giveReply (pool.manager.conclude outcome)).run pool.manager)
    awaited := none }

/-- The wait is given up, and with it the future. -/
def giveUp (task : TaskId) (outcome : HandlerOutcome) (pool : HandlerPool κ) : HandlerPool κ :=
  { pool with executor := pool.executor.cancel task }.resume outcome

def step (pool : HandlerPool κ) : PoolEvent κ → Option (HandlerPool κ)
  | .arrives frames =>
      (pool.manager.step (.arrives frames)).map fun manager => { pool with manager := manager }
  | .registerService serviceName service =>
      (pool.manager.step (.registerService serviceName service)).map fun manager =>
        { pool with manager := manager }
  | .stop => (pool.manager.step .stop).map fun manager => { pool with manager := manager }
  | .takes => if pool.manager.ended ∨ pool.awaited.isSome then none else some pool.takes
  | .resumes => do
      let task ← pool.awaited
      let result ← pool.resultOf task
      match pool.executor.futures[task]? with
      | some (.finished _) => some (pool.resume (runInExecutor false result))
      | _ => none
  | .timesOut => pool.awaited.map fun task => pool.giveUp task .timeout
  | .interrupted => pool.awaited.map fun task => pool.giveUp task .cancelled
  | .handlerEnds worker result =>
      match pool.executor.workers[worker]? with
      | some (.executing task) =>
          if task ∈ pool.tasks then
            some { pool with
              executor := pool.executor.finish worker task (.ofResult result)
              results := pool.results ++ [(task, result)] }
          else none
      | _ => none
  | .executor event =>
      if pool.foreign event then
        (pool.executor.step event).map fun executor => { pool with executor := executor }
      else none

def init (maxWorkers : Nat) : HandlerPool κ where
  manager := .init
  executor := .init maxWorkers
  awaited := none
  items := []
  results := []

def machine (maxWorkers : Nat) : Machine (HandlerPool κ) (PoolEvent κ) where
  start := init maxWorkers
  step := step

/-! ## What a step can do -/

/-- What others do to the manager. -/
def outside : PoolEvent κ → Option (ServiceEvent κ)
  | .arrives frames => some (.arrives frames)
  | .registerService serviceName service => some (.registerService serviceName service)
  | .stop => some .stop
  | _ => none

/-- No task is accepted any more. -/
def refused : Answer κ := fun _ _ => .raised .runtimeError rfl

/-- The loop takes a request and waits, goes round without a wait, or ends its wait; or something
happens to the manager or to the executor alone. -/
inductive StepCase (pool : HandlerPool κ) : PoolEvent κ → HandlerPool κ → Prop where
  | outside (event : PoolEvent κ) (service : ServiceEvent κ) (manager : ServiceManager κ)
      (isOutside : outside event = some service)
      (stepped : pool.manager.step service = some manager) :
      StepCase pool event { pool with manager := manager }
  | waits (serviceName : Text) (request : Bytes) (service : κ) (next : ServiceManager κ)
      (looping : pool.manager.ended = false) (idle : pool.awaited = none)
      (running : pool.manager.running = true)
      (took : takeRequest.run pool.manager = .ok (some (serviceName, request)) next)
      (found : next.callableServices.lookup serviceName = some service)
      (isOpen : pool.executor.isShutdown = false) :
      StepCase pool .takes ({ pool with manager := next }.submitHandler service request)
  | passes (looping : pool.manager.ended = false) (idle : pool.awaited = none) :
      StepCase pool .takes { pool with manager := pool.manager.iterate refused }
  | resumed (task : TaskId) (result : Except PyError Bytes) (outcome : TaskOutcome)
      (awaits : pool.awaited = some task) (brought : pool.resultOf task = some result)
      (done : pool.executor.futures[task]? = some (.finished outcome)) :
      StepCase pool .resumes (pool.resume (runInExecutor false result))
  | timedOut (task : TaskId) (awaits : pool.awaited = some task) :
      StepCase pool .timesOut (pool.giveUp task .timeout)
  | interrupted (task : TaskId) (awaits : pool.awaited = some task) :
      StepCase pool .interrupted (pool.giveUp task .cancelled)
  | handlerEnded (worker : WorkerId) (task : TaskId) (result : Except PyError Bytes)
      (executing : pool.executor.workers[worker]? = some (.executing task))
      (listed : task ∈ pool.tasks) :
      StepCase pool (.handlerEnds worker result) { pool with
        executor := pool.executor.finish worker task (.ofResult result)
        results := pool.results ++ [(task, result)] }
  | elsewhere (event : ExecutorEvent) (executor : DaemonThreadPoolExecutor)
      (foreign : pool.foreign event = true) (stepped : pool.executor.step event = some executor) :
      StepCase pool (.executor event) { pool with executor := executor }

end HandlerPool

namespace ServiceManager

variable {κ : Type} {manager next : ServiceManager κ} {frames : List Bytes}
  {rest : List (List Bytes)}

theorem handleRequest_of_found {answer : Answer κ} {serviceName : Text} {request : Bytes}
    {service : κ} (found : manager.callableServices.lookup serviceName = some service) :
    manager.handleRequest answer serviceName request =
      manager.conclude (answer service request) := by
  rw [handleRequest, found]
  rfl

theorem handleRequest_of_missing {answer : Answer κ} {serviceName : Text} {request : Bytes}
    (missing : manager.callableServices.lookup serviceName = none) :
    manager.handleRequest answer serviceName request =
      .ok (ResponseStatus.noService.encode, []) := by
  rw [handleRequest, missing]

theorem answerAtOnce_eq (serviceName : Text) (request : Bytes) (manager : ServiceManager κ) :
    manager.answerAtOnce serviceName =
      caught ((giveReply (manager.handleRequest HandlerPool.refused serviceName request)).run
        manager) := by
  rw [answerAtOnce]
  cases found : manager.callableServices.lookup serviceName with
  | none => rw [handleRequest_of_missing found]
  | some service => rw [handleRequest_of_found found]; rfl

/-! ## Taking a request -/

/-- What the loop has when it has received a request. -/
def received (frames : List Bytes) (rest : List (List Bytes)) (manager : ServiceManager κ) :
    ServiceManager κ :=
  { manager with resSocket := manager.resSocket.afterReceive frames rest }

theorem run_takeRequest_of_idle (silent : manager.resSocket.poll = false) :
    takeRequest.run manager = .ok none manager := by
  unfold takeRequest
  rw [Action.bind_of_ok (Action.run_get manager), silent]
  rfl

/-- A request that can be read is taken with its name, another one raises. -/
theorem run_takeRequest_of_waiting (ready : manager.resSocket.state = .ready)
    (waiting : manager.resSocket.inbox = frames :: rest) :
    takeRequest.run manager =
      match unpackPair frames with
      | .error error => .error error (manager.received frames rest)
      | .ok pair =>
          match decodeUtf8 pair.1 with
          | .error error => .error error (manager.received frames rest)
          | .ok serviceName => .ok (some (serviceName, pair.2)) (manager.received frames rest) := by
  unfold takeRequest
  rw [Action.bind_of_ok (Action.run_get manager), if_pos (RepSocket.poll_of_ready ready waiting),
    Action.bind_of_ok (run_receive ready waiting)]
  rcases unpacked : unpackPair frames with error | pair
  · exact Action.bind_of_error (run_orRaise_error rfl)
  · rw [Action.bind_of_ok (run_orRaise rfl)]
    rcases decoded : decodeUtf8 pair.1 with error | serviceName
    · simp only [decoded]
      exact Action.bind_of_error (run_orRaise_error rfl)
    · simp only [decoded]
      exact Action.bind_of_ok (run_orRaise rfl)

/-- The request is one that the loop has a service for. -/
def Known (frames : List Bytes) (manager : ServiceManager κ) : Prop :=
  ∃ pair serviceName, unpackPair frames = .ok pair ∧ decodeUtf8 pair.1 = .ok serviceName ∧
    (manager.callableServices.lookup serviceName).isSome = true

theorem Known.registered (known : manager.Known frames) (serviceName : Text) (service : κ) :
    Known frames { manager with
      callableServices := Dict.set manager.callableServices serviceName service } := by
  rcases known with ⟨pair, name, unpacked, decoded, found⟩
  refine ⟨pair, name, unpacked, decoded, ?_⟩
  rw [Dict.lookup_set]
  split
  next => rfl
  next => exact found

theorem waiting_of_poll {socket : RepSocket} (heard : socket.poll = true) :
    socket.state = .ready ∧ ∃ frames rest, socket.inbox = frames :: rest := by
  rw [RepSocket.poll, Bool.and_eq_true, decide_eq_true_eq] at heard
  refine ⟨heard.1, ?_⟩
  cases waiting : socket.inbox with
  | nil =>
      rw [waiting] at heard
      cases heard.2
  | cons frames rest => exact ⟨frames, rest, rfl⟩

/-- What is taken was waiting. -/
theorem waiting_of_takeRequest {serviceName : Text} {request : Bytes}
    (took : takeRequest.run manager = .ok (some (serviceName, request)) next) :
    ∃ frames rest pair, manager.resSocket.state = .ready ∧
      manager.resSocket.inbox = frames :: rest ∧ next = manager.received frames rest ∧
      unpackPair frames = .ok pair ∧ decodeUtf8 pair.1 = .ok serviceName ∧ pair.2 = request := by
  cases heard : manager.resSocket.poll with
  | false =>
      rw [run_takeRequest_of_idle heard] at took
      cases took
  | true =>
      rcases waiting_of_poll heard with ⟨ready, frames, rest, waiting⟩
      rw [run_takeRequest_of_waiting ready waiting] at took
      rcases unpacked : unpackPair frames with error | pair
      · simp only [unpacked] at took
        cases took
      · rcases decoded : decodeUtf8 pair.1 with error | found
        · simp only [unpacked, decoded] at took
          cases took
        · simp only [unpacked, decoded] at took
          cases took
          exact ⟨frames, rest, pair, ready, waiting, rfl, unpacked, decoded, rfl⟩

/-! ## Giving a reply -/

theorem run_giveReply (running : manager.running = true) (reply : Bytes × Bytes) :
    (giveReply (.ok reply)).run (manager.received frames rest) =
      .ok ⟨⟩ { manager with
        resSocket := manager.resSocket.afterReply frames rest [reply.1, reply.2] } := by
  unfold giveReply
  rw [Action.bind_of_ok (run_orRaise rfl), Action.bind_of_ok (Action.run_get _)]
  rw [if_pos (show (manager.received frames rest).running = true from running)]
  exact Action.run_zoom_of_ok (RepSocket.sendMultipart_afterReceive [reply.1, reply.2])

/-- The loop of a stopped manager ends at its first step. -/
theorem caught_giveReply_of_stopped (stopped : manager.running = false)
    (handled : Except PyError (Bytes × Bytes)) :
    caught ((giveReply handled).run manager) = { manager with ended := true } := by
  unfold giveReply
  rcases handled with error | reply
  · rw [Action.bind_of_error (run_orRaise_error rfl), caught, stopped, Bool.and_false]
    rfl
  · rw [Action.bind_of_ok (run_orRaise rfl), Action.bind_of_ok (Action.run_get _)]
    rw [if_neg (by rw [stopped]; exact Bool.false_ne_true)]
    show caught (.error _ manager) = _
    rw [caught, stopped, Bool.and_false]
    rfl

/-- The `try` block of an iteration is its two parts, one after the other. -/
theorem run_serveOne (running : manager.running = true) (answer : Answer κ) :
    (serveOne answer).run manager =
      match takeRequest.run manager with
      | .error error next => .error error next
      | .ok none next => .ok ⟨⟩ next
      | .ok (some taken) next =>
          (giveReply (next.handleRequest answer taken.1 taken.2)).run next := by
  cases heard : manager.resSocket.poll with
  | false =>
      rw [run_takeRequest_of_idle heard]
      unfold serveOne
      rw [Action.bind_of_ok (Action.run_get manager), heard]
      rfl
  | true =>
      rcases waiting_of_poll heard with ⟨ready, frames, rest, waiting⟩
      rw [run_takeRequest_of_waiting ready waiting, serveOne_of_waiting ready waiting]
      rcases unpacked : unpackPair frames with error | pair
      · simp only [replyTo_of_unpack_error unpacked]
        rfl
      · rcases decoded : decodeUtf8 pair.1 with error | serviceName
        · simp only [replyTo_of_decode_error unpacked decoded, decoded]
          rfl
        · have same : (manager.received frames rest).handleRequest answer serviceName pair.2 =
              manager.handleRequest answer serviceName pair.2 := rfl
          rcases handleRequest_of_running manager running answer serviceName pair.2 with
            ⟨reply, handled⟩
          simp only [replyTo_of_decode unpacked decoded, decoded, same, handled]
          exact (run_giveReply running reply).symm

theorem iterate_of_stopped (stopped : manager.running = false) (answer : Answer κ) :
    manager.iterate answer = { manager with ended := true } := by
  rw [iterate, if_neg (by rw [stopped]; exact Bool.false_ne_true)]

theorem iterate_of_running (running : manager.running = true) (answer : Answer κ) :
    manager.iterate answer =
      match takeRequest.run manager with
      | .error error next => caught (.error error next)
      | .ok none next => next
      | .ok (some taken) next =>
          caught ((giveReply (next.handleRequest answer taken.1 taken.2)).run next) := by
  have caughtServe : manager.iterate answer = caught ((serveOne answer).run manager) := by
    rw [iterate, if_pos running]
    cases (serveOne answer).run manager with
    | ok _ next => rfl
    | error error next => rfl
  rw [caughtServe, run_serveOne running]
  rcases takeRequest.run manager with ⟨taken, next⟩ | ⟨error, next⟩
  · cases taken with
    | none => rfl
    | some taken => rfl
  · rfl

end ServiceManager

namespace HandlerPool

open ServiceManager

variable {κ : Type} {pool next : HandlerPool κ} {event : PoolEvent κ}

theorem mem_of_resultOf {task : TaskId} {result : Except PyError Bytes}
    (brought : pool.resultOf task = some result) : (task, result) ∈ pool.results := by
  rcases Option.map_eq_some_iff.1 brought with ⟨entry, found, rfl⟩
  have key := List.find?_some found
  rw [decide_eq_true_eq] at key
  rw [← key]
  exact List.mem_of_find?_eq_some found

theorem stepCase_takes (looping : pool.manager.ended = false) (idle : pool.awaited = none) :
    StepCase pool .takes pool.takes := by
  cases running : pool.manager.running with
  | false =>
      have stays : pool.takes = { pool with manager := pool.manager.iterate refused } := by
        rw [takes, iterate_of_stopped running,
          if_neg (by rw [running]; exact Bool.false_ne_true)]
      rw [stays]
      exact .passes looping idle
  | true =>
      have goes := iterate_of_running running (refused (κ := κ))
      rcases took : takeRequest.run pool.manager with ⟨taken, later⟩ | ⟨error, later⟩
      · cases taken with
        | none =>
            have stays : pool.takes =
                { pool with manager := pool.manager.iterate refused } := by
              rw [goes, takes, if_pos running, took]
            rw [stays]
            exact .passes looping idle
        | some taken =>
            rcases taken with ⟨serviceName, request⟩
            have atOnce : { pool with manager := later.answerAtOnce serviceName } =
                { pool with manager := pool.manager.iterate refused } := by
              rw [goes, took, answerAtOnce_eq serviceName request]
            cases found : later.callableServices.lookup serviceName with
            | none =>
                have stays : pool.takes =
                    { pool with manager := pool.manager.iterate refused } := by
                  rw [← atOnce, takes, if_pos running, took]
                  simp only [found]
                rw [stays]
                exact .passes looping idle
            | some service =>
                cases closed : pool.executor.isShutdown with
                | true =>
                    have stays : pool.takes =
                        { pool with manager := pool.manager.iterate refused } := by
                      rw [← atOnce, takes, if_pos running, took]
                      simp only [found, closed, if_true]
                    rw [stays]
                    exact .passes looping idle
                | false =>
                    have submits : pool.takes =
                        { pool with manager := later }.submitHandler service request := by
                      rw [takes, if_pos running, took]
                      simp only [found, closed, Bool.false_eq_true, if_false]
                    rw [submits]
                    exact .waits serviceName request service later looping idle running took
                      found closed
      · have stays : pool.takes = { pool with manager := pool.manager.iterate refused } := by
          rw [goes, takes, if_pos running, took]
        rw [stays]
        exact .passes looping idle

theorem stepCase_of_step (stepped : pool.step event = some next) : StepCase pool event next := by
  cases event with
  | arrives frames =>
      simp only [step, Option.map_eq_some_iff] at stepped
      rcases stepped with ⟨manager, served, rfl⟩
      exact .outside _ (.arrives frames) manager rfl served
  | registerService serviceName service =>
      simp only [step, Option.map_eq_some_iff] at stepped
      rcases stepped with ⟨manager, served, rfl⟩
      exact .outside _ (.registerService serviceName service) manager rfl served
  | stop =>
      simp only [step, Option.map_eq_some_iff] at stepped
      rcases stepped with ⟨manager, served, rfl⟩
      exact .outside _ .stop manager rfl served
  | takes =>
      rcases Option.ite_none_left_eq_some.1 stepped with ⟨able, same⟩
      cases same
      have looping : pool.manager.ended = false :=
        Bool.eq_false_iff.2 fun ended => able (Or.inl ended)
      have idle : pool.awaited = none :=
        Option.not_isSome_iff_eq_none.1 fun waits => able (Or.inr waits)
      exact stepCase_takes looping idle
  | resumes =>
      rcases Option.bind_eq_some_iff.1 stepped with ⟨task, awaits, rest⟩
      rcases Option.bind_eq_some_iff.1 rest with ⟨result, brought, ends⟩
      split at ends
      next outcome done =>
        cases ends
        exact .resumed task result outcome awaits brought done
      next => cases ends
  | timesOut =>
      simp only [step, Option.map_eq_some_iff] at stepped
      rcases stepped with ⟨task, awaits, rfl⟩
      exact .timedOut task awaits
  | interrupted =>
      simp only [step, Option.map_eq_some_iff] at stepped
      rcases stepped with ⟨task, awaits, rfl⟩
      exact .interrupted task awaits
  | handlerEnds worker result =>
      simp only [step] at stepped
      split at stepped
      next task executing =>
        rcases Option.ite_none_right_eq_some.1 stepped with ⟨listed, same⟩
        cases same
        exact .handlerEnded worker task result executing listed
      next => cases stepped
  | executor event =>
      rcases Option.ite_none_right_eq_some.1 stepped with ⟨foreign, rest⟩
      rcases Option.map_eq_some_iff.1 rest with ⟨executor, moved, rfl⟩
      exact .elsewhere event executor foreign moved

/-! ## The loop in one step -/

/-- How the pool stands to the loop that serves a request in one step: there is no request it waits
for, there is one that the other loop is about to take, or the manager was stopped while there
was one. -/
inductive Refines (pool : HandlerPool κ) (manager : ServiceManager κ) : Prop where
  | level (idle : pool.awaited = none) (same : pool.manager = manager)
  | waiting (frames : List Bytes) (rest : List (List Bytes))
      (awaits : pool.awaited.isSome = true) (looping : manager.ended = false)
      (takes : manager.Takes frames rest) (known : manager.Known frames)
      (ahead : pool.manager = manager.received frames rest)
  | stopped (frames : List Bytes) (rest : List (List Bytes))
      (halts : manager.ended = pool.awaited.isNone) (stopped : manager.running = false)
      (waiting : manager.resSocket.inbox = frames :: rest)
      (ahead : pool.manager = manager.received frames rest)

/-- What a step of the pool is to the loop that serves a request in one step. -/
def serviceActions (pool : HandlerPool κ) (event : PoolEvent κ) : List (ServiceEvent κ) :=
  match event with
  | .takes => if pool.takes.awaited.isSome then [] else [.iterate refused]
  | .resumes =>
      match pool.awaited.bind fun task => pool.resultOf task with
      | some result => [.iterate fun _ _ => runInExecutor false result]
      | none => []
  | .timesOut => [.iterate fun _ _ => .timeout]
  | .interrupted => [.iterate fun _ _ => .cancelled]
  | event => (outside event).toList

variable {manager : ServiceManager κ} {frames : List Bytes} {rest : List (List Bytes)}

theorem step_iterate (looping : manager.ended = false) (answer : Answer κ) :
    manager.step (.iterate answer) = some (manager.iterate answer) := by
  rw [ServiceManager.step, looping]
  rfl

theorem not_loop_of_outside {service : ServiceEvent κ}
    (isOutside : outside event = some service) :
    (∀ answer, service ≠ .iterate answer) ∧ ∀ index, service ≠ .comesFirst index := by
  constructor
  · rintro answer rfl
    cases event with
    | arrives | registerService | stop | takes | resumes | timesOut | interrupted | handlerEnds
    | executor => cases isOutside
  · rintro index rfl
    cases event with
    | arrives | registerService | stop | takes | resumes | timesOut | interrupted | handlerEnds
    | executor => cases isOutside

/-- What others do to the manager does not wait for the loop. -/
theorem Refines.outside (refines : pool.Refines manager) {service : ServiceEvent κ}
    (notLoop : (∀ answer, service ≠ .iterate answer) ∧ ∀ index, service ≠ .comesFirst index)
    {next : ServiceManager κ} (stepped : pool.manager.step service = some next) :
    ∃ later, manager.step service = some later ∧
      HandlerPool.Refines { pool with manager := next } later := by
  cases refines with
  | level idle same =>
      rw [same] at stepped
      exact ⟨next, stepped, .level idle rfl⟩
  | waiting frames rest awaits looping takes known ahead =>
      rw [ahead] at stepped
      cases service with
      | arrives more =>
          cases stepped
          refine ⟨_, rfl, .waiting frames (rest ++ [more]) awaits looping
            ⟨takes.running, takes.ready, ?_⟩ known rfl⟩
          exact congrArg (· ++ [more]) takes.waiting
      | registerService serviceName service =>
          cases stepped
          refine ⟨_, rfl, .waiting frames rest awaits looping
            ⟨takes.running, takes.ready, takes.waiting⟩ ?_ rfl⟩
          exact known.registered serviceName service
      | stop =>
          cases stepped
          refine ⟨_, rfl, .stopped frames rest ?_ rfl takes.waiting rfl⟩
          rw [← Option.not_isSome, awaits]
          exact looping
      | iterate answer => exact absurd rfl (notLoop.1 answer)
      | comesFirst index => exact absurd rfl (notLoop.2 index)
  | stopped frames rest halts stopped waiting ahead =>
      rw [ahead] at stepped
      cases service with
      | arrives more =>
          cases stepped
          exact ⟨_, rfl, .stopped frames (rest ++ [more]) halts stopped
            (congrArg (· ++ [more]) waiting) rfl⟩
      | registerService serviceName service =>
          cases stepped
          exact ⟨_, rfl, .stopped frames rest halts stopped waiting rfl⟩
      | stop =>
          cases stepped
          exact ⟨_, rfl, .stopped frames rest halts rfl waiting rfl⟩
      | iterate answer => exact absurd rfl (notLoop.1 answer)
      | comesFirst index => exact absurd rfl (notLoop.2 index)

/-- The loop begins to wait where the other one has the request before it. -/
theorem Refines.waits (refines : pool.Refines manager) (looping : pool.manager.ended = false)
    (idle : pool.awaited = none) (running : pool.manager.running = true) {serviceName : Text}
    {request : Bytes} {service : κ} {next : ServiceManager κ}
    (took : takeRequest.run pool.manager = .ok (some (serviceName, request)) next)
    (found : next.callableServices.lookup serviceName = some service) :
    ({ pool with manager := next }.submitHandler service request).Refines manager := by
  have same : pool.manager = manager := by
    cases refines with
    | level _ same => exact same
    | waiting _ _ awaits =>
        rw [idle] at awaits
        cases awaits
    | stopped _ _ halts _ _ ahead =>
        rw [ahead] at looping
        rw [idle, show manager.ended = false from looping] at halts
        cases halts
  rw [same] at looping running took
  rcases waiting_of_takeRequest took with
    ⟨frames, rest, pair, ready, waiting, rfl, unpacked, decoded, _⟩
  refine .waiting frames rest rfl looping ⟨running, ready, waiting⟩ ?_ rfl
  exact ⟨pair, serviceName, unpacked, decoded, Option.isSome_iff_exists.2 ⟨service, found⟩⟩

/-- What workers do does not concern the loop. -/
theorem Refines.working (refines : pool.Refines manager) (same : next.manager = pool.manager)
    (awaits : next.awaited = pool.awaited) : next.Refines manager := by
  cases refines with
  | level idle level => exact .level (awaits.trans idle) (same.trans level)
  | waiting frames rest waits looping takes known ahead =>
      exact .waiting frames rest (awaits ▸ waits) looping takes known (same.trans ahead)
  | stopped frames rest halts stopped waiting ahead =>
      exact .stopped frames rest (awaits ▸ halts) stopped waiting (same.trans ahead)

/-- Where the wait ends with an outcome, the other loop serves the request with it. -/
theorem Refines.resumes (refines : pool.Refines manager) (awaits : pool.awaited.isSome = true)
    (outcome : HandlerOutcome) :
    ∃ later, manager.step (.iterate fun _ _ => outcome) = some later ∧
      (pool.resume outcome).Refines later := by
  cases refines with
  | level idle _ =>
      rw [idle] at awaits
      cases awaits
  | waiting frames rest _ looping takes known ahead =>
      refine ⟨_, step_iterate looping _, .level rfl ?_⟩
      rw [iterate_of_takes takes, resume, ahead]
      rcases known with ⟨pair, serviceName, unpacked, decoded, found⟩
      rcases Option.isSome_iff_exists.1 found with ⟨service, found⟩
      rcases handleRequest_of_running manager takes.running (fun _ _ => outcome) serviceName pair.2
        with ⟨reply, handled⟩
      have replied : manager.replyTo (fun _ _ => outcome) frames = .ok reply :=
        (replyTo_of_decode unpacked decoded).trans handled
      rw [handleRequest_of_found found] at handled
      have concluded : (manager.received frames rest).conclude outcome = .ok reply := handled
      rw [concluded, run_giveReply takes.running]
      show { manager with resSocket := _ } = { manager with resSocket := _ }
      rw [socketAfter, transcript, replied]
      rfl
  | stopped frames rest halts stopped waiting ahead =>
      have looping : manager.ended = false := by
        rw [halts, ← Option.not_isSome, awaits]
        rfl
      have halted : (manager.received frames rest).running = false := stopped
      refine ⟨_, (step_iterate looping _).trans (congrArg some (iterate_of_stopped stopped _)),
        .stopped frames rest rfl stopped waiting ?_⟩
      rw [resume, ahead, caught_giveReply_of_stopped halted]
      rfl

/-- Giving a future up is no matter of the loop. -/
theorem Refines.givesUp (refines : pool.Refines manager) {task : TaskId}
    (awaits : pool.awaited = some task) (outcome : HandlerOutcome) :
    ∃ later, manager.step (.iterate fun _ _ => outcome) = some later ∧
      (pool.giveUp task outcome).Refines later := by
  have still : HandlerPool.Refines { pool with executor := pool.executor.cancel task } manager :=
    refines.working rfl rfl
  exact still.resumes (by rw [show _ = some task from awaits]; rfl) outcome

theorem takes_of_step (stepped : pool.step .takes = some next) : pool.takes = next :=
  Option.some.inj (Option.ite_none_left_eq_some.1 stepped).2

theorem Refines.step (refines : pool.Refines manager) (stepped : pool.step event = some next) :
    ∃ later, ServiceManager.machine.execFrom manager (pool.serviceActions event) = some later ∧
      next.Refines later := by
  cases stepCase_of_step stepped with
  | outside event service _ isOutside served =>
      have actions : pool.serviceActions event = [service] := by
        cases event with
        | arrives | registerService | stop =>
            cases isOutside
            rfl
        | takes | resumes | timesOut | interrupted | handlerEnds | executor => cases isOutside
      rw [actions, Machine.execFrom_singleton]
      exact refines.outside (not_loop_of_outside isOutside) served
  | waits serviceName request service taken looping idle running took found isOpen =>
      have actions : pool.serviceActions .takes = [] := by
        rw [serviceActions, takes_of_step stepped]
        rfl
      rw [actions]
      exact ⟨manager, rfl, refines.waits looping idle running took found⟩
  | passes looping idle =>
      have actions : pool.serviceActions .takes = [.iterate refused] := by
        rw [serviceActions, takes_of_step stepped]
        simp only [idle, Option.isSome_none, Bool.false_eq_true, if_false]
      rw [actions, Machine.execFrom_singleton]
      cases refines with
      | level _ same =>
          rw [same] at looping ⊢
          exact ⟨_, step_iterate looping _, .level idle rfl⟩
      | waiting _ _ awaits =>
          rw [idle] at awaits
          cases awaits
      | stopped _ _ halts _ _ ahead =>
          rw [ahead] at looping
          rw [idle, show manager.ended = false from looping] at halts
          cases halts
  | resumed task result outcome awaits brought done =>
      have actions : pool.serviceActions .resumes =
          [.iterate fun _ _ => runInExecutor false result] := by
        rw [serviceActions, awaits, Option.bind_some, brought]
      rw [actions, Machine.execFrom_singleton]
      exact refines.resumes (by rw [awaits]; rfl) _
  | timedOut task awaits | interrupted task awaits =>
      rw [serviceActions, Machine.execFrom_singleton]
      exact refines.givesUp awaits _
  | handlerEnded | elsewhere =>
      exact ⟨manager, rfl, refines.working rfl rfl⟩

/-- Every run of the loop whose handlers run in worker threads is one of the loop that serves a
request in one step: up to the request it waits for, and to one it waited for when the manager
was stopped, both have the same services, the same requests before them and the same history. -/
theorem exec_refines {maxWorkers : Nat} {trace : List (PoolEvent κ)}
    (run : (machine maxWorkers).exec trace = some pool) :
    ∃ manager : ServiceManager κ,
      ServiceManager.machine.exec ((machine maxWorkers).actionsAlong serviceActions
        (init maxWorkers) trace) = some manager ∧ pool.Refines manager :=
  Machine.exec_of_simulated (.level rfl rfl)
    (fun _ _ _ _ refines stepped => refines.step stepped) run

/-- One request is served while another one arrives; the handler of that one takes too long. -/
def slowRun : List (PoolEvent Unit) :=
  [.registerService "echo" (), .arrives [[101, 99, 104, 111], [7]], .takes, .executor (.get 0),
    .arrives [[101, 99, 104, 111], [8]], .executor (.claim 0), .handlerEnds 0 (.ok [7]), .resumes,
    .takes, .executor (.get 0), .executor (.claim 0), .timesOut]

theorem exec_refines_slowRun :
    ∃ (pool : HandlerPool Unit) (manager : ServiceManager Unit),
      (machine 1).exec slowRun = some pool ∧ pool.Refines manager ∧
        ServiceManager.machine.exec [.registerService "echo" (),
          .arrives [[101, 99, 104, 111], [7]], .arrives [[101, 99, 104, 111], [8]],
          .iterate fun _ _ => .value (some [7]),
          .iterate fun _ _ => .timeout] = some manager := by
  have runs : ((machine 1).exec slowRun).isSome = true := rfl
  rcases Option.isSome_iff_exists.1 runs with ⟨pool, run⟩
  rcases exec_refines run with ⟨manager, ran, refines⟩
  exact ⟨pool, manager, run, refines, ran⟩

end HandlerPool

end Pyzlc
