import Pyzlc.Sockets.ServiceManager

/-!
# Lockstep of requests and replies

Between a receive and its send the loop unpacks two frames and decodes a name.  Both
can raise, the handler of the loop only logs, and the socket is left owing a reply it
never gets.  So the loop stays in lockstep exactly as long as every request it takes
has two frames and a name in UTF-8; everything after the decoding always replies.
-/

namespace Pyzlc

open Foundation

/-- Requests and two-frame replies in alternation, every request answered. -/
inductive Answered : List SocketEvent → Prop where
  | nil : Answered []
  | snoc {history : List SocketEvent} (answered : Answered history) (frames : List Bytes)
      (status result : Bytes) :
      Answered (history ++ [.received frames, .sent [status, result]])

/-- The request has two frames, and the first is the UTF-8 of a name. -/
def Serviceable (frames : List Bytes) : Prop :=
  ∃ nameBytes request serviceName,
    frames = [nameBytes, request] ∧ decodeUtf8 nameBytes = .ok serviceName

namespace RepSocket

variable {socket : RepSocket} {frames : List Bytes} {rest : List (List Bytes)}

/-- A socket that has just received a request. -/
def afterReceive (frames : List Bytes) (rest : List (List Bytes)) (socket : RepSocket) :
    RepSocket :=
  { state := .mustSend, inbox := rest, history := socket.history ++ [.received frames] }

/-- A socket that has received a request and replied to it. -/
def afterReply (frames : List Bytes) (rest : List (List Bytes)) (reply : List Bytes)
    (socket : RepSocket) : RepSocket :=
  { state := .ready, inbox := rest, history := socket.history ++ [.received frames, .sent reply] }

theorem poll_of_ready (ready : socket.state = .ready) (waiting : socket.inbox = frames :: rest) :
    socket.poll = true := by
  simp [poll, ready, waiting]

theorem recvMultipart_of_ready (ready : socket.state = .ready)
    (waiting : socket.inbox = frames :: rest) :
    recvMultipart.run socket = .ok frames (socket.afterReceive frames rest) := by
  unfold recvMultipart
  rw [Action.bind_of_ok (Action.run_get socket)]
  simp only [ready, waiting]
  rfl

theorem sendMultipart_afterReceive (reply : List Bytes) :
    (sendMultipart reply).run (socket.afterReceive frames rest) =
      .ok ⟨⟩ (socket.afterReply frames rest reply) := by
  have joined : socket.history ++ [.received frames] ++ [.sent reply] =
      socket.history ++ [.received frames, .sent reply] := List.append_assoc _ _ _
  unfold sendMultipart
  rw [Action.bind_of_ok (Action.run_get _), afterReply, ← joined]
  rfl

end RepSocket

namespace ServiceManager

variable {κ : Type} {manager next : ServiceManager κ} {frames : List Bytes}
  {rest : List (List Bytes)}

/-! ## One iteration -/

/-- While the manager runs, every request that names a service by a text gets a reply. -/
theorem handleRequest_of_running (manager : ServiceManager κ) (running : manager.running = true)
    (answer : Answer κ) (serviceName : Text) (request : Bytes) :
    ∃ reply, manager.handleRequest answer serviceName request = .ok reply := by
  unfold handleRequest
  cases manager.callableServices.lookup serviceName with
  | none => exact ⟨_, rfl⟩
  | some service =>
      simp only
      cases answer service request with
      | value result => exact ⟨_, rfl⟩
      | cancelled =>
          simp only [running, if_true]
          exact ⟨_, rfl⟩
      | raised error ordinary =>
          cases error with
          | runtimeError =>
              simp only [running, if_true]
              exact ⟨_, rfl⟩
          | keyError | valueError | unicodeEncodeError | unicodeDecodeError | structError
          | assertionError | timeoutError | cancelledError | extraData | zmqError | exception
          | baseException => exact ⟨_, rfl⟩

theorem unpackPair_cases (frames : List Bytes) :
    (∃ nameBytes request, frames = [nameBytes, request]) ∨
      unpackPair frames = .error .valueError := by
  unfold unpackPair
  split
  next nameBytes request => exact Or.inl ⟨nameBytes, request, rfl⟩
  next => exact Or.inr rfl

theorem decodeUtf8_cases (bytes : Bytes) :
    (∃ text, decodeUtf8 bytes = .ok text) ∨ decodeUtf8 bytes = .error .unicodeDecodeError := by
  unfold decodeUtf8
  cases Text.decode bytes with
  | some text => exact Or.inl ⟨text, rfl⟩
  | none => exact Or.inr rfl

theorem run_receive (ready : manager.resSocket.state = .ready)
    (waiting : manager.resSocket.inbox = frames :: rest) :
    (onSocket RepSocket.recvMultipart).run manager =
      .ok frames { manager with resSocket := manager.resSocket.afterReceive frames rest } :=
  Action.run_zoom_of_ok (RepSocket.recvMultipart_of_ready ready waiting)

theorem run_orRaise {α : Type} {result : Except PyError α} {value : α}
    (ok : result = .ok value) : (orRaise result).run manager = .ok value manager := by
  rw [ok]
  rfl

theorem run_orRaise_error {α : Type} {result : Except PyError α} {error : PyError}
    (raised : result = .error error) : (orRaise result).run manager = .error error manager := by
  rw [raised]
  rfl

/-- The `try` block on a serviceable request receives it and replies. -/
theorem serveOne_of_serviceable (running : manager.running = true)
    (ready : manager.resSocket.state = .ready)
    (waiting : manager.resSocket.inbox = frames :: rest) (serviceable : Serviceable frames)
    (answer : Answer κ) :
    ∃ status result, (serveOne answer).run manager = .ok ⟨⟩ { manager with
      resSocket := manager.resSocket.afterReply frames rest [status, result] } := by
  rcases serviceable with ⟨nameBytes, request, serviceName, pair, decoded⟩
  have unpacked : unpackPair frames = .ok (nameBytes, request) := by
    rw [pair]
    rfl
  rcases handleRequest_of_running { manager with
    resSocket := manager.resSocket.afterReceive frames rest } running answer serviceName request
    with ⟨reply, handled⟩
  refine ⟨reply.1, reply.2, ?_⟩
  unfold serveOne
  rw [Action.bind_of_ok (Action.run_get manager),
    if_pos (RepSocket.poll_of_ready ready waiting),
    Action.bind_of_ok (run_receive ready waiting),
    Action.bind_of_ok (run_orRaise unpacked),
    Action.bind_of_ok (run_orRaise decoded),
    Action.bind_of_ok (Action.run_get _),
    Action.bind_of_ok (run_orRaise handled)]
  exact Action.run_zoom_of_ok (RepSocket.sendMultipart_afterReceive [reply.1, reply.2])

/-- The `try` block on any other request receives it and raises. -/
theorem serveOne_of_not_serviceable (ready : manager.resSocket.state = .ready)
    (waiting : manager.resSocket.inbox = frames :: rest) (unserviceable : ¬ Serviceable frames)
    (answer : Answer κ) :
    ∃ error, error.isException = true ∧ (serveOne answer).run manager = .error error { manager with
      resSocket := manager.resSocket.afterReceive frames rest } := by
  unfold serveOne
  rw [Action.bind_of_ok (Action.run_get manager),
    if_pos (RepSocket.poll_of_ready ready waiting),
    Action.bind_of_ok (run_receive ready waiting)]
  rcases unpackPair_cases frames with ⟨nameBytes, request, pair⟩ | failed
  · have unpacked : unpackPair frames = .ok (nameBytes, request) := by
      rw [pair]
      rfl
    rw [Action.bind_of_ok (run_orRaise unpacked)]
    rcases decodeUtf8_cases nameBytes with ⟨serviceName, decoded⟩ | failed
    · exact absurd ⟨nameBytes, request, serviceName, pair, decoded⟩ unserviceable
    · exact ⟨.unicodeDecodeError, rfl, Action.bind_of_error (run_orRaise_error failed)⟩
  · exact ⟨.valueError, rfl, Action.bind_of_error (run_orRaise_error failed)⟩

theorem serveOne_of_idle (idle : manager.resSocket.poll = false) (answer : Answer κ) :
    (serveOne answer).run manager = .ok ⟨⟩ manager := by
  unfold serveOne
  rw [Action.bind_of_ok (Action.run_get manager), if_neg (by rw [idle]; exact Bool.false_ne_true)]
  rfl

theorem iterate_of_idle (running : manager.running = true)
    (idle : manager.resSocket.poll = false) (answer : Answer κ) :
    manager.iterate answer = manager := by
  rw [iterate, if_pos running, serveOne_of_idle idle]

/-- An iteration that takes a serviceable request leaves the socket ready again. -/
theorem iterate_of_serviceable (running : manager.running = true)
    (ready : manager.resSocket.state = .ready)
    (waiting : manager.resSocket.inbox = frames :: rest) (serviceable : Serviceable frames)
    (answer : Answer κ) :
    ∃ status result, manager.iterate answer = { manager with
      resSocket := manager.resSocket.afterReply frames rest [status, result] } := by
  rcases serveOne_of_serviceable running ready waiting serviceable answer with
    ⟨status, result, served⟩
  refine ⟨status, result, ?_⟩
  rw [iterate, if_pos running, served]

/-- An iteration that takes any other request leaves the socket owing a reply. -/
theorem iterate_of_not_serviceable (running : manager.running = true)
    (ready : manager.resSocket.state = .ready)
    (waiting : manager.resSocket.inbox = frames :: rest) (unserviceable : ¬ Serviceable frames)
    (answer : Answer κ) :
    manager.iterate answer = { manager with
      resSocket := manager.resSocket.afterReceive frames rest } := by
  rcases serveOne_of_not_serviceable ready waiting unserviceable answer with
    ⟨error, ordinary, raised⟩
  rw [iterate, if_pos running, raised]
  simp only [ordinary, running, Bool.and_self, if_true]

/-- A running loop whose socket is ready receives the next waiting request, whatever it is. -/
theorem receives_of_ready (running : manager.running = true)
    (ready : manager.resSocket.state = .ready)
    (waiting : manager.resSocket.inbox = frames :: rest) (answer : Answer κ) :
    ∃ replies, (manager.iterate answer).resSocket.history =
      manager.resSocket.history ++ .received frames :: replies := by
  by_cases serviceable : Serviceable frames
  · rcases iterate_of_serviceable running ready waiting serviceable answer with
      ⟨status, result, served⟩
    rw [served]
    exact ⟨[.sent [status, result]], rfl⟩
  · rw [iterate_of_not_serviceable running ready waiting serviceable answer]
    exact ⟨[], rfl⟩

/-! ## Runs -/

/-- At the head of the loop: the socket is ready, every received request has been answered
by one two-frame reply, and the next waiting request will be received. -/
structure Lockstep (manager : ServiceManager κ) : Prop where
  ready : manager.resSocket.state = .ready
  answered : Answered manager.resSocket.history
  receives : ∀ (answer : Answer κ) frames rest, manager.resSocket.inbox = frames :: rest →
    ∃ replies, (manager.iterate answer).resSocket.history =
      manager.resSocket.history ++ .received frames :: replies

theorem lockstep_of_ready (running : manager.running = true)
    (ready : manager.resSocket.state = .ready) (answered : Answered manager.resSocket.history) :
    manager.Lockstep where
  ready := ready
  answered := answered
  receives := by
    intro answer frames rest waiting
    exact receives_of_ready running ready waiting answer

/-- The request an iteration of the running loop would take is serviceable. -/
def TakesServiceable (manager : ServiceManager κ) (event : ServiceEvent κ) : Prop :=
  ∀ answer, event = .iterate answer → manager.running = true →
    ∀ frames rest, manager.resSocket.inbox = frames :: rest → Serviceable frames

/-- An iteration keeps the lockstep exactly when the request it takes is serviceable. -/
theorem lockstep_iterate_iff (running : manager.running = true) (lockstep : manager.Lockstep)
    (answer : Answer κ) :
    (manager.iterate answer).Lockstep ↔
      ∀ frames rest, manager.resSocket.inbox = frames :: rest → Serviceable frames := by
  cases waiting : manager.resSocket.inbox with
  | nil =>
      have idle : manager.resSocket.poll = false := by
        simp [RepSocket.poll, waiting]
      rw [iterate_of_idle running idle]
      constructor
      · intro _ frames rest same
        cases same
      · intro _
        exact lockstep
  | cons frames rest =>
      constructor
      · intro after otherFrames otherRest same
        cases same
        apply Classical.byContradiction
        intro unserviceable
        have stuck := after.ready
        rw [iterate_of_not_serviceable running lockstep.ready waiting unserviceable] at stuck
        cases stuck
      · intro every
        rcases iterate_of_serviceable running lockstep.ready waiting (every frames rest rfl) answer
          with ⟨status, result, served⟩
        rw [served]
        refine lockstep_of_ready running rfl ?_
        exact lockstep.answered.snoc frames status result

/-- No iteration with the socket ready stops the manager. -/
theorem running_iterate_of_ready (running : manager.running = true)
    (ready : manager.resSocket.state = .ready) (answer : Answer κ) :
    (manager.iterate answer).running = true := by
  cases waiting : manager.resSocket.inbox with
  | nil =>
      have idle : manager.resSocket.poll = false := by
        simp [RepSocket.poll, waiting]
      rw [iterate_of_idle running idle]
      exact running
  | cons frames rest =>
      by_cases serviceable : Serviceable frames
      · rcases iterate_of_serviceable running ready waiting serviceable answer with
          ⟨status, result, served⟩
        rw [served]
        exact running
      · rw [iterate_of_not_serviceable running ready waiting serviceable answer]
        exact running

theorem running_iterate (answer : Answer κ) : (manager.iterate answer).running = true →
    manager.running = true := by
  intro runningAfter
  apply Classical.byContradiction
  intro stopped
  rw [iterate, if_neg stopped] at runningAfter
  exact stopped runningAfter

/-- In every run, the running loop is in lockstep at each of its heads if and only if every
request it takes has two frames and a name in UTF-8. -/
theorem service_loop_lockstep_iff (trace : List (ServiceEvent κ)) (manager : ServiceManager κ)
    (run : machine.exec trace = some manager) :
    machine.StatesAlong (fun manager => manager.running = true → manager.Lockstep) trace ↔
      machine.StepsAlong TakesServiceable trace := by
  apply Machine.statesAlong_iff_stepsAlong _ _ run
  · intro running
    exact lockstep_of_ready running rfl Answered.nil
  · intro state event next _ lockstep stepped
    cases event with
    | arrives frames =>
        cases stepped
        constructor
        · intro _ answer same
          cases same
        · intro _ running
          exact lockstep_of_ready running (lockstep running).ready (lockstep running).answered
    | comesFirst index =>
        rcases Option.map_eq_some_iff.1 stepped with ⟨socket, chosen, rfl⟩
        rcases Option.map_eq_some_iff.1 chosen with ⟨frames, _, rfl⟩
        constructor
        · intro _ answer same
          cases same
        · intro _ running
          exact lockstep_of_ready running (lockstep running).ready (lockstep running).answered
    | registerService serviceName service =>
        cases stepped
        constructor
        · intro _ answer same
          cases same
        · intro _ running
          exact lockstep_of_ready running (lockstep running).ready (lockstep running).answered
    | stop =>
        cases stepped
        constructor
        · intro _ answer same
          cases same
        · intro _ running
          cases running
    | iterate answer =>
        simp only [machine, step] at stepped
        split at stepped
        next => cases stepped
        next =>
          cases stepped
          constructor
          · intro after other same running
            cases same
            have runningAfter := running_iterate_of_ready running (lockstep running).ready answer
            exact (lockstep_iterate_iff running (lockstep running) answer).1 (after runningAfter)
          · intro every runningAfter
            have running := running_iterate answer runningAfter
            exact (lockstep_iterate_iff running (lockstep running) answer).2
              (every answer rfl running)

/-- One service that echoes, a request to it, and a request to a name nobody registered. -/
def servedRun : List (ServiceEvent Unit) :=
  [.registerService "echo" (), .arrives [[101, 99, 104, 111], [7]], .arrives [[], []],
    .iterate fun _ request => .value (some request), .iterate fun _ _ => .cancelled]

theorem servedRun_serviceable : machine.StepsAlong TakesServiceable servedRun := by
  apply Machine.stepsAlong_of_stepsFrom
  refine ⟨nofun, fun registered stepped => ?_⟩
  cases stepped
  refine ⟨nofun, fun arrived stepped => ?_⟩
  cases stepped
  refine ⟨nofun, fun waiting stepped => ?_⟩
  cases stepped
  refine ⟨fun answer _ _ frames rest next => ?_, fun served stepped => ?_⟩
  · cases next
    exact ⟨_, _, "echo", rfl, by decide⟩
  cases stepped
  refine ⟨fun answer _ _ frames rest next => ?_, fun served stepped => trivial⟩
  cases next
  exact ⟨_, _, [], rfl, by decide⟩

theorem service_loop_lockstep_servedRun :
    ∃ manager, machine.exec servedRun = some manager ∧ manager.Lockstep ∧
      manager.resSocket.history =
        [.received [[101, 99, 104, 111], [7]], .sent [ResponseStatus.success.encode, [7]],
          .received [[], []], .sent [ResponseStatus.noService.encode, []]] := by
  refine ⟨_, rfl, ?_, ?_⟩
  · have states := (service_loop_lockstep_iff servedRun _ rfl).2 servedRun_serviceable
    exact states.last rfl rfl
  · decide

/-- A request of one frame, and one that could be served. -/
def unansweredRun : List (ServiceEvent Unit) :=
  [.arrives [[101, 99, 104, 111]], .iterate fun _ _ => .value none, .arrives [[], []],
    .iterate fun _ _ => .value none]

theorem service_loop_stuck_along_unansweredRun :
    ∃ manager, machine.exec unansweredRun = some manager ∧ manager.running = true ∧
      ¬ manager.Lockstep ∧ manager.resSocket =
        { state := .mustSend, inbox := [[[], []]],
          history := [.received [[101, 99, 104, 111]]] } := by
  refine ⟨_, rfl, rfl, ?_, rfl⟩
  intro lockstep
  cases lockstep.ready

end ServiceManager

end Pyzlc
