import Mathlib.Data.List.Perm.Basic
import Pyzlc.Sockets.ServiceLoop

/-!
# Which reply answers which request

Whatever order the socket hands the requests out in, the loop takes each one once, and what it
sends after a request is the reply computed for that request by the services registered when it was
taken.  A request that cannot be read gets no reply, and none is taken after it.
-/

namespace Pyzlc

open Foundation

namespace ServiceManager

variable {κ : Type}

/-- The reply to a request, or what the loop raises instead. -/
def replyTo (answer : Answer κ) (frames : List Bytes) (manager : ServiceManager κ) :
    Except PyError (Bytes × Bytes) := do
  let pair ← unpackPair frames
  let serviceName ← decodeUtf8 pair.1
  manager.handleRequest answer serviceName pair.2

/-- What passes through the socket when a request is taken. -/
def transcript (answer : Answer κ) (frames : List Bytes) (manager : ServiceManager κ) :
    List SocketEvent :=
  match manager.replyTo answer frames with
  | .ok reply => [.received frames, .sent [reply.1, reply.2]]
  | .error _ => [.received frames]

/-- The socket after a request was taken. -/
def socketAfter (answer : Answer κ) (frames : List Bytes) (rest : List (List Bytes))
    (manager : ServiceManager κ) : RepSocket where
  state :=
    match manager.replyTo answer frames with
    | .ok _ => .ready
    | .error _ => .mustSend
  inbox := rest
  history := manager.resSocket.history ++ manager.transcript answer frames

/-- The running loop finds the socket ready and a request in it. -/
structure Takes (frames : List Bytes) (rest : List (List Bytes)) (manager : ServiceManager κ) :
    Prop where
  running : manager.running = true
  ready : manager.resSocket.state = .ready
  waiting : manager.resSocket.inbox = frames :: rest

variable {manager : ServiceManager κ} {frames : List Bytes} {rest : List (List Bytes)}

/-! ## One iteration -/

theorem replyTo_of_unpack_error {answer : Answer κ} {error : PyError}
    (raised : unpackPair frames = .error error) : manager.replyTo answer frames = .error error := by
  rw [replyTo, raised]
  rfl

theorem replyTo_of_decode_error {answer : Answer κ} {pair : Bytes × Bytes} {error : PyError}
    (unpacked : unpackPair frames = .ok pair) (raised : decodeUtf8 pair.1 = .error error) :
    manager.replyTo answer frames = .error error := by
  rw [replyTo, unpacked]
  show (decodeUtf8 pair.1).bind _ = _
  rw [raised]
  rfl

theorem replyTo_of_decode {answer : Answer κ} {pair : Bytes × Bytes} {serviceName : Text}
    (unpacked : unpackPair frames = .ok pair) (decoded : decodeUtf8 pair.1 = .ok serviceName) :
    manager.replyTo answer frames = manager.handleRequest answer serviceName pair.2 := by
  rw [replyTo, unpacked]
  show (decodeUtf8 pair.1).bind _ = _
  rw [decoded]
  rfl

/-- The `try` block after the receive. -/
theorem serveOne_of_waiting (ready : manager.resSocket.state = .ready)
    (waiting : manager.resSocket.inbox = frames :: rest) (answer : Answer κ) :
    (serveOne answer).run manager =
      match manager.replyTo answer frames with
      | .ok reply => .ok ⟨⟩ { manager with
          resSocket := manager.resSocket.afterReply frames rest [reply.1, reply.2] }
      | .error error => .error error { manager with
          resSocket := manager.resSocket.afterReceive frames rest } := by
  unfold serveOne
  rw [Action.bind_of_ok (Action.run_get manager),
    if_pos (RepSocket.poll_of_ready ready waiting), Action.bind_of_ok (run_receive ready waiting)]
  rcases unpacked : unpackPair frames with error | pair
  · rw [replyTo_of_unpack_error unpacked, Action.bind_of_error (run_orRaise_error rfl)]
  · rw [Action.bind_of_ok (run_orRaise rfl)]
    rcases decoded : decodeUtf8 pair.1 with error | serviceName
    · rw [replyTo_of_decode_error unpacked decoded, Action.bind_of_error (run_orRaise_error rfl)]
    · rw [replyTo_of_decode unpacked decoded, Action.bind_of_ok (run_orRaise rfl),
        Action.bind_of_ok (Action.run_get _)]
      -- the services are those of the moment before the receive
      show (orRaise (manager.handleRequest answer serviceName pair.2) >>= _).run _ = _
      rcases handled : manager.handleRequest answer serviceName pair.2 with error | reply
      · rw [Action.bind_of_error (run_orRaise_error rfl)]
      · rw [Action.bind_of_ok (run_orRaise rfl)]
        exact Action.run_zoom_of_ok (RepSocket.sendMultipart_afterReceive [reply.1, reply.2])

/-- While the manager runs, what a request makes the loop raise is caught. -/
theorem isException_of_replyTo (running : manager.running = true) {answer : Answer κ}
    {error : PyError} (raised : manager.replyTo answer frames = .error error) :
    error.isException = true := by
  rcases unpacked : unpackPair frames with failure | pair
  · rw [replyTo_of_unpack_error unpacked] at raised
    rcases unpackPair_cases frames with ⟨nameBytes, request, rfl⟩ | failed
    · cases unpacked
    · rw [failed] at unpacked
      cases unpacked
      cases raised
      rfl
  · rcases decoded : decodeUtf8 pair.1 with failure | serviceName
    · rw [replyTo_of_decode_error unpacked decoded] at raised
      rcases decodeUtf8_cases pair.1 with ⟨text, found⟩ | failed
      · rw [found] at decoded
        cases decoded
      · rw [failed] at decoded
        cases decoded
        cases raised
        rfl
    · rw [replyTo_of_decode unpacked decoded] at raised
      rcases handleRequest_of_running manager running answer serviceName pair.2 with
        ⟨reply, handled⟩
      rw [handled] at raised
      cases raised

/-- An iteration that takes a request. -/
theorem iterate_of_takes (takes : manager.Takes frames rest) (answer : Answer κ) :
    manager.iterate answer =
      { manager with resSocket := manager.socketAfter answer frames rest } := by
  rw [iterate, if_pos takes.running, serveOne_of_waiting takes.ready takes.waiting, socketAfter,
    transcript]
  rcases replied : manager.replyTo answer frames with error | reply
  · have ordinary := isException_of_replyTo takes.running replied
    simp only [ordinary, takes.running, Bool.and_self, if_true]
    rfl
  · rfl

/-- Any other iteration does nothing, or finds that the manager was stopped. -/
theorem iterate_of_not_takes (idle : ∀ frames rest, ¬ manager.Takes frames rest)
    (answer : Answer κ) :
    manager.iterate answer =
      if manager.running then manager else { manager with ended := true } := by
  by_cases running : manager.running = true
  · have silent : manager.resSocket.poll = false := by
      rcases waiting : manager.resSocket.inbox with _ | ⟨frames, rest⟩
      · simp [RepSocket.poll, waiting]
      · have owing : manager.resSocket.state ≠ .ready := by
          intro ready
          exact idle frames rest ⟨running, ready, waiting⟩
        simp [RepSocket.poll, owing]
    rw [iterate_of_idle running silent, if_pos running]
  · rw [iterate, if_neg running, if_neg running]

theorem resSocket_iterate_of_not_takes (idle : ∀ frames rest, ¬ manager.Takes frames rest)
    (answer : Answer κ) : (manager.iterate answer).resSocket = manager.resSocket := by
  rw [iterate_of_not_takes idle]
  split <;> rfl

/-- Going round the loop registers nothing. -/
theorem callableServices_iterate (manager : ServiceManager κ) (answer : Answer κ) :
    (manager.iterate answer).callableServices = manager.callableServices := by
  by_cases busy : ∃ frames rest, manager.Takes frames rest
  · rcases busy with ⟨frames, rest, takes⟩
    rw [iterate_of_takes takes]
  · have idle : ∀ frames rest, ¬ manager.Takes frames rest := by
      intro frames rest takes
      exact busy ⟨frames, rest, takes⟩
    rw [iterate_of_not_takes idle]
    split <;> rfl

end ServiceManager

/-! ## The requests that were taken -/

/-- A request that was taken, with the services of that moment and what their handlers did. -/
structure Taken (κ : Type) where
  manager : ServiceManager κ
  answer : ServiceManager.Answer κ
  frames : List Bytes

namespace Taken

variable {κ : Type}

def reply (taken : Taken κ) : Except PyError (Bytes × Bytes) :=
  taken.manager.replyTo taken.answer taken.frames

def transcript (taken : Taken κ) : List SocketEvent :=
  taken.manager.transcript taken.answer taken.frames

end Taken

namespace ServiceManager

variable {κ : Type}

/-- The request that an iteration takes. -/
def taken (manager : ServiceManager κ) (event : ServiceEvent κ) : Option (Taken κ) :=
  match event with
  | .iterate answer =>
      if manager.running = true ∧ manager.resSocket.state = .ready then
        manager.resSocket.inbox.head?.map fun frames =>
          { manager := manager, answer := answer, frames := frames }
      else none
  | _ => none

/-- The requests that arrive. -/
def arrival : ServiceEvent κ → Option (List Bytes)
  | .arrives frames => some frames
  | _ => none

/-- The loop with the requests it has taken. -/
def ledger : Machine (ServiceManager κ × List (Taken κ)) (ServiceEvent κ) :=
  machine.recording [] fun manager event taken => taken ++ (manager.taken event).toList

variable {manager : ServiceManager κ} {event : ServiceEvent κ}

theorem taken_of_takes {frames : List Bytes} {rest : List (List Bytes)} (answer : Answer κ)
    (takes : manager.Takes frames rest) : manager.taken (.iterate answer) =
      some { manager := manager, answer := answer, frames := frames } := by
  rw [taken, if_pos ⟨takes.running, takes.ready⟩, takes.waiting]
  rfl

theorem taken_of_not_takes (answer : Answer κ)
    (idle : ∀ frames rest, ¬ manager.Takes frames rest) :
    manager.taken (.iterate answer) = none := by
  rw [taken]
  split
  next able =>
    rcases waiting : manager.resSocket.inbox with _ | ⟨frames, rest⟩
    · rfl
    · exact absurd ⟨able.1, able.2, waiting⟩ (idle frames rest)
  next => rfl

/-- What passed through the socket is what the requests that were taken left there, in order;
every one that arrived was taken or waits; and the socket is ready unless the last one that was
taken got no reply. -/
structure Accounted (trace : List (ServiceEvent κ)) (manager : ServiceManager κ)
    (ledger : List (Taken κ)) : Prop where
  history : manager.resSocket.history = ledger.flatMap Taken.transcript
  arrivals : (trace.filterMap arrival).Perm (ledger.map Taken.frames ++ manager.resSocket.inbox)
  replied : ∀ earlier ∈ ledger.dropLast, ∃ reply, earlier.reply = .ok reply
  ready : manager.resSocket.state = .ready ↔ ∀ taken ∈ ledger, ∃ reply, taken.reply = .ok reply

theorem Accounted.quiet {trace : List (ServiceEvent κ)} {taken : List (Taken κ)}
    {next : ServiceManager κ} (accounted : Accounted trace manager taken)
    (same : next.resSocket = manager.resSocket) (silent : arrival event = none) :
    Accounted (trace ++ [event]) next taken where
  history := same ▸ accounted.history
  arrivals := by
    rw [List.filterMap_append, List.filterMap_cons_none silent, List.filterMap_nil,
      List.append_nil, same]
    exact accounted.arrivals
  replied := accounted.replied
  ready := same ▸ accounted.ready

theorem Accounted.arrives {trace : List (ServiceEvent κ)} {taken : List (Taken κ)}
    (accounted : Accounted trace manager taken) (frames : List Bytes) :
    Accounted (trace ++ [.arrives frames]) { manager with
      resSocket := { manager.resSocket with inbox := manager.resSocket.inbox ++ [frames] } }
      taken where
  history := accounted.history
  arrivals := by
    rw [List.filterMap_append, ← List.append_assoc]
    exact accounted.arrivals.append_right [frames]
  replied := accounted.replied
  ready := accounted.ready

theorem Accounted.comesFirst {trace : List (ServiceEvent κ)} {taken : List (Taken κ)}
    (accounted : Accounted trace manager taken) {index : Nat} {socket : RepSocket}
    (chosen : manager.resSocket.comesFirst index = some socket) :
    Accounted (trace ++ [.comesFirst index]) { manager with resSocket := socket } taken := by
  rcases Option.map_eq_some_iff.1 chosen with ⟨frames, found, rfl⟩
  rcases List.getElem?_eq_some_iff.1 found with ⟨within, there⟩
  constructor
  case history => exact accounted.history
  case replied => exact accounted.replied
  case ready => exact accounted.ready
  case arrivals =>
    have moved : manager.resSocket.inbox.Perm
        (frames :: manager.resSocket.inbox.eraseIdx index) := by
      rw [← there]
      exact (List.getElem_cons_eraseIdx_perm within).symm
    rw [List.filterMap_append, List.filterMap_cons_none rfl, List.filterMap_nil, List.append_nil]
    exact accounted.arrivals.trans (moved.append_left _)

theorem Accounted.takes {trace : List (ServiceEvent κ)} {taken : List (Taken κ)}
    {frames : List Bytes} {rest : List (List Bytes)} (accounted : Accounted trace manager taken)
    (takes : manager.Takes frames rest) (answer : Answer κ) :
    Accounted (trace ++ [.iterate answer]) (manager.iterate answer)
      (taken ++ [{ manager := manager, answer := answer, frames := frames }]) where
  history := by
    rw [iterate_of_takes takes, List.flatMap_append, List.flatMap_singleton, ← accounted.history]
    rfl
  arrivals := by
    have arrivals := accounted.arrivals
    rw [takes.waiting] at arrivals
    rw [iterate_of_takes takes, List.filterMap_append, List.filterMap_cons_none rfl,
      List.filterMap_nil, List.append_nil, List.map_append, List.append_assoc]
    exact arrivals
  replied := by
    rw [List.dropLast_concat]
    exact accounted.ready.1 takes.ready
  ready := by
    rw [iterate_of_takes takes, socketAfter]
    have earlier := accounted.ready.1 takes.ready
    constructor
    · intro ready other listed
      rcases List.mem_append.1 listed with before | last
      · exact earlier other before
      · rw [List.mem_singleton.1 last, Taken.reply]
        rcases replied : manager.replyTo answer frames with error | reply
        · rw [replied] at ready
          cases ready
        · exact ⟨reply, rfl⟩
    · intro every
      rcases every _ (List.mem_append_right _ List.mem_cons_self) with ⟨reply, replied⟩
      rw [Taken.reply] at replied
      rw [replied]

/-- In every run, malformed requests and any order of handing out included: each request that has
arrived was taken once or waits; what passed through the socket is each one that was taken followed
by the reply computed for it; and only the last one can be without a reply. -/
theorem accounted_of_run {trace : List (ServiceEvent κ)}
    {recorded : ServiceManager κ × List (Taken κ)} (run : ledger.exec trace = some recorded) :
    Accounted trace recorded.1 recorded.2 := by
  apply Machine.exec_induction (motive :=
    fun trace (recorded : ServiceManager κ × List (Taken κ)) =>
      Accounted trace recorded.1 recorded.2) _ _ run
  · constructor
    · rfl
    · exact List.Perm.refl []
    · intro taken listed
      cases listed
    · exact ⟨fun _ _ listed => (List.not_mem_nil listed).elim, fun _ => rfl⟩
  · intro trace recorded event next _ accounted stepped
    rcases Machine.recording_step.1 stepped with ⟨served, written⟩
    rw [written]
    cases event with
    | arrives frames =>
        rw [← Option.some.inj served, show recorded.1.taken (.arrives frames) = none from rfl,
          Option.toList_none, List.append_nil]
        exact accounted.arrives frames
    | comesFirst index =>
        rcases Option.map_eq_some_iff.1 served with ⟨socket, chosen, same⟩
        rw [← same, show recorded.1.taken (.comesFirst index) = none from rfl,
          Option.toList_none, List.append_nil]
        exact accounted.comesFirst chosen
    | registerService serviceName service =>
        rw [← Option.some.inj served,
          show recorded.1.taken (.registerService serviceName service) = none from rfl,
          Option.toList_none, List.append_nil]
        exact accounted.quiet rfl rfl
    | stop =>
        rw [← Option.some.inj served, show recorded.1.taken .stop = none from rfl,
          Option.toList_none, List.append_nil]
        exact accounted.quiet rfl rfl
    | iterate answer =>
        rcases Option.ite_none_left_eq_some.1 served with ⟨_, found⟩
        rw [← Option.some.inj found]
        by_cases busy : ∃ frames rest, recorded.1.Takes frames rest
        · rcases busy with ⟨frames, rest, takes⟩
          rw [taken_of_takes answer takes, Option.toList_some]
          exact accounted.takes takes answer
        · have idle : ∀ frames rest, ¬ recorded.1.Takes frames rest := by
            intro frames rest takes
            exact busy ⟨frames, rest, takes⟩
          rw [taken_of_not_takes answer idle, Option.toList_none, List.append_nil]
          exact accounted.quiet (resSocket_iterate_of_not_takes idle answer) rfl

/-- A request that is served, one that arrives later and is handed out first, of a single frame,
and one that waits. -/
def brokenRun : List (ServiceEvent Unit) :=
  [.registerService "echo" (), .arrives [[101, 99, 104, 111], [7]], .arrives [[], []],
    .arrives [[101]], .iterate fun _ request => .value (some request), .comesFirst 1,
    .iterate fun _ _ => .value none, .iterate fun _ _ => .value none]

theorem accounted_of_run_brokenRun :
    ∃ recorded, ledger.exec brokenRun = some recorded ∧
      Accounted brokenRun recorded.1 recorded.2 ∧
      recorded.1.resSocket =
        { state := .mustSend, inbox := [[[], []]],
          history := [.received [[101, 99, 104, 111], [7]],
            .sent [ResponseStatus.success.encode, [7]], .received [[101]]] } :=
  ⟨_, rfl, accounted_of_run rfl, rfl⟩

end ServiceManager

end Pyzlc
