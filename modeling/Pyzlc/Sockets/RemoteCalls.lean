import Pyzlc.Nodes.NodesInfoManager
import Pyzlc.Sockets.Payloads
import Pyzlc.Sockets.ServiceCalls
import Pyzlc.Sockets.SubscriberManager

/-!
# What a remote call returns

A request is looked up in the registry, packed, sent, taken by a service loop that serves other
clients at the same time, unpacked, handled, packed and sent back.  Over any run of that loop, what
the caller gets is `None` or what the handler of the service returned for the caller's own argument.
-/

namespace Pyzlc

open Foundation
open MessagePack (Value DistinctKeys strictKeys depth)

variable {α η : Type}

/-- Send an asynchronous request to a service and get the response.  What happens at an address is
a parameter. -/
def zlcRequestAsync (objects : Objects α) (msgpack : Msgpack α) (nodesManager : NodesInfoManager η)
    (exchangeAt : Text → Exchange) (serviceName : Text) (request : α) :
    Action PyError RequestState α :=
  match nodesManager.getServiceInfo serviceName with
  | none => pure objects.none
  | some serviceInfo =>
      Exchange.sendRequest objects msgpack (exchangeAt (SubscriberManager.tcpUrl serviceInfo))
        serviceName request

namespace ServiceManager

/-- The handlers of one iteration, when the executor runs the registered wrappers. -/
def answering (msgpack : Msgpack α) (expired : Bool) : Answer (Handler α) :=
  fun handler request => runInExecutor expired (wrapHandler msgpack handler request)

variable {msgpack : Msgpack Value} {limit : Nat} {manager : ServiceManager (Handler Value)}
  {serviceName : Text} {nameBytes bytes : Bytes} {value : Value}

/-- A request made of two frames is answered as `_handle_request` answers it. -/
theorem replyTo_answering (named : serviceName.encode = some nameBytes) (expired : Bool) :
    manager.replyTo (answering msgpack expired) [nameBytes, bytes] =
      manager.reply msgpack expired serviceName bytes := by
  have unpacked : unpackPair [nameBytes, bytes] = .ok (nameBytes, bytes) := rfl
  rw [replyTo_of_decode unpacked (decodeUtf8_eq_ok.2 named)]
  rfl

/-- Where something can be unpacked, nothing is unpacked from no bytes. -/
theorem unpackb_nil (documented : msgpack.Documented) {arg : Value}
    (unpacked : msgpack.unpackb {} bytes = .ok arg) (nonempty : bytes ≠ []) (found : Value) :
    msgpack.unpackb {} [] ≠ .ok found := by
  intro nothing
  have extra : msgpack.AcceptsFront bytes := ⟨[], bytes, rfl, nonempty, found, nothing⟩
  rw [← documented.extraData_iff, unpacked] at extra
  cases extra

/-- A successful reply to a packed value comes from a handler that was called with that value.  If
it carries no object, the handler raised the error of the decoder. -/
theorem returned_of_success (speaks : msgpack.SpeaksMessagePack limit)
    (documented : msgpack.Documented) (packed : msgpack.packb {} value = .ok (some bytes))
    (distinct : DistinctKeys value) (shallow : depth value ≤ limit) {expired : Bool}
    {payload : Bytes} (replied : manager.reply msgpack expired serviceName bytes =
      .ok (ResponseStatus.success.encode, payload)) :
    ∃ handler, manager.callableServices.lookup serviceName = some handler ∧
      (handler value = .error .extraData ∧ (∀ found, msgpack.unpackb {} payload ≠ .ok found) ∨
        ∃ result, handler value = .ok result ∧ msgpack.packb {} result = .ok (some payload)) := by
  have arrives : ∀ arg, msgpack.unpackb {} bytes = .ok arg → arg = value := by
    intro arg unpacked
    rw [unpackb_packb speaks packed distinct shallow] at unpacked
    split at unpacked
    next =>
      cases unpacked
      rfl
    next => cases unpacked
  rcases found : manager.callableServices.lookup serviceName with _ | handler
  · rw [reply_of_unknown found] at replied
    exact absurd rfl (failure_ok (by decide) _ _ replied).1.1
  refine ⟨handler, rfl, ?_⟩
  cases expired with
  | true =>
      rw [reply_of_expired found] at replied
      exact absurd rfl (failure_ok (by decide) _ _ replied).1.1
  | false =>
      rcases outcome : wrapperBody msgpack handler bytes with error | other
      · by_cases extra : error = .extraData
        · rw [extra] at outcome
          rw [reply_of_extraData found outcome] at replied
          obtain rfl : [] = payload := (Prod.ext_iff.1 (Except.ok.inj replied)).2
          rcases (wrapperBody_eq_extraData documented).1 outcome with
            behind | ⟨arg, unpacked, raised⟩
          · rw [← documented.extraData_iff, unpackb_packb speaks packed distinct shallow] at behind
            split at behind <;> cases behind
          · rw [arrives arg unpacked] at raised
            exact Or.inl ⟨raised, unpackb_nil documented unpacked
              (documented.packb_ne_nil value bytes packed)⟩
        · exact absurd rfl (reply_of_error found outcome extra _ _ replied).1.1
      · rw [reply_of_value found outcome] at replied
        rcases Prod.ext_iff.1 (Except.ok.inj replied) with ⟨_, rfl⟩
        rcases wrapperBody_eq_ok.1 outcome with ⟨arg, result, unpacked, returned, sent⟩
        rw [arrives arg unpacked] at returned
        exact Or.inr ⟨result, returned, sent⟩

end ServiceManager

/-! ## Over a run -/

/-- How the exchange of a call went, which arrived at its service. -/
def CallOutcome.exchange (outcome : CallOutcome) : Exchange where
  socket := none
  connect := none
  send _ := none
  receive _ :=
    match outcome with
    | .returned frames => .ok frames
    | .timedOut => .error ⟨.timeoutError, PyError.isException_timeoutError⟩

/-- What the client makes of how its call ended. -/
theorem run_of_ended {msgpack : Msgpack α} {objects : Objects α} {serviceName : Text}
    {nameBytes bytes : Bytes} {value : α} (outcome : CallOutcome)
    (named : serviceName.encode = some nameBytes)
    (bytesSent : Exchange.requestBytes objects msgpack value = .ok (some bytes)) :
    (Exchange.sendRequest objects msgpack outcome.exchange serviceName value).run
        Exchange.start =
      match outcome with
      | .timedOut => .ok objects.none (outcome.exchange.closedState serviceName bytes)
      | .returned frames => (Exchange.orRaise (Exchange.readResponse objects msgpack frames)).run
          (outcome.exchange.closedState serviceName bytes) := by
  have connected : ¬ outcome.exchange.Unconnected := fun unconnected => unconnected.2 rfl
  rw [Exchange.run_sendRequest bytesSent connected]
  cases outcome <;> simp only [Exchange.replyOf, CallOutcome.exchange, named]

theorem read_of_sendRequest {msgpack : Msgpack α} {objects : Objects α} {serviceName : Text}
    {nameBytes bytes : Bytes} {value result : α} {outcome : CallOutcome} {last : RequestState}
    (named : serviceName.encode = some nameBytes)
    (bytesSent : Exchange.requestBytes objects msgpack value = .ok (some bytes))
    (returned : (Exchange.sendRequest objects msgpack outcome.exchange serviceName value).run
      Exchange.start = .ok result last) :
    result = objects.none ∨ ∃ frames, outcome = .returned frames ∧
      Exchange.readResponse objects msgpack frames = .ok result := by
  rw [run_of_ended outcome named bytesSent] at returned
  cases outcome with
  | timedOut =>
      cases returned
      exact Or.inl rfl
  | returned frames =>
      refine Or.inr ⟨frames, rfl, ?_⟩
      rcases read : Exchange.readResponse objects msgpack frames with error | object
      · simp only [read] at returned
        cases returned
      · simp only [read] at returned
        cases returned
        rfl

namespace ServiceCalls

variable {msgpack : Msgpack Value} {limit : Nat}
  {trace : List (CallEvent (Handler Value))}
  {recorded : ServiceCalls (Handler Value) × List (Served (Handler Value))}

theorem event_of_entry {κ : Type} {state : ServiceCalls κ} {event : CallEvent κ}
    {entry : Served κ} (made : state.entry event = some entry) :
    event = .iterate entry.taken.answer := by
  cases event with
  | iterate answer =>
      rw [ServiceCalls.entry] at made
      split at made
      next serial peers taken _ found =>
        cases made
        rcases Option.ite_none_right_eq_some.1 found with ⟨_, mapped⟩
        rcases Option.map_eq_some_iff.1 mapped with ⟨frames, _, rfl⟩
        rfl
      next => cases made
  | sends | arrives | comesFirst | registerService | stop | returns | timesOut => cases made

/-- What is taken is answered by an iteration of the run. -/
theorem answer_of_run {κ : Type} {trace : List (CallEvent κ)}
    {recorded : ServiceCalls κ × List (Served κ)} (run : ledger.exec trace = some recorded) :
    ∀ entry ∈ recorded.2, .iterate entry.taken.answer ∈ trace := by
  apply Machine.exec_induction (motive := fun trace (recorded : ServiceCalls κ × List (Served κ)) =>
    ∀ entry ∈ recorded.2, .iterate entry.taken.answer ∈ trace) _ _ run
  · intro entry listed
    cases listed
  · intro trace recorded event next before earlier stepped entry listed
    rw [(Machine.recording_step.1 stepped).2] at listed
    rcases List.mem_append.1 listed with old | new
    · exact List.mem_append_left _ (earlier entry old)
    · rw [event_of_entry (Option.mem_toList.1 new)]
      exact List.mem_append_right _ List.mem_cons_self

/-- The frames of a reply are read as the object a handler returned, or as `None`. -/
theorem value_of_reply (speaks : msgpack.SpeaksMessagePack limit) (documented : msgpack.Documented)
    {objects : Objects Value} {manager : ServiceManager (Handler Value)} {serviceName : Text}
    {value result : Value} {bytes : Bytes} (packed : msgpack.packb {} value = .ok (some bytes))
    (distinct : DistinctKeys value) (shallow : depth value ≤ limit) {expired : Bool}
    {status payload : Bytes}
    (replied : manager.reply msgpack expired serviceName bytes = .ok (status, payload))
    (read : Exchange.readResponse objects msgpack [status, payload] = .ok result) :
    result = objects.none ∨ ∃ handler returned,
      manager.callableServices.lookup serviceName = some handler ∧ handler value = .ok returned ∧
        (DistinctKeys returned → depth returned ≤ limit → result = returned) := by
  rcases Exchange.readResponse_pair_eq_ok read with ⟨text, encoded, _⟩
  rw [Exchange.readResponse_of_encode encoded] at read
  by_cases success : text = ResponseStatus.success.text
  · rw [if_pos success] at read
    rw [success, ResponseStatus.encode_text] at encoded
    rw [← Option.some.inj encoded] at replied
    rcases ServiceManager.returned_of_success speaks documented packed distinct shallow replied with
      ⟨handler, found, ⟨_, nothing⟩ | ⟨returned, handled, sent⟩⟩
    · exact absurd read (nothing result)
    · refine Or.inr ⟨handler, returned, found, handled, ?_⟩
      intro resultDistinct resultShallow
      rw [unpackb_packb speaks sent resultDistinct resultShallow] at read
      split at read
      next =>
        cases read
        rfl
      next => cases read
  · rw [if_neg success] at read
    cases read
    exact Or.inl rfl

/-- Two requests to a service that returns its argument. -/
def echoRun : List (CallEvent (Handler Value)) :=
  [.registerService "echo" fun arg => .ok arg, .sends [[101, 99, 104, 111], [8]],
    .sends [[101, 99, 104, 111], [7]], .arrives 1, .arrives 0,
    .iterate (ServiceManager.answering (Msgpack.standard 512) false), .timesOut 0, .returns 1]

/-- A registry of a node that knows the service. -/
def echoRegistry : NodesInfoManager Unit :=
  { (NodesInfoManager.init "viewer" "10.0.0.9" "123e4567-e89b-12d3-a456-426614174001") with
    localNodeInfo :=
      { (NodesInfoManager.init (η := Unit) "viewer" "10.0.0.9"
          "123e4567-e89b-12d3-a456-426614174001").localNodeInfo with
        services := [{ name := Text.ofString "echo", ip := "10.0.0.9", port := 5000 }] } }

/-- The exchange of the second request. -/
def echoExchange : Text → Exchange :=
  fun _ => (CallOutcome.returned [ResponseStatus.success.encode, [7]]).exchange

/-- The request itself. -/
def echoRequest : Action PyError RequestState Value :=
  zlcRequestAsync Objects.standard (Msgpack.standard 512) echoRegistry echoExchange
    (Text.ofString "echo") (.scalar (.int 7))

end ServiceCalls

end Pyzlc
