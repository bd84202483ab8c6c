import Pyzlc.Sockets.ServiceHandler
import Pyzlc.Utils.RequestOutcomes

/-!
# Payloads end to end

A published value crosses one `packb` and one `unpackb`, a request and its response two of
each.  The encoder takes maps with any scalar keys and the decoder only those whose keys
are texts or byte strings, so exactly the values with such keys arrive.
-/

namespace Pyzlc

open Foundation

variable {α : Type}

/-- `Publisher.publish`: the bytes the socket sends; `send(None)` is a `TypeError`. -/
def publish (msgpack : Msgpack α) (msg : α) : Except PyError Bytes := do
  match ← msgpack.packb {} msg with
  | some msgpacked => return msgpacked
  | none => throw (.exception (Text.ofString "TypeError"))

/-- `Subscriber.receive_loop` on the messages its socket yields: the arguments the callback
is called with.  What leaves the handlers ends the loop. -/
def receiveLoop (msgpack : Msgpack α) (callback : α → Except PyError Unit) : List Bytes → List α
  | [] => []
  | msg :: rest =>
      match msgpack.unpackb {} msg with
      | .error error => if error.isException then receiveLoop msgpack callback rest else []
      | .ok value =>
          value ::
            match callback value with
            | .error error => if error.isException then receiveLoop msgpack callback rest else []
            | .ok _ => receiveLoop msgpack callback rest

/-- The arguments the wrapper calls its handler with for a request. -/
def handlerCalls (msgpack : Msgpack α) (requestBytes : Bytes) : List α :=
  match msgpack.unpackb { raw := false } requestBytes with
  | .ok arg => [arg]
  | .error _ => []

/-- A request through a running service loop that answers in time. -/
def answerFrames (msgpack : Msgpack α) (manager : ServiceManager (Handler α))
    (frames : List Bytes) : Except PyError (Bytes × Bytes) := do
  let pair ← ServiceManager.unpackPair frames
  let serviceName ← decodeUtf8 pair.1
  manager.reply msgpack false serviceName pair.2

/-- What its client receives; a request that gets no reply runs out of time. -/
def serve (msgpack : Msgpack α) (manager : ServiceManager (Handler α)) (frames : List Bytes) :
    Except OrdinaryError (List Bytes) :=
  match answerFrames msgpack manager frames with
  | .ok reply => .ok [reply.1, reply.2]
  | .error _ => .error ⟨.timeoutError, PyError.isException_timeoutError⟩

/-- An exchange with such a service. -/
def serving (msgpack : Msgpack α) (manager : ServiceManager (Handler α)) : Exchange where
  socket := none
  connect := none
  send _ := none
  receive := serve msgpack manager

open MessagePack (Value DistinctKeys strictKeys depth)

section Values

variable {msgpack : Msgpack Value} {limit : Nat} {value : Value} {bytes : Bytes}

/-- What comes out of a packed value: itself, if its keys are strict. -/
theorem unpackb_packb (speaks : msgpack.SpeaksMessagePack limit)
    (packed : msgpack.packb {} value = .ok (some bytes)) (distinct : DistinctKeys value)
    (shallow : depth value ≤ limit) :
    msgpack.unpackb {} bytes =
      if strictKeys value then .ok value else .error .valueError := by
  have decoded := MessagePack.decode_encode value (speaks.packb value bytes packed) shallow []
  rw [List.append_nil] at decoded
  rw [speaks.unpackb bytes value [] decoded distinct, if_pos rfl]

theorem publish_eq_ok {α : Type} {msgpack : Msgpack α} {value : α} {bytes : Bytes} :
    publish msgpack value = .ok bytes ↔ msgpack.packb {} value = .ok (some bytes) := by
  rw [publish, except_bind_eq_ok]
  constructor
  · rintro ⟨packed, packing, sent⟩
    cases packed with
    | none => cases sent
    | some found =>
        cases sent
        exact packing
  · intro packing
    exact ⟨some bytes, packing, rfl⟩

/-- Among published values the loop calls back with those whose keys are strict, and the
others do not end it. -/
theorem receiveLoop_published (speaks : msgpack.SpeaksMessagePack limit)
    {callback : Value → Except PyError Unit}
    (ordinary : ∀ value error, callback value = .error error → error.isException = true)
    {values : List Value} {messages : List Bytes}
    (published : List.Forall₂ (fun value message => publish msgpack value = .ok message ∧
      DistinctKeys value ∧ depth value ≤ limit) values messages) :
    receiveLoop msgpack callback messages = values.filter strictKeys := by
  induction published with
  | nil => rfl
  | @cons value message values messages first _ ih =>
      rcases first with ⟨sent, distinct, shallow⟩
      rw [receiveLoop, unpackb_packb speaks (publish_eq_ok.1 sent) distinct shallow]
      by_cases strict : strictKeys value = true
      · rw [if_pos strict, List.filter_cons_of_pos strict]
        cases called : callback value with
        | ok _ => simp only [called, ih]
        | error error => simp only [called, ordinary value error called, if_true, ih]
      · rw [if_neg strict, List.filter_cons_of_neg strict]
        exact ih

/-- One published value reaches the callback exactly if its keys are strict. -/
theorem receiveLoop_publish_iff (speaks : msgpack.SpeaksMessagePack limit)
    (sent : publish msgpack value = .ok bytes) (distinct : DistinctKeys value)
    (shallow : depth value ≤ limit) (callback : Value → Except PyError Unit) :
    receiveLoop msgpack callback [bytes] = [value] ↔ strictKeys value = true := by
  rw [receiveLoop, unpackb_packb speaks (publish_eq_ok.1 sent) distinct shallow]
  by_cases strict : strictKeys value = true
  · rw [if_pos strict]
    refine ⟨fun _ => strict, fun _ => ?_⟩
    cases called : callback value with
    | ok _ => simp only [called, receiveLoop]
    | error error => simp only [called, receiveLoop, ite_self]
  · rw [if_neg strict]
    constructor
    · intro called
      cases called
    · intro accepted
      exact absurd accepted strict

end Values

/-- The reply to a request whose wrapper completes. -/
theorem replyOf_serving {msgpack : Msgpack α} {manager : ServiceManager (Handler α)}
    {serviceName : Text} {nameBytes : Bytes} (named : serviceName.encode = some nameBytes)
    {handler : Handler α} (found : manager.callableServices.lookup serviceName = some handler)
    {request payload : Bytes}
    (completed : ServiceManager.wrapperBody msgpack handler request = .ok payload) :
    (serving msgpack manager).replyOf serviceName request =
      some [ResponseStatus.success.encode, payload] := by
  have decoded : decodeUtf8 nameBytes = .ok serviceName := decodeUtf8_eq_ok.2 named
  have replied : manager.reply msgpack false serviceName request = _ :=
    ServiceManager.reply_of_value found completed
  have answered : answerFrames msgpack manager [nameBytes, request] =
      .ok (ResponseStatus.success.encode, payload) := by
    show (decodeUtf8 nameBytes).bind _ = _
    rw [decoded]
    exact replied
  have served : serve msgpack manager [nameBytes, request] =
      .ok [ResponseStatus.success.encode, payload] := by rw [serve, answered]
  simp only [Exchange.replyOf, serving, named, served]

section Values

variable {msgpack : Msgpack Value} {limit : Nat} {value : Value} {bytes : Bytes}

/-- A request is answered, and its handler called with what was sent, exactly if the keys
of both values are strict. -/
theorem sendRequest_serving_iff (speaks : msgpack.SpeaksMessagePack limit)
    {manager : ServiceManager (Handler Value)} {serviceName : Text} {nameBytes : Bytes}
    (named : serviceName.encode = some nameBytes) {handler : Handler Value}
    (found : manager.callableServices.lookup serviceName = some handler)
    {objects : Objects Value} (notBytes : objects.asBytes value = none)
    (packed : msgpack.packb {} value = .ok (some bytes)) (distinct : DistinctKeys value)
    (shallow : depth value ≤ limit)
    {result : Value} (returned : handler value = .ok result) {payload : Bytes}
    (resultPacked : msgpack.packb {} result = .ok (some payload))
    (resultDistinct : DistinctKeys result) (resultShallow : depth result ≤ limit) :
    (handlerCalls msgpack bytes = [value] ∧
      ∃ state, (Exchange.sendRequest objects msgpack (serving msgpack manager) serviceName
        value).run Exchange.start = .ok result state) ↔
      strictKeys value = true ∧ strictKeys result = true := by
  have unpacked := unpackb_packb speaks packed distinct shallow
  have resultUnpacked := unpackb_packb speaks resultPacked resultDistinct resultShallow
  by_cases strict : strictKeys value = true
  · rw [if_pos strict] at unpacked
    have called : handlerCalls msgpack bytes = [value] := by rw [handlerCalls, unpacked]
    have completed : ServiceManager.wrapperBody msgpack handler bytes = .ok payload :=
      ServiceManager.wrapperBody_eq_ok.2 ⟨value, result, unpacked, returned, resultPacked⟩
    have bytesSent : Exchange.requestBytes objects msgpack value = .ok (some bytes) := by
      rw [Exchange.requestBytes, notBytes]
      exact packed
    have connected : ¬ (serving msgpack manager).Unconnected := fun unconnected =>
      unconnected.2 rfl
    have ran : (Exchange.sendRequest objects msgpack (serving msgpack manager) serviceName
        value).run Exchange.start = _ := Exchange.run_sendRequest bytesSent connected
    rw [replyOf_serving named found completed] at ran
    simp only [Exchange.readResponse_success, resultUnpacked] at ran
    rw [ran]
    by_cases resultStrict : strictKeys result = true
    · rw [if_pos resultStrict]
      exact ⟨fun _ => ⟨strict, resultStrict⟩, fun _ => ⟨called, _, rfl⟩⟩
    · rw [if_neg resultStrict]
      constructor
      · rintro ⟨-, state, returnedResult⟩
        cases returnedResult
      · intro accepted
        exact absurd accepted.2 resultStrict
  · rw [if_neg strict] at unpacked
    constructor
    · intro delivered
      have called := delivered.1
      rw [handlerCalls, unpacked] at called
      cases called
    · intro accepted
      exact absurd accepted.1 strict

/-- Every hop of a payload: publication needs strict keys in the value, a request needs them
in the value and in the result of the handler. -/
theorem payloads_arrive_iff (speaks : msgpack.SpeaksMessagePack limit) {value result : Value}
    (distinct : DistinctKeys value) (shallow : depth value ≤ limit)
    (resultDistinct : DistinctKeys result) (resultShallow : depth result ≤ limit) :
    (∀ bytes callback, publish msgpack value = .ok bytes →
      (receiveLoop msgpack callback [bytes] = [value] ↔ strictKeys value = true)) ∧
    (∀ (manager : ServiceManager (Handler Value)) serviceName nameBytes handler bytes payload,
      serviceName.encode = some nameBytes →
      manager.callableServices.lookup serviceName = some handler →
      Objects.standard.asBytes value = none →
      msgpack.packb {} value = .ok (some bytes) →
      handler value = .ok result →
      msgpack.packb {} result = .ok (some payload) →
      ((handlerCalls msgpack bytes = [value] ∧
        ∃ state, (Exchange.sendRequest Objects.standard msgpack (serving msgpack manager)
          serviceName value).run Exchange.start = .ok result state) ↔
        strictKeys value = true ∧ strictKeys result = true)) := by
  constructor
  · intro bytes callback sent
    exact receiveLoop_publish_iff speaks sent distinct shallow callback
  · intro manager serviceName nameBytes handler bytes payload named found notBytes packed
      returned resultPacked
    exact sendRequest_serving_iff speaks named found notBytes packed distinct shallow returned
      resultPacked resultDistinct resultShallow

/-! ## A key that is an integer -/

/-- A map from a text to nothing. -/
def byName : Value := .map [(.str (Text.ofString "a"), .scalar .nil)]

/-- A map from an integer to nothing. -/
def byNumber : Value := .map [(.int 1, .scalar .nil)]

theorem distinctKeys_byName : DistinctKeys byName :=
  ⟨List.nodup_singleton _, trivial, trivial⟩

theorem payloads_arrive_iff_byName :
    receiveLoop (Msgpack.standard 512) (fun _ => .ok ()) [[0x81, 0xa1, 0x61, 0xc0]] = [byName] ∧
      handlerCalls (Msgpack.standard 512) [0x81, 0xa1, 0x61, 0xc0] = [byName] := by
  have arrives := payloads_arrive_iff (Msgpack.standard_speaksMessagePack 512)
    distinctKeys_byName (by decide) distinctKeys_byName (by decide)
  have packed : (Msgpack.standard 512).packb {} byName = .ok (some [0x81, 0xa1, 0x61, 0xc0]) := by
    decide +kernel
  have strict : strictKeys byName = true := rfl
  constructor
  · exact (arrives.1 _ _ (publish_eq_ok.2 packed)).2 strict
  · exact ((arrives.2 ServiceManager.echoing _ [0x65, 0x63, 0x68, 0x6f] _ _ _ (by decide +kernel)
      ServiceManager.lookup_echoing rfl packed rfl packed).2 ⟨strict, strict⟩).1

/-- A map with an integer for a key is packed and sent, and never called back with, whether
published or requested. -/
theorem not_payloads_arrive_byNumber :
    publish (Msgpack.standard 512) byNumber = .ok [0x81, 0x01, 0xc0] ∧
      receiveLoop (Msgpack.standard 512) (fun _ => .ok ()) [[0x81, 0x01, 0xc0]] = [] ∧
      handlerCalls (Msgpack.standard 512) [0x81, 0x01, 0xc0] = [] := by
  have rejected : (Msgpack.standard 512).unpackb {} [0x81, 0x01, 0xc0] = .error .valueError :=
    rfl
  refine ⟨?_, ?_, ?_⟩
  · exact publish_eq_ok.2 rfl
  · rw [receiveLoop, rejected]
    rfl
  · rfl

end Values

end Pyzlc
