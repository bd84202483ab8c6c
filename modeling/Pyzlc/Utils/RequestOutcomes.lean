import Pyzlc.Utils.Request

/-!
# How requests end

A client should get the payload of a well-formed successful reply, nothing in every other
case, and no exception.  Which replies and failures lead there is settled by following
the exchange through both functions.
-/

namespace Pyzlc

open Foundation

namespace Exchange

variable {α : Type} {objects : Objects α} {msgpack : Msgpack α} {exchange : Exchange}
  {serviceName : Text} {request : α} {bytes : Bytes}

/-- The object a caller should get for a reply: the payload of two frames that report
success, and `None` otherwise. -/
def deserved (objects : Objects α) (msgpack : Msgpack α) : Option (List Bytes) → α
  | some [status, payload] =>
      if status = ResponseStatus.success.encode then
        match msgpack.unpackb {} payload with
        | .ok value => value
        | .error _ => objects.none
      else
        objects.none
  | _ => objects.none

/-- Both functions return: the first `None` or two frames, with its socket closed, and the
second what the caller should get. -/
structure AbsorbsFailures (objects : Objects α) (msgpack : Msgpack α) (exchange : Exchange)
    (serviceName : Text) (request : α) (bytes : Bytes) : Prop where
  frames : ∃ response state,
    (exchange.sendBytesRequest serviceName bytes).run start = .ok response state ∧
      (∀ frames, response = some frames → frames.length = 2) ∧
      ∀ socket, state.sock = some socket → socket.closed = true
  payload : ∃ state,
    (sendRequest objects msgpack exchange serviceName request).run start =
      .ok (deserved objects msgpack (exchange.replyOf serviceName bytes)) state

/-- The connect succeeds, and a reply that arrives has two frames, of which the first is a
text and the second an object if the first reports success. -/
structure Expected (msgpack : Msgpack α) (exchange : Exchange) (serviceName : Text)
    (bytes : Bytes) : Prop where
  connected : ¬ exchange.Unconnected
  reply : ∀ response, exchange.replyOf serviceName bytes = some response →
    ∃ status payload text, response = [status, payload] ∧ Text.encode text = some status ∧
      (text = ResponseStatus.success.text → ∃ value, msgpack.unpackb {} payload = .ok value)

theorem run_sendRequest (packed : requestBytes objects msgpack request = .ok (some bytes))
    (connected : ¬ exchange.Unconnected) :
    (sendRequest objects msgpack exchange serviceName request).run start =
      match exchange.replyOf serviceName bytes with
      | none => .ok objects.none (exchange.closedState serviceName bytes)
      | some response =>
          (orRaise (readResponse objects msgpack response)).run
            (exchange.closedState serviceName bytes) := by
  have sent : (exchange.sendBytesRequest serviceName bytes).run start = _ :=
    sendBytesRequest_of_connected connected
  have bytesRan : (orRaise (requestBytes objects msgpack request)).run start =
      .ok (some bytes) start := by
    rw [packed]
    rfl
  rw [sendRequest, Action.bind_of_ok bytesRan]
  show (exchange.sendBytesRequest serviceName bytes >>= _).run start = _
  rw [Action.bind_of_ok sent]
  cases exchange.replyOf serviceName bytes <;> rfl

theorem closed_closedState {socket : ReqSocket}
    (opened : (exchange.closedState serviceName bytes).sock = some socket) :
    socket.closed = true := by
  rcases Option.map_eq_some_iff.1 opened with ⟨_, -, rfl⟩
  rfl

theorem readResponse_of_encode {status payload : Bytes} {text : Text}
    (encoded : Text.encode text = some status) :
    readResponse objects msgpack [status, payload] =
      if text = ResponseStatus.success.text then msgpack.unpackb {} payload
      else .ok objects.none := by
  show (decodeUtf8 status).bind _ = _
  rw [decodeUtf8_eq_ok.2 encoded]
  by_cases success : text = ResponseStatus.success.text
  · simp only [Except.bind, success, ne_eq, not_true_eq_false, if_false, if_true]
    rfl
  · simp only [Except.bind, success, ne_eq, not_false_eq_true, if_true, if_false]
    rfl

theorem readResponse_success (payload : Bytes) :
    readResponse objects msgpack [ResponseStatus.success.encode, payload] =
      msgpack.unpackb {} payload := by
  rw [readResponse_of_encode (ResponseStatus.encode_text .success), if_pos rfl]

/-- Two frames are read as they deserve, unless the status is no text or the payload of a
success no object. -/
theorem readResponse_pair {status payload : Bytes} {text : Text}
    (encoded : Text.encode text = some status)
    (object : text = ResponseStatus.success.text →
      ∃ value, msgpack.unpackb {} payload = .ok value) :
    readResponse objects msgpack [status, payload] =
      .ok (deserved objects msgpack (some [status, payload])) := by
  rw [readResponse_of_encode encoded]
  by_cases success : text = ResponseStatus.success.text
  · have same : status = ResponseStatus.success.encode := by
      rw [success, ResponseStatus.encode_text] at encoded
      exact (Option.some.inj encoded).symm
    rcases object success with ⟨value, unpacked⟩
    rw [if_pos success, deserved, if_pos same, unpacked]
  · have other : status ≠ ResponseStatus.success.encode := by
      intro same
      apply success
      rw [same] at encoded
      exact Text.encode_inj encoded (ResponseStatus.encode_text .success)
    rw [if_neg success, deserved, if_neg other]

/-- What can be read of two frames at all. -/
theorem readResponse_pair_eq_ok {status payload : Bytes} {value : α}
    (read : readResponse objects msgpack [status, payload] = .ok value) :
    ∃ text, Text.encode text = some status ∧
      (text = ResponseStatus.success.text →
        ∃ value, msgpack.unpackb {} payload = .ok value) := by
  cases decoded : decodeUtf8 status with
  | error error =>
      change (decodeUtf8 status).bind _ = _ at read
      rw [decoded] at read
      cases read
  | ok text =>
      have encoded := decodeUtf8_eq_ok.1 decoded
      refine ⟨text, encoded, fun success => ⟨value, ?_⟩⟩
      rw [readResponse_of_encode encoded, if_pos success] at read
      exact read

/-- Requests absorb every failure exactly where the exchange is as expected. -/
theorem absorbsFailures_iff (packed : requestBytes objects msgpack request = .ok (some bytes)) :
    AbsorbsFailures objects msgpack exchange serviceName request bytes ↔
      Expected msgpack exchange serviceName bytes := by
  constructor
  · intro absorbs
    have connected : ¬ exchange.Unconnected := by
      intro unconnected
      rcases absorbs.frames with ⟨response, state, ran, -⟩
      rw [sendBytesRequest_of_unconnected unconnected] at ran
      cases ran
    refine ⟨connected, ?_⟩
    intro response replied
    have two : response.length = 2 := by
      rcases absorbs.frames with ⟨frames, state, ran, twoFrames, -⟩
      rw [sendBytesRequest_of_connected connected, replied] at ran
      cases ran
      exact twoFrames response rfl
    rcases List.length_eq_two.1 two with ⟨status, payload, rfl⟩
    rcases absorbs.payload with ⟨state, ran⟩
    rw [run_sendRequest packed connected, replied] at ran
    cases read : readResponse objects msgpack [status, payload] with
    | error error =>
        simp only [read] at ran
        cases ran
    | ok value =>
        rcases readResponse_pair_eq_ok read with ⟨text, encoded, object⟩
        exact ⟨status, payload, text, rfl, encoded, object⟩
  · intro expected
    have ran : (sendRequest objects msgpack exchange serviceName request).run start = _ :=
      run_sendRequest packed expected.connected
    constructor
    · refine ⟨_, _, sendBytesRequest_of_connected expected.connected, ?_, ?_⟩
      · intro frames replied
        rcases expected.reply frames replied with ⟨status, payload, text, rfl, -⟩
        rfl
      · intro socket opened
        exact closed_closedState opened
    · refine ⟨exchange.closedState serviceName bytes, ?_⟩
      rw [ran]
      cases replied : exchange.replyOf serviceName bytes with
      | none => rfl
      | some response =>
          rcases expected.reply response replied with
            ⟨status, payload, text, rfl, encoded, object⟩
          simp only [readResponse_pair encoded object]
          rfl

/-! ## Exchanges of a request for `nil` -/

/-- An exchange in which every step succeeds and the reply is given. -/
def answering (frames : List Bytes) : Exchange where
  socket := none
  connect := none
  send _ := none
  receive _ := .ok frames

/-- An exchange whose connect fails. -/
def refusing : Exchange where
  socket := none
  connect := some ⟨.zmqError, PyError.isException_zmqError⟩
  send _ := none
  receive _ := .error ⟨.timeoutError, PyError.isException_timeoutError⟩

/-- A reply of two frames that reports success. -/
theorem absorbsFailures_iff_answering :
    AbsorbsFailures Objects.standard (Msgpack.standard 512)
      (answering [ResponseStatus.success.encode, [0xc0]]) (Text.ofString "echo") (.scalar .nil)
      [0xc0] := by
  refine (absorbsFailures_iff rfl).2 ⟨?_, ?_⟩
  · intro unconnected
    exact unconnected.2 rfl
  · intro response replied
    cases replied
    exact ⟨_, _, _, rfl, ResponseStatus.encode_text .success, fun _ => ⟨.scalar .nil, rfl⟩⟩

/-- A failed connect raises out of both functions and leaves the socket open; a third frame
is not refused; a lone frame that reports success raises. -/
theorem not_absorbsFailures_refusing :
    (∃ state, (refusing.sendBytesRequest (Text.ofString "echo") [0xc0]).run start =
        .error .zmqError state ∧ state.sock = some { connected := false, closed := false }) ∧
      ¬ AbsorbsFailures Objects.standard (Msgpack.standard 512) refusing (Text.ofString "echo")
        (.scalar .nil) [0xc0] ∧
      ¬ AbsorbsFailures Objects.standard (Msgpack.standard 512)
        (answering [ResponseStatus.success.encode, [0xc0], []]) (Text.ofString "echo")
        (.scalar .nil) [0xc0] ∧
      ¬ AbsorbsFailures Objects.standard (Msgpack.standard 512)
        (answering [ResponseStatus.success.encode]) (Text.ofString "echo")
        (.scalar .nil) [0xc0] := by
  have refused : refusing.Unconnected := ⟨rfl, Option.some_ne_none _⟩
  have wrongFrames : ∀ frames : List Bytes, frames.length ≠ 2 →
      ¬ AbsorbsFailures Objects.standard (Msgpack.standard 512) (answering frames)
        (Text.ofString "echo") (.scalar .nil) [0xc0] := by
    intro frames other absorbs
    have connected : ¬ (answering frames).Unconnected := fun unconnected => unconnected.2 rfl
    rcases absorbs.frames with ⟨response, state, ran, twoFrames, -⟩
    rw [sendBytesRequest_of_connected connected] at ran
    cases ran
    exact other (twoFrames frames rfl)
  refine ⟨⟨_, sendBytesRequest_of_unconnected refused, rfl⟩, ?_,
    wrongFrames _ (by decide), wrongFrames _ (by decide)⟩
  intro absorbs
  rcases absorbs.frames with ⟨response, state, ran, -⟩
  rw [sendBytesRequest_of_unconnected refused] at ran
  cases ran

end Exchange

end Pyzlc
