import Pyzlc.Foundation.Effect
import Pyzlc.Utils.Msg
import Pyzlc.Utils.Msgpack

/-!
# Requests of a client

One request opens a REQ socket, sends two frames, waits for a reply and cleans up.  Every
step before the cleanup may fail, and the reply may have any number of frames with any
bytes in them.
-/

namespace Pyzlc

open Foundation

/-- An exception that `except Exception` catches. -/
abbrev OrdinaryError := { error : PyError // error.isException = true }

/-- A REQ socket: whether the endpoint was connected, and whether it was closed. -/
structure ReqSocket where
  connected : Bool
  closed : Bool
  deriving DecidableEq, Repr

/-- How the environment answers the steps of one request.  A wait that runs out of time is
a failed receive. -/
structure Exchange where
  socket : Option OrdinaryError
  connect : Option OrdinaryError
  send : List Bytes → Option OrdinaryError
  receive : List Bytes → Except OrdinaryError (List Bytes)

/-- The local variables of `send_bytes_request`. -/
structure RequestState where
  response : Option (List Bytes)
  sock : Option ReqSocket
  deriving DecidableEq, Repr

namespace Exchange

/-- A step that fails or returns. -/
def orFail (failure : Option OrdinaryError) : Action PyError RequestState Unit :=
  match failure with
  | some error => throw error.1
  | none => pure ()

/-- The value of a step that may raise. -/
def orRaise {β : Type} (result : Except PyError β) : Action PyError RequestState β :=
  match result with
  | .ok value => pure value
  | .error error => throw error

/-- The `try` block from the encoded name on. -/
def exchangeFrames (exchange : Exchange) (request : List Bytes) :
    Action PyError RequestState Unit := do
  orFail (exchange.send request)
  let response ← orRaise ((exchange.receive request).mapError Subtype.val)
  modify fun state => { state with response := some response }
  if response.length ≠ 2 then
    throw .assertionError

/-- The `try` block of `send_bytes_request`. -/
def tryBlock (exchange : Exchange) (serviceName : Text) (bytesMsgs : Bytes) :
    Action PyError RequestState Unit := do
  orFail exchange.socket
  modify fun state => { state with sock := some { connected := false, closed := false } }
  orFail exchange.connect
  modify fun state => { state with sock := some { connected := true, closed := false } }
  let name ← orRaise (encodeUtf8 serviceName)
  exchange.exchangeFrames [name, bytesMsgs]

/-- The `finally` block: `disconnect` raises for an endpoint that was never connected. -/
def finallyBlock : Action PyError RequestState Unit := do
  let state ← get
  match state.sock with
  | none => pure ()
  | some socket =>
      if socket.connected then
        set { state with sock := some { socket with closed := true } }
      else
        throw .zmqError

/-- Send a bytes request to the specified address and return the response.  Both `except`
branches log and go on. -/
def sendBytesRequest (exchange : Exchange) (serviceName : Text) (bytesMsgs : Bytes) :
    Action PyError RequestState (Option (List Bytes)) := do
  try
    tryBlock exchange serviceName bytesMsgs
  catch _ =>
    pure ()
  finallyBlock
  return (← get).response

end Exchange

/-- What the code can tell of the objects it sends. -/
structure Objects (α : Type) where
  none : α
  asBytes : α → Option Bytes

/-- The objects of the format. -/
def Objects.standard : Objects MessagePack.Value where
  none := .scalar .nil
  asBytes
    | .scalar (.bin bytes) => some bytes
    | _ => Option.none

namespace Exchange

variable {α : Type}

/-- The bytes of a request; bytes are sent as they are. -/
def requestBytes (objects : Objects α) (msgpack : Msgpack α) (request : α) :
    Except PyError (Option Bytes) :=
  match objects.asBytes request with
  | some bytes => .ok (some bytes)
  | none => msgpack.packb { useBinType := true } request

/-- `response[index]`. -/
def frame (response : List Bytes) (index : Nat) : Except PyError Bytes :=
  match response[index]? with
  | some bytes => .ok bytes
  | none => .error (.exception (Text.ofString "IndexError"))

/-- What `send_request` does with a response that is not `None`. -/
def readResponse (objects : Objects α) (msgpack : Msgpack α) (response : List Bytes) :
    Except PyError α := do
  let status ← frame response 0
  let text ← decodeUtf8 status
  if text ≠ ResponseStatus.success.text then
    return objects.none
  else do
    let payload ← frame response 1
    msgpack.unpackb {} payload

/-- Send a request to the specified address and return the response. -/
def sendRequest (objects : Objects α) (msgpack : Msgpack α) (exchange : Exchange)
    (serviceName : Text) (request : α) : Action PyError RequestState α := do
  match ← orRaise (requestBytes objects msgpack request) with
  | none => return objects.none
  | some bytes =>
      match ← sendBytesRequest exchange serviceName bytes with
      | none => return objects.none
      | some response => orRaise (readResponse objects msgpack response)

/-- The variables before the first step. -/
def start : RequestState where
  response := none
  sock := none

/-- The reply, if the exchange gets that far. -/
def replyOf (exchange : Exchange) (serviceName : Text) (bytesMsgs : Bytes) :
    Option (List Bytes) :=
  match exchange.socket, exchange.connect, serviceName.encode with
  | none, none, some name =>
      match exchange.send [name, bytesMsgs], exchange.receive [name, bytesMsgs] with
      | none, .ok response => some response
      | _, _ => none
  | _, _, _ => none

/-- The socket when the block ends. -/
def sockOf (exchange : Exchange) : Option ReqSocket :=
  match exchange.socket with
  | some _ => none
  | none => some { connected := exchange.connect.isNone, closed := false }

variable {exchange : Exchange} {serviceName : Text} {bytesMsgs : Bytes}

/-- What the exchange of frames leaves in the variables, however it ends. -/
theorem after_exchangeFrames (request : List Bytes) (state : RequestState) :
    (exchange.exchangeFrames request).after state =
      match exchange.send request, exchange.receive request with
      | none, .ok response => { state with response := some response }
      | _, _ => state := by
  rcases exchange with ⟨socket, connect, send, receive⟩
  cases sent : send request with
  | some error => simp only [exchangeFrames, sent]; rfl
  | none =>
      cases received : receive request with
      | error error => simp only [exchangeFrames, sent, received]; rfl
      | ok response =>
          simp only [exchangeFrames, sent, received]
          show Action.after (if response.length ≠ 2 then throw PyError.assertionError else pure ())
            { state with response := some response } = _
          by_cases other : response.length ≠ 2
          · rw [if_pos other]; rfl
          · rw [if_neg other]; rfl

/-- What the block leaves in the variables, however it ends. -/
theorem after_tryBlock :
    (exchange.tryBlock serviceName bytesMsgs).after start =
      { response := exchange.replyOf serviceName bytesMsgs, sock := exchange.sockOf } := by
  rcases exchange with ⟨socket, connect, send, receive⟩
  cases socket with
  | some error => rfl
  | none =>
      cases connect with
      | some error => rfl
      | none =>
          cases encoded : serviceName.encode with
          | none => simp only [tryBlock, replyOf, encodeUtf8, encoded]; rfl
          | some name =>
              simp only [tryBlock, replyOf, encodeUtf8, encoded]
              refine Eq.trans (after_exchangeFrames [name, bytesMsgs] _) ?_
              cases sent : send [name, bytesMsgs] with
              | some error => simp only [sent]; rfl
              | none =>
                  cases received : receive [name, bytesMsgs] <;>
                    simp only [sent, received] <;> rfl

/-- The endpoint was never connected although the socket exists. -/
def Unconnected (exchange : Exchange) : Prop :=
  exchange.socket = none ∧ exchange.connect ≠ none

/-- The variables after the cleanup. -/
def closedState (exchange : Exchange) (serviceName : Text) (bytesMsgs : Bytes) : RequestState where
  response := exchange.replyOf serviceName bytesMsgs
  sock := exchange.sockOf.map fun socket => { socket with closed := true }

theorem run_sendBytesRequest :
    (exchange.sendBytesRequest serviceName bytesMsgs).run start =
      match finallyBlock.run ((exchange.tryBlock serviceName bytesMsgs).after start) with
      | .ok _ next => .ok next.response next
      | .error error next => .error error next := by
  rw [sendBytesRequest, Action.bind_of_ok (Action.run_tryCatch _ start), Action.run_bind]
  cases finallyBlock.run ((exchange.tryBlock serviceName bytesMsgs).after start) <;> rfl

/-- A request over an endpoint that was connected returns and closes its socket. -/
theorem sendBytesRequest_of_connected (connected : ¬ exchange.Unconnected) :
    (exchange.sendBytesRequest serviceName bytesMsgs).run start =
      .ok (exchange.replyOf serviceName bytesMsgs)
        (exchange.closedState serviceName bytesMsgs) := by
  rw [run_sendBytesRequest, after_tryBlock]
  rcases exchange with ⟨socket, connect, send, receive⟩
  cases socket with
  | some error => rfl
  | none =>
      cases connect with
      | none => rfl
      | some error => exact absurd ⟨rfl, Option.some_ne_none _⟩ connected

/-- Where the connect failed, the cleanup raises before it closes the socket. -/
theorem sendBytesRequest_of_unconnected (unconnected : exchange.Unconnected) :
    (exchange.sendBytesRequest serviceName bytesMsgs).run start =
      .error .zmqError
        { response := none, sock := some { connected := false, closed := false } } := by
  rw [run_sendBytesRequest, after_tryBlock]
  rcases exchange with ⟨socket, connect, send, receive⟩
  rcases unconnected with ⟨rfl, failed⟩
  cases connect with
  | none => exact absurd rfl failed
  | some error => rfl

end Exchange

end Pyzlc
