import Pyzlc.Foundation.Dict
import Pyzlc.Foundation.Effect
import Pyzlc.Foundation.Machine
import Pyzlc.Utils.Msg

/-!
# The service loop

`ServiceManager` serves requests from one REP socket.  The socket alternates strictly:
after a receive it must send before it can receive again, and until then a poll for
input reports nothing.  It is fair-queued over its peers, so which of the waiting requests
comes next is up to it.  What a handler does with a request is a parameter of each
iteration of the loop.
-/

namespace Pyzlc

open Foundation

/-- The two states of a REP socket. -/
inductive RepState where
  | ready
  | mustSend
  deriving DecidableEq, Repr

/-- What passed through a socket, as multipart messages. -/
inductive SocketEvent where
  | received (frames : List Bytes)
  | sent (frames : List Bytes)
  deriving DecidableEq, Repr

/-- A REP socket, the requests that wait in it, the next one first, and what passed through it. -/
structure RepSocket where
  state : RepState
  inbox : List (List Bytes)
  history : List SocketEvent
  deriving DecidableEq, Repr

namespace RepSocket

/-- Another one of the waiting requests is the next one: a REP socket serves its clients in turns,
so the order in which requests have come does not say which is next. -/
def comesFirst (index : Nat) (socket : RepSocket) : Option RepSocket :=
  socket.inbox[index]?.map fun frames =>
    { socket with inbox := frames :: socket.inbox.eraseIdx index }

/-- `poll` for input. -/
def poll (socket : RepSocket) : Bool := socket.state = .ready && !socket.inbox.isEmpty

/-- `recv_multipart`; the loop calls it only after a poll, so with a request waiting. -/
def recvMultipart : Action PyError RepSocket (List Bytes) := do
  let socket ← get
  match socket.state, socket.inbox with
  | .ready, frames :: rest =>
      set { socket with
        state := .mustSend, inbox := rest,
        history := socket.history ++ [SocketEvent.received frames] }
      pure frames
  | _, _ => throw .zmqError

/-- `send_multipart`. -/
def sendMultipart (frames : List Bytes) : Action PyError RepSocket Unit := do
  let socket ← get
  match socket.state with
  | .mustSend =>
      set { socket with state := .ready, history := socket.history ++ [SocketEvent.sent frames] }
  | .ready => throw .zmqError

end RepSocket

/-- How `await asyncio.wait_for(...)` on a handler ends. -/
inductive HandlerOutcome where
  | value (result : Option Bytes)
  | raised (error : PyError) (ordinary : error.isException = true)
  | cancelled

/-- The manager, with services of type `κ`. -/
structure ServiceManager (κ : Type) where
  running : Bool
  ended : Bool
  callableServices : Dict Text κ
  resSocket : RepSocket

namespace ServiceManager

variable {κ : Type}

/-- The handlers of one iteration. -/
abbrev Answer (κ : Type) := κ → Bytes → HandlerOutcome

/-- `_handle_request`: status and result of a request, or an exception that passes. -/
def handleRequest (answer : Answer κ) (serviceName : Text) (request : Bytes)
    (manager : ServiceManager κ) : Except PyError (Bytes × Bytes) :=
  match manager.callableServices.lookup serviceName with
  | none => .ok (ResponseStatus.noService.encode, [])
  | some service =>
      match answer service request with
      | .value result => .ok (ResponseStatus.success.encode, result.getD [])
      | .cancelled =>
          if manager.running then .ok (ResponseStatus.unknownError.encode, [])
          else .error .cancelledError
      | .raised error _ =>
          match error with
          | .runtimeError =>
              if manager.running then .ok (ResponseStatus.unknownError.encode, [])
              else .error .runtimeError
          | .timeoutError => .ok (ResponseStatus.serviceTimeout.encode, [])
          | .extraData => .ok (ResponseStatus.invalidRequest.encode, [])
          | _ => .ok (ResponseStatus.unknownError.encode, [])

/-- `name_bytes, request = frames`. -/
def unpackPair : List Bytes → Except PyError (Bytes × Bytes)
  | [nameBytes, request] => .ok (nameBytes, request)
  | _ => .error .valueError

/-- Run an action of the socket alone. -/
def onSocket {α : Type} (action : Action PyError RepSocket α) :
    Action PyError (ServiceManager κ) α :=
  Action.zoom resSocket (fun socket manager => { manager with resSocket := socket }) action

/-- The value of a computation that may raise. -/
def orRaise {α : Type} (result : Except PyError α) : Action PyError (ServiceManager κ) α :=
  match result with
  | .ok value => pure value
  | .error error => throw error

/-- The `try` block of `service_loop`. -/
def serveOne (answer : Answer κ) : Action PyError (ServiceManager κ) Unit := do
  let manager ← get
  if manager.resSocket.poll then
    let frames ← onSocket RepSocket.recvMultipart
    let pair ← orRaise (unpackPair frames)
    let serviceName ← orRaise (decodeUtf8 pair.1)
    let manager ← get
    let reply ← orRaise (manager.handleRequest answer serviceName pair.2)
    onSocket (RepSocket.sendMultipart [reply.1, reply.2])

/-- One iteration of `service_loop`, from its head to its head. -/
def iterate (answer : Answer κ) (manager : ServiceManager κ) : ServiceManager κ :=
  if manager.running then
    match (serveOne answer).run manager with
    | .ok _ next => next
    | .error error next =>
        if error.isException && next.running then next else { next with ended := true }
  else { manager with ended := true }

inductive ServiceEvent (κ : Type) where
  | arrives (frames : List Bytes)
  | comesFirst (index : Nat)
  | iterate (answer : Answer κ)
  | registerService (serviceName : Text) (service : κ)
  | stop

def step (manager : ServiceManager κ) : ServiceEvent κ → Option (ServiceManager κ)
  | .arrives frames => some { manager with
      resSocket := { manager.resSocket with inbox := manager.resSocket.inbox ++ [frames] } }
  | .comesFirst index =>
      (manager.resSocket.comesFirst index).map fun socket => { manager with resSocket := socket }
  | .iterate answer => if manager.ended then none else some (manager.iterate answer)
  | .registerService serviceName service => some { manager with
      callableServices := Dict.set manager.callableServices serviceName service }
  | .stop => some { manager with running := false }

def init : ServiceManager κ where
  running := true
  ended := false
  callableServices := ∅
  resSocket := { state := .ready, inbox := [], history := [] }

def machine : Machine (ServiceManager κ) (ServiceEvent κ) where
  start := init
  step := step

end ServiceManager

end Pyzlc
