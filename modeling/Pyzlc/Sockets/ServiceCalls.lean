import Pyzlc.Foundation.Serials
import Pyzlc.Sockets.ServiceReplies

/-!
# Many clients and one service loop

A call opens a REQ socket, sends one message and waits until a reply or its timeout.  The REP
socket of the service hands out the requests that wait in any order, sends each reply to the peer of
the request it received last, whoever that is, and drops it if that peer is gone.  Requests are in
transit for any time, a client may give up at any moment, and the loop knows nothing of either.
-/

namespace Pyzlc

open Foundation

/-- How `send_bytes_request` ends its wait. -/
inductive CallOutcome where
  | returned (frames : List Bytes)
  | timedOut
  deriving DecidableEq, Repr

/-- One call of `send_bytes_request`: what it sent, whether that has arrived, the reply on its way
back, and how it ended. -/
structure ServiceCall where
  request : List Bytes
  arrived : Bool
  reply : Option (List Bytes)
  outcome : Option CallOutcome
  deriving DecidableEq, Repr

/-- A call that has just sent its message. -/
def ServiceCall.sent (frames : List Bytes) : ServiceCall where
  request := frames
  arrived := false
  reply := none
  outcome := none

/-- The service, the calls made so far, the peers of the requests that wait in its socket, and the
peer of the request it received last. -/
structure ServiceCalls (κ : Type) where
  server : ServiceManager κ
  calls : List ServiceCall
  peers : List Nat
  serving : Option Nat

inductive CallEvent (κ : Type) where
  | sends (frames : List Bytes)
  | arrives (serial : Nat)
  | comesFirst (index : Nat)
  | iterate (answer : ServiceManager.Answer κ)
  | registerService (serviceName : Text) (service : κ)
  | stop
  | returns (serial : Nat)
  | timesOut (serial : Nat)

namespace ServiceCalls

variable {κ : Type}

/-- Give a reply to the call it is for. -/
def addressed (frames : List Bytes) (serial : Nat) (calls : List ServiceCall) :
    List ServiceCall :=
  match calls[serial]? with
  | none => calls
  | some call => calls.set serial { call with reply := some frames }

/-- What passes through the socket, as the clients see it. -/
def routeOne (state : ServiceCalls κ) : SocketEvent → ServiceCalls κ
  | .received _ => { state with serving := state.peers.head?, peers := state.peers.tail }
  | .sent frames =>
      match state.serving with
      | none => state
      | some serial => { state with calls := addressed frames serial state.calls }

/-- The state after a step of the service. -/
def route (server : ServiceManager κ) (state : ServiceCalls κ) : ServiceCalls κ :=
  (server.resSocket.history.drop state.server.resSocket.history.length).foldl routeOne
    { state with server := server }

def step (state : ServiceCalls κ) : CallEvent κ → Option (ServiceCalls κ)
  | .sends frames => some { state with calls := state.calls ++ [.sent frames] }
  | .arrives serial => do
      let call ← state.calls[serial]?
      let server ← state.server.step (.arrives call.request)
      if call.arrived then none
      else some { state with
        server := server
        calls := state.calls.set serial { call with arrived := true }
        peers := state.peers ++ [serial] }
  | .comesFirst index => do
      let serial ← state.peers[index]?
      let server ← state.server.step (.comesFirst index)
      some { state with server := server, peers := serial :: state.peers.eraseIdx index }
  | .iterate answer => (state.server.step (.iterate answer)).map fun server => state.route server
  | .registerService serviceName service =>
      (state.server.step (.registerService serviceName service)).map fun server =>
        state.route server
  | .stop => (state.server.step .stop).map fun server => state.route server
  | .returns serial => do
      let call ← state.calls[serial]?
      let frames ← call.reply
      if call.outcome.isSome then none
      else some { state with
        calls := state.calls.set serial { call with outcome := some (.returned frames) } }
  | .timesOut serial => do
      let call ← state.calls[serial]?
      if call.outcome.isSome then none
      else some { state with
        calls := state.calls.set serial { call with outcome := some .timedOut } }

def machine : Machine (ServiceCalls κ) (CallEvent κ) where
  start := { server := ServiceManager.init, calls := [], peers := [], serving := none }
  step := step

/-- A request that was taken, with the call it is of. -/
structure Served (κ : Type) where
  caller : Nat
  taken : Taken κ

/-- The entry that a step adds to the ledger. -/
def entry (state : ServiceCalls κ) : CallEvent κ → Option (Served κ)
  | .iterate answer =>
      match state.peers, state.server.taken (.iterate answer) with
      | serial :: _, some taken => some { caller := serial, taken := taken }
      | _, _ => none
  | _ => none

/-- The calls with the requests that were taken, in order. -/
def ledger : Machine (ServiceCalls κ × List (Served κ)) (CallEvent κ) :=
  machine.recording [] fun state event served => served ++ (state.entry event).toList

/-- A client makes a call. -/
def isSend : CallEvent κ → Bool
  | .sends _ => true
  | _ => false

/-! ## What a step does -/

variable {state : ServiceCalls κ} {server : ServiceManager κ}

theorem route_of_quiet (same : server.resSocket = state.server.resSocket) :
    state.route server = { state with server := server } := by
  rw [route, same, List.drop_length]
  rfl

/-- A request that is taken belongs to the first of the peers, and so does its reply. -/
theorem route_of_takes {frames : List Bytes} {rest : List (List Bytes)} {serial : Nat}
    {peers : List Nat} (takes : state.server.Takes frames rest)
    (first : state.peers = serial :: peers) (answer : ServiceManager.Answer κ) :
    state.route (state.server.iterate answer) = { state with
      server := state.server.iterate answer
      calls :=
        match state.server.replyTo answer frames with
        | .ok reply => addressed [reply.1, reply.2] serial state.calls
        | .error _ => state.calls
      peers := peers
      serving := some serial } := by
  have history : (state.server.iterate answer).resSocket.history =
      state.server.resSocket.history ++ state.server.transcript answer frames := by
    rw [ServiceManager.iterate_of_takes takes]
    rfl
  rw [route, history, List.drop_left, ServiceManager.transcript]
  rcases state.server.replyTo answer frames with error | reply
  · simp only [List.foldl_cons, List.foldl_nil, routeOne, first]
    rfl
  · simp only [List.foldl_cons, List.foldl_nil, routeOne, first]
    rfl

/-! ## The ledger -/

/-- What a call has sent. -/
def request (state : ServiceCalls κ) (serial : Nat) : Option (List Bytes) :=
  state.calls[serial]?.map ServiceCall.request

/-- The frames of the reply, if there is one. -/
def Served.reply (served : Served κ) : Option (List Bytes) :=
  match served.taken.reply with
  | .ok reply => some [reply.1, reply.2]
  | .error _ => none

/-- The reply to a call according to the ledger. -/
def replyTo (served : List (Served κ)) (serial : Nat) : Option (List Bytes) :=
  (served.find? fun entry => entry.caller == serial).bind Served.reply

theorem find?_of_not_mem {served : List (Served κ)} {serial : Nat}
    (absent : serial ∉ served.map Served.caller) :
    (served.find? fun entry => entry.caller == serial) = none := by
  rw [List.find?_eq_none]
  intro entry listed same
  exact absent (List.mem_map.2 ⟨entry, listed, beq_iff_eq.1 same⟩)

theorem replyTo_of_not_mem {served : List (Served κ)} {serial : Nat}
    (absent : serial ∉ served.map Served.caller) : replyTo served serial = none := by
  rw [replyTo, find?_of_not_mem absent]
  rfl

theorem replyTo_append_of_ne {served : List (Served κ)} {serial : Nat} {entry : Served κ}
    (other : entry.caller ≠ serial) :
    replyTo (served ++ [entry]) serial = replyTo served serial := by
  have missing : ([entry].find? fun entry => entry.caller == serial) = none := by
    rw [List.find?_singleton, if_neg]
    exact fun same => other (beq_iff_eq.1 same)
  rw [replyTo, List.find?_append, missing, Option.or_none, replyTo]

theorem replyTo_append_self {served : List (Served κ)} {entry : Served κ}
    (absent : entry.caller ∉ served.map Served.caller) :
    replyTo (served ++ [entry]) entry.caller = entry.reply := by
  rw [replyTo, List.find?_append, find?_of_not_mem absent, Option.none_or, List.find?_singleton,
    if_pos (beq_self_eq_true _)]
  rfl

/-- The ledger has each call at most once, with the request of that call, and the replies the
clients have are those of the ledger. -/
structure Matched (state : ServiceCalls κ) (served : List (Served κ)) : Prop where
  waiting : List.Forall₂ (fun serial frames => state.request serial = some frames)
    state.peers state.server.resSocket.inbox
  own : ∀ entry ∈ served, state.request entry.caller = some entry.taken.frames
  once : (served.map Served.caller ++ state.peers).Nodup
  arrived : ∀ serial ∈ served.map Served.caller ++ state.peers,
    ∃ call, state.calls[serial]? = some call ∧ call.arrived = true
  replied : ∀ serial call, state.calls[serial]? = some call → call.reply = replyTo served serial
  returned : ∀ (serial : Nat) (call : ServiceCall) frames, state.calls[serial]? = some call →
    call.outcome = some (.returned frames) → call.reply = some frames

variable {served : List (Served κ)} {calls : List ServiceCall}

theorem Matched.quiet (matched : state.Matched served)
    (same : server.resSocket = state.server.resSocket) :
    Matched { state with server := server } served where
  waiting := same ▸ matched.waiting
  own := matched.own
  once := matched.once
  arrived := matched.arrived
  replied := matched.replied
  returned := matched.returned

theorem Matched.sends (matched : state.Matched served) (frames : List Bytes) :
    Matched { state with calls := state.calls ++ [.sent frames] } served := by
  have kept : ∀ {serial : Nat} {call : ServiceCall}, state.calls[serial]? = some call →
      (state.calls ++ [.sent frames])[serial]? = some call := by
    intro serial call found
    rw [List.getElem?_append_left (List.getElem?_eq_some_iff.1 found).1]
    exact found
  have keptRequest : ∀ {serial : Nat} {sent : List Bytes}, state.request serial = some sent →
      ((state.calls ++ [.sent frames])[serial]?).map ServiceCall.request = some sent := by
    intro serial sent found
    rcases Option.map_eq_some_iff.1 found with ⟨call, present, same⟩
    rw [kept present, Option.map_some, same]
  constructor
  case waiting => exact matched.waiting.imp fun serial frames found => keptRequest found
  case own => exact fun entry listed => keptRequest (matched.own entry listed)
  case once => exact matched.once
  case arrived =>
    intro serial listed
    rcases matched.arrived serial listed with ⟨call, found, arrived⟩
    exact ⟨call, kept found, arrived⟩
  case replied =>
    intro serial call found
    rcases Serials.found_of_add found with ⟨_, earlier⟩ | ⟨rfl, rfl⟩
    · exact matched.replied serial call earlier
    · -- a call that was not there is in no entry
      rw [replyTo_of_not_mem]
      · rfl
      · intro listed
        rcases List.mem_map.1 listed with ⟨entry, found, same⟩
        have present := matched.own entry found
        rw [same, request, List.getElem?_eq_none (Nat.le_refl _)] at present
        cases present
  case returned =>
    intro serial call sent found
    rcases Serials.found_of_add found with ⟨_, earlier⟩ | ⟨_, rfl⟩
    · exact matched.returned serial call sent earlier
    · intro ended
      cases ended

/-- A call that changes keeps its message. -/
theorem request_set {next : ServiceCalls κ} {serial : Nat} {call : ServiceCall}
    (found : state.calls[serial]? = some call)
    (changed : ∃ updated, next.calls = state.calls.set serial updated ∧
      updated.request = call.request) (other : Nat) :
    next.request other = state.request other := by
  rcases changed with ⟨updated, calls, same⟩
  rw [request, request, calls, Serials.getElem?_update found]
  by_cases self : other = serial
  · rw [if_pos self, self, found, Option.map_some, Option.map_some, same]
  · rw [if_neg self]

theorem Matched.arrives (matched : state.Matched served) {serial : Nat} {call : ServiceCall}
    (found : state.calls[serial]? = some call) (transit : call.arrived = false) :
    Matched { state with
      server := { state.server with
        resSocket := { state.server.resSocket with
          inbox := state.server.resSocket.inbox ++ [call.request] } }
      calls := state.calls.set serial { call with arrived := true }
      peers := state.peers ++ [serial] } served := by
  have sameRequest : ∀ other, request { state with
      calls := state.calls.set serial { call with arrived := true } } other =
        state.request other := request_set found ⟨_, rfl, rfl⟩
  have unlisted : serial ∉ served.map Served.caller ++ state.peers := by
    intro listed
    rcases matched.arrived serial listed with ⟨there, present, arrived⟩
    cases found.symm.trans present
    rw [transit] at arrived
    cases arrived
  constructor
  case waiting =>
    apply List.rel_append
    · exact matched.waiting.imp fun other frames sent => (sameRequest other).trans sent
    · refine List.Forall₂.cons ((sameRequest serial).trans ?_) List.Forall₂.nil
      rw [request, found]
      rfl
  case own => exact fun entry listed => (sameRequest _).trans (matched.own entry listed)
  case once =>
    rw [← List.append_assoc]
    exact List.nodup_append.2 ⟨matched.once, List.nodup_singleton _, fun other listed last mem =>
      fun same => unlisted (List.mem_singleton.1 mem ▸ same ▸ listed)⟩
  case arrived =>
    intro other listed
    rw [← List.append_assoc] at listed
    show ∃ there, (state.calls.set serial _)[other]? = some there ∧ _
    rw [Serials.getElem?_update found]
    by_cases self : other = serial
    · rw [if_pos self]
      exact ⟨_, rfl, rfl⟩
    · rw [if_neg self]
      rcases List.mem_append.1 listed with before | last
      · exact matched.arrived other before
      · exact absurd (List.mem_singleton.1 last) self
  case replied =>
    intro other there after
    rcases Serials.found_of_update found after with ⟨rfl, rfl⟩ | ⟨_, before⟩
    · exact matched.replied other call found
    · exact matched.replied other there before
  case returned =>
    intro other there frames after
    rcases Serials.found_of_update found after with ⟨rfl, rfl⟩ | ⟨_, before⟩
    · exact matched.returned other call frames found
    · exact matched.returned other there frames before

/-- Two lists that correspond still do when the same place of both comes first. -/
theorem forall₂_comesFirst {α β : Type} {relation : α → β → Prop} {left : List α}
    {right : List β} (related : List.Forall₂ relation left right) {index : Nat} {first : α}
    {second : β} (found : left[index]? = some first) (foundToo : right[index]? = some second) :
    List.Forall₂ relation (first :: left.eraseIdx index) (second :: right.eraseIdx index) := by
  rcases List.getElem?_eq_some_iff.1 found with ⟨within, rfl⟩
  rcases List.getElem?_eq_some_iff.1 foundToo with ⟨withinToo, rfl⟩
  refine List.Forall₂.cons (related.get within withinToo) ?_
  rw [List.eraseIdx_eq_take_drop_succ, List.eraseIdx_eq_take_drop_succ]
  exact List.rel_append (List.forall₂_take index related) (List.forall₂_drop (index + 1) related)

theorem Matched.comesFirst (matched : state.Matched served) {index serial : Nat}
    {frames : List Bytes} (found : state.peers[index]? = some serial)
    (waits : state.server.resSocket.inbox[index]? = some frames) :
    Matched { state with
      server := { state.server with
        resSocket := { state.server.resSocket with
          inbox := frames :: state.server.resSocket.inbox.eraseIdx index } }
      peers := serial :: state.peers.eraseIdx index } served := by
  have moved : (served.map Served.caller ++ serial :: state.peers.eraseIdx index).Perm
      (served.map Served.caller ++ state.peers) := by
    rcases List.getElem?_eq_some_iff.1 found with ⟨within, rfl⟩
    exact (List.getElem_cons_eraseIdx_perm within).append_left _
  constructor
  case waiting => exact forall₂_comesFirst matched.waiting found waits
  case own => exact matched.own
  case once => exact moved.nodup_iff.2 matched.once
  case arrived => exact fun other listed => matched.arrived other (moved.mem_iff.1 listed)
  case replied => exact matched.replied
  case returned => exact matched.returned

theorem Matched.settles (matched : state.Matched served) {serial : Nat} {call : ServiceCall}
    (found : state.calls[serial]? = some call) {outcome : CallOutcome}
    (own : ∀ frames, outcome = .returned frames → call.reply = some frames) :
    Matched { state with calls := state.calls.set serial { call with outcome := some outcome } }
      served := by
  have sameRequest : ∀ other, request { state with
      calls := state.calls.set serial { call with outcome := some outcome } } other =
        state.request other := request_set found ⟨_, rfl, rfl⟩
  constructor
  case waiting =>
    exact matched.waiting.imp fun other frames sent => (sameRequest other).trans sent
  case own => exact fun entry listed => (sameRequest _).trans (matched.own entry listed)
  case once => exact matched.once
  case arrived =>
    intro other listed
    show ∃ there, (state.calls.set serial _)[other]? = some there ∧ _
    rw [Serials.getElem?_update found]
    rcases matched.arrived other listed with ⟨there, present, arrived⟩
    by_cases self : other = serial
    · rw [self, found] at present
      cases present
      rw [if_pos self]
      exact ⟨_, rfl, arrived⟩
    · rw [if_neg self]
      exact ⟨there, present, arrived⟩
  case replied =>
    intro other there after
    rcases Serials.found_of_update found after with ⟨rfl, rfl⟩ | ⟨_, before⟩
    · exact matched.replied other call found
    · exact matched.replied other there before
  case returned =>
    intro other there frames after ended
    rcases Serials.found_of_update found after with ⟨rfl, rfl⟩ | ⟨_, before⟩
    · exact own frames (Option.some.inj ended)
    · exact matched.returned other there frames before ended

/-- The calls after the request of one of them was taken. -/
theorem calls_of_takes {serial : Nat} {call : ServiceCall}
    (found : calls[serial]? = some call) (unanswered : call.reply = none)
    (manager : ServiceManager κ) (answer : ServiceManager.Answer κ) (frames : List Bytes) :
    (match manager.replyTo answer frames with
      | .ok reply => addressed [reply.1, reply.2] serial calls
      | .error _ => calls) =
      calls.set serial { call with
        reply := Served.reply { caller := serial, taken :=
          { manager := manager, answer := answer, frames := frames } } } := by
  rw [Served.reply, Taken.reply]
  rcases manager.replyTo answer frames with error | reply
  · have same : { call with reply := none } = call := by rw [← unanswered]
    rcases List.getElem?_eq_some_iff.1 found with ⟨within, there⟩
    rw [same, ← there, List.set_getElem_self]
  · simp only [addressed, found]

/-- The entry of a request that is taken from the queue. -/
def written (state : ServiceCalls κ) (answer : ServiceManager.Answer κ) (serial : Nat)
    (frames : List Bytes) : Served κ where
  caller := serial
  taken := { manager := state.server, answer := answer, frames := frames }

/-- The state after the request of the first peer was taken: the call has the reply of its own
entry, or none. -/
def afterTaking (answer : ServiceManager.Answer κ) (serial : Nat) (peers : List Nat)
    (call : ServiceCall) (state : ServiceCalls κ) : ServiceCalls κ where
  server := state.server.iterate answer
  calls := state.calls.set serial { call with
    reply := (state.written answer serial call.request).reply }
  peers := peers
  serving := some serial

/-- What is taken is the request of the first peer, which has no reply yet. -/
structure Takes (served : List (Served κ)) (serial : Nat) (peers : List Nat) (call : ServiceCall)
    (rest : List (List Bytes)) (state : ServiceCalls κ) : Prop where
  takes : state.server.Takes call.request rest
  listed : state.peers = serial :: peers
  found : state.calls[serial]? = some call
  unanswered : call.reply = none
  fresh : serial ∉ served.map Served.caller
  behind : List.Forall₂ (fun serial frames => state.request serial = some frames) peers rest

theorem Matched.takes_of_takes (matched : state.Matched served) {frames : List Bytes}
    {rest : List (List Bytes)} (takes : state.server.Takes frames rest) :
    ∃ serial peers call, state.Takes served serial peers call rest := by
  have waiting := matched.waiting
  rw [takes.waiting] at waiting
  rcases listed : state.peers with _ | ⟨serial, peers⟩
  · rw [listed] at waiting
    cases waiting
  rw [listed] at waiting
  rcases List.forall₂_cons.1 waiting with ⟨first, behind⟩
  rcases Option.map_eq_some_iff.1 first with ⟨call, found, rfl⟩
  have once := matched.once
  rw [listed] at once
  have fresh : serial ∉ served.map Served.caller := by
    intro earlier
    exact (List.nodup_append.1 once).2.2 serial earlier serial List.mem_cons_self rfl
  have unanswered : call.reply = none := by
    rw [matched.replied serial call found, replyTo_of_not_mem fresh]
  exact ⟨serial, peers, call, takes, listed, found, unanswered, fresh, behind⟩

variable {serial : Nat} {peers : List Nat} {call : ServiceCall} {rest : List (List Bytes)}

theorem Takes.route (takes : state.Takes served serial peers call rest)
    (answer : ServiceManager.Answer κ) :
    state.route (state.server.iterate answer) = state.afterTaking answer serial peers call := by
  rw [route_of_takes takes.takes takes.listed answer,
    calls_of_takes takes.found takes.unanswered]
  rfl

theorem Takes.entry (takes : state.Takes served serial peers call rest)
    (answer : ServiceManager.Answer κ) :
    state.entry (.iterate answer) = some (state.written answer serial call.request) := by
  rw [ServiceCalls.entry, takes.listed, ServiceManager.taken_of_takes answer takes.takes]
  rfl

theorem Matched.takes (matched : state.Matched served)
    (takes : state.Takes served serial peers call rest) (answer : ServiceManager.Answer κ) :
    Matched (state.afterTaking answer serial peers call)
      (served ++ [state.written answer serial call.request]) := by
  have found := takes.found
  have sameRequest : ∀ other, (state.afterTaking answer serial peers call).request other =
      state.request other := request_set found ⟨_, rfl, rfl⟩
  have once := matched.once
  rw [takes.listed] at once
  constructor
  case waiting =>
    rw [afterTaking, ServiceManager.iterate_of_takes takes.takes]
    exact takes.behind.imp fun other frames sent => (sameRequest other).trans sent
  case own =>
    intro entry present
    rcases List.mem_append.1 present with earlier | last
    · exact (sameRequest _).trans (matched.own entry earlier)
    · rw [List.mem_singleton.1 last]
      refine (sameRequest _).trans ?_
      rw [written, request, found]
      rfl
  case once =>
    rw [List.map_append, List.append_assoc]
    exact once
  case arrived =>
    intro other present
    rw [List.map_append, List.append_assoc] at present
    have before : other ∈ served.map Served.caller ++ state.peers := by
      rw [takes.listed]
      exact present
    rcases matched.arrived other before with ⟨there, here, arrived⟩
    show ∃ there, (state.calls.set serial _)[other]? = some there ∧ _
    rw [Serials.getElem?_update found]
    by_cases self : other = serial
    · rw [self, found] at here
      cases here
      rw [if_pos self]
      exact ⟨_, rfl, arrived⟩
    · rw [if_neg self]
      exact ⟨there, here, arrived⟩
  case replied =>
    intro other there after
    rcases Serials.found_of_update found after with ⟨rfl, rfl⟩ | ⟨self, before⟩
    · exact (replyTo_append_self takes.fresh).symm
    · rw [replyTo_append_of_ne (Ne.symm self)]
      exact matched.replied other there before
  case returned =>
    intro other there sent after ended
    rcases Serials.found_of_update found after with ⟨rfl, rfl⟩ | ⟨_, before⟩
    · have early := matched.returned other call sent found ended
      rw [takes.unanswered] at early
      cases early
    · exact matched.returned other there sent before ended

/-! ## Runs -/

/-- What a step does.  An iteration takes the request of the first peer, or changes nothing that
a client could see. -/
inductive Effect (state : ServiceCalls κ) (served : List (Served κ)) :
    CallEvent κ → ServiceCalls κ → Prop where
  | sends (frames : List Bytes) :
      Effect state served (.sends frames) { state with calls := state.calls ++ [.sent frames] }
  | arrives {serial : Nat} {call : ServiceCall} (found : state.calls[serial]? = some call)
      (transit : call.arrived = false) :
      Effect state served (.arrives serial) { state with
        server := { state.server with
          resSocket := { state.server.resSocket with
            inbox := state.server.resSocket.inbox ++ [call.request] } }
        calls := state.calls.set serial { call with arrived := true }
        peers := state.peers ++ [serial] }
  | comesFirst {index serial : Nat} {frames : List Bytes}
      (found : state.peers[index]? = some serial)
      (waits : state.server.resSocket.inbox[index]? = some frames) :
      Effect state served (.comesFirst index) { state with
        server := { state.server with
          resSocket := { state.server.resSocket with
            inbox := frames :: state.server.resSocket.inbox.eraseIdx index } }
        peers := serial :: state.peers.eraseIdx index }
  | takes {serial : Nat} {peers : List Nat} {call : ServiceCall} {rest : List (List Bytes)}
      (answer : ServiceManager.Answer κ) (takes : state.Takes served serial peers call rest) :
      Effect state served (.iterate answer) (state.afterTaking answer serial peers call)
  | quiet {event : CallEvent κ} {server : ServiceManager κ}
      (same : server.resSocket = state.server.resSocket)
      (running : server.running = true → state.server.running = true)
      (unwritten : state.entry event = none) (unsent : isSend event = false)
      (idle : ∀ answer, event = .iterate answer → ∀ frames rest, ¬ state.server.Takes frames rest) :
      Effect state served event { state with server := server }
  | settles {event : CallEvent κ} {serial : Nat} {call : ServiceCall} {outcome : CallOutcome}
      (found : state.calls[serial]? = some call)
      (own : ∀ frames, outcome = .returned frames → call.reply = some frames)
      (returns : ∀ frames, outcome = .returned frames → event = .returns serial)
      (unwritten : state.entry event = none) (unsent : isSend event = false)
      (other : ∀ answer, event ≠ .iterate answer) :
      Effect state served event { state with
        calls := state.calls.set serial { call with outcome := some outcome } }

theorem effect_of_step (matched : state.Matched served) {event : CallEvent κ}
    {next : ServiceCalls κ} (stepped : state.step event = some next) :
    Effect state served event next := by
  cases event with
  | sends frames =>
      cases stepped
      exact .sends frames
  | arrives serial =>
      rcases Option.bind_eq_some_iff.1 stepped with ⟨call, found, later⟩
      rcases Option.bind_eq_some_iff.1 later with ⟨server, accepted, moved⟩
      rcases Option.ite_none_left_eq_some.1 moved with ⟨transit, same⟩
      cases accepted
      cases same
      exact .arrives found (Bool.eq_false_iff.2 transit)
  | comesFirst index =>
      rcases Option.bind_eq_some_iff.1 stepped with ⟨serial, found, later⟩
      rcases Option.bind_eq_some_iff.1 later with ⟨server, chosen, same⟩
      rcases Option.map_eq_some_iff.1 chosen with ⟨socket, moved, rfl⟩
      rcases Option.map_eq_some_iff.1 moved with ⟨frames, waits, rfl⟩
      cases same
      exact .comesFirst found waits
  | iterate answer =>
      rcases Option.map_eq_some_iff.1 stepped with ⟨server, iterated, rfl⟩
      rcases Option.ite_none_left_eq_some.1 iterated with ⟨_, same⟩
      cases same
      by_cases busy : ∃ frames rest, state.server.Takes frames rest
      · rcases busy with ⟨frames, rest, takes⟩
        rcases matched.takes_of_takes takes with ⟨serial, peers, call, takes⟩
        rw [takes.route answer]
        exact .takes answer takes
      · have idle : ∀ frames rest, ¬ state.server.Takes frames rest := by
          intro frames rest takes
          exact busy ⟨frames, rest, takes⟩
        have same := ServiceManager.resSocket_iterate_of_not_takes idle answer
        rw [route_of_quiet same]
        apply Effect.quiet same (ServiceManager.running_iterate answer) _ rfl fun _ _ => idle
        rw [entry, ServiceManager.taken_of_not_takes answer idle]
        cases state.peers <;> rfl
  | registerService serviceName service =>
      rw [← Option.some.inj stepped]
      show Effect state served _ (state.route _)
      rw [route_of_quiet]
      · exact .quiet rfl id rfl rfl nofun
      · rfl
  | stop =>
      rw [← Option.some.inj stepped]
      show Effect state served _ (state.route _)
      rw [route_of_quiet]
      · exact .quiet rfl nofun rfl rfl nofun
      · rfl
  | returns serial =>
      rcases Option.bind_eq_some_iff.1 stepped with ⟨call, found, later⟩
      rcases Option.bind_eq_some_iff.1 later with ⟨frames, replied, moved⟩
      rcases Option.ite_none_left_eq_some.1 moved with ⟨_, same⟩
      cases same
      have own : ∀ others, CallOutcome.returned frames = .returned others →
          call.reply = some others := by
        intro others same
        cases same
        exact replied
      exact .settles found own (fun _ _ => rfl) rfl rfl nofun
  | timesOut serial =>
      rcases Option.bind_eq_some_iff.1 stepped with ⟨call, found, moved⟩
      rcases Option.ite_none_left_eq_some.1 moved with ⟨_, same⟩
      cases same
      exact .settles found nofun nofun rfl rfl nofun

/-- Every step keeps the ledger and the calls in step. -/
theorem Matched.step (matched : state.Matched served) {event : CallEvent κ}
    {next : ServiceCalls κ} (stepped : state.step event = some next) :
    next.Matched (served ++ (state.entry event).toList) := by
  cases effect_of_step matched stepped with
  | sends frames =>
      rw [show state.entry (.sends frames) = none from rfl, Option.toList_none, List.append_nil]
      exact matched.sends frames
  | arrives found transit =>
      rw [show state.entry (.arrives _) = none from rfl, Option.toList_none, List.append_nil]
      exact matched.arrives found transit
  | comesFirst found waits =>
      rw [show state.entry (.comesFirst _) = none from rfl, Option.toList_none, List.append_nil]
      exact matched.comesFirst found waits
  | takes answer takes =>
      rw [takes.entry answer, Option.toList_some]
      exact matched.takes takes answer
  | quiet same running unwritten unsent idle =>
      rw [unwritten, Option.toList_none, List.append_nil]
      exact matched.quiet same
  | settles found own returns unwritten unsent other =>
      rw [unwritten, Option.toList_none, List.append_nil]
      exact matched.settles found own

theorem matched_start : Matched (κ := κ) machine.start [] where
  waiting := List.Forall₂.nil
  own := fun entry listed => (List.not_mem_nil listed).elim
  once := List.nodup_nil
  arrived := fun serial listed => (List.not_mem_nil listed).elim
  replied := by
    intro serial call found
    cases found
  returned := by
    intro serial call frames found
    cases found

theorem matched_of_reachable {recorded : ServiceCalls κ × List (Served κ)}
    (reachable : ledger.Reachable recorded) : recorded.1.Matched recorded.2 := by
  apply reachable.invariant matched_start
  intro recorded event next _ matched stepped
  rcases Machine.recording_step.1 stepped with ⟨moved, written⟩
  rw [written]
  exact matched.step moved

theorem filter_caller {entry : Served κ} (once : (served.map Served.caller).Nodup)
    (listed : entry ∈ served) :
    served.filter (fun other => other.caller == entry.caller) = [entry] := by
  induction served with
  | nil => cases listed
  | cons first rest ih =>
      rcases List.nodup_cons.1 once with ⟨fresh, others⟩
      rcases List.mem_cons.1 listed with rfl | later
      · rw [List.filter_cons, if_pos (beq_self_eq_true entry.caller), List.filter_eq_nil_iff.2]
        intro other present same
        exact fresh (List.mem_map.2 ⟨other, present, beq_iff_eq.1 same⟩)
      · rw [List.filter_cons, if_neg, ih others later]
        intro same
        exact fresh (List.mem_map.2 ⟨entry, later, (beq_iff_eq.1 same).symm⟩)

theorem Matched.taken_of_returned (matched : state.Matched served) {serial : Nat}
    {call : ServiceCall} {frames : List Bytes} (found : state.calls[serial]? = some call)
    (ended : call.outcome = some (.returned frames)) :
    ∃ taken reply, served.filter (fun entry => entry.caller == serial) =
        [{ caller := serial, taken := taken }] ∧
      taken.frames = call.request ∧ taken.reply = .ok reply ∧ frames = [reply.1, reply.2] := by
  have replied := matched.returned serial call frames found ended
  rw [matched.replied serial call found] at replied
  rcases Option.bind_eq_some_iff.1 replied with ⟨entry, first, answered⟩
  have listed := List.mem_of_find?_eq_some first
  have chosen := List.find?_some first
  obtain rfl : entry.caller = serial := beq_iff_eq.1 chosen
  have sent := matched.own entry listed
  rw [request, found] at sent
  have once := filter_caller (List.nodup_append.1 matched.once).1 listed
  rw [Served.reply] at answered
  split at answered
  next reply computed =>
    cases answered
    exact ⟨entry.taken, reply, once, (Option.some.inj sent).symm, computed, rfl⟩
  next => cases answered

/-- A call that returned has the reply computed for its own request by the services of the moment
at which that request was taken, and it was taken once. -/
theorem returned_of_run {trace : List (CallEvent κ)} {recorded : ServiceCalls κ × List (Served κ)}
    (run : ledger.exec trace = some recorded) {serial : Nat} {call : ServiceCall}
    {frames : List Bytes} (found : recorded.1.calls[serial]? = some call)
    (ended : call.outcome = some (.returned frames)) :
    ∃ taken reply, recorded.2.filter (fun entry => entry.caller == serial) =
        [{ caller := serial, taken := taken }] ∧
      taken.frames = call.request ∧ taken.reply = .ok reply ∧ frames = [reply.1, reply.2] :=
  (matched_of_reachable ⟨trace, run⟩).taken_of_returned found ended

/-- Two calls whose messages overtake each other. -/
def crossedRun : List (CallEvent Unit) :=
  [.registerService "echo" (), .sends [[101, 99, 104, 111], [7]], .sends [[101, 99, 104, 111], [8]],
    .arrives 1, .arrives 0, .iterate fun _ request => .value (some request),
    .iterate fun _ request => .value (some request), .returns 0, .returns 1]

theorem returned_of_run_crossedRun :
    ∃ recorded, ledger.exec crossedRun = some recorded ∧
      recorded.2.map Served.caller = [1, 0] ∧
      ∃ taken reply, recorded.2.filter (fun entry => entry.caller == 0) =
          [{ caller := 0, taken := taken }] ∧
        taken.frames = [[101, 99, 104, 111], [7]] ∧ taken.reply = .ok reply ∧
        [ResponseStatus.success.encode, [7]] = [reply.1, reply.2] := by
  have ends : (ledger.exec crossedRun).map (fun recorded =>
      (recorded.1.calls[0]?, recorded.2.map Served.caller)) =
      some (some { request := [[101, 99, 104, 111], [7]]
                   arrived := true
                   reply := some [ResponseStatus.success.encode, [7]]
                   outcome := some (.returned [ResponseStatus.success.encode, [7]]) },
        [1, 0]) := by decide +kernel
  rcases Option.map_eq_some_iff.1 ends with ⟨recorded, run, last⟩
  rcases Prod.ext_iff.1 last with ⟨found, order⟩
  exact ⟨recorded, run, order, returned_of_run run found rfl⟩

end ServiceCalls

end Pyzlc
