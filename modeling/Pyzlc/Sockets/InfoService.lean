import Pyzlc.Nodes.FineNetwork
import Pyzlc.Nodes.ReadInParts
import Pyzlc.Nodes.RegistryRefinement
import Pyzlc.Nodes.ServiceNames
import Pyzlc.Sockets.NodeInfoExchange

/-!
# Descriptions that are asked for

A node serves `get_node_info` beside the services of its users, in one loop, while it registers
and discovers.  A registration appends a socket and then raises the version; a worker packs the
description meanwhile, the version first, then the topics, then the services.  What an asker
unpacks was read off the node, in this order, between the request and the reply: nothing in it is
older than the request or from the future.
-/

namespace Pyzlc

open Foundation
open MessagePack (Value DistinctKeys depth)

/-- What is registered under a name: `_get_node_info_handler`, or a handler of the user. -/
inductive Callable where
  | getNodeInfo
  | user (handler : Handler Value)

/-- The handler at a moment at which the node describes itself so. -/
def Callable.handler (info : NodeInfo) : Callable → Handler Value
  | .getNodeInfo => fun _ => .ok info.value
  | .user handler => handler

/-- A node with its registry and its service loop, the registration whose version is not raised
yet, and what the worker has packed of the description for the request the loop works on. -/
structure InfoNode (η ω : Type) where
  discovery : Discovery η ω
  registering : Option Registration
  packing : Option Snapshot
  exchange : ServiceCalls Callable

/-- The registry does something, a registration or the packing of a description gets on, the loop
goes round, or something else happens to the service. -/
inductive InfoEvent (η : Type) where
  | discovers (event : DiscoveryEvent η)
  | beginService (serviceName : Text) (port : Int)
  | beginPublisher (topicName : Text) (port : Int)
  | finishRegistration
  | readInfoId
  | readTopics
  | iterate (expired : Bool)
  | exchanges (event : CallEvent Callable)

/-! ## Handlers that services stand for -/

namespace ServiceManager

variable {κ μ : Type}

/-- The manager with the handlers that its services stand for. -/
def mapServices (image : κ → μ) (manager : ServiceManager κ) : ServiceManager μ where
  running := manager.running
  ended := manager.ended
  callableServices := Dict.mapValues image manager.callableServices
  resSocket := manager.resSocket

theorem handleRequest_mapServices (image : κ → μ) (manager : ServiceManager κ) (answer : Answer μ)
    (serviceName : Text) (request : Bytes) :
    (manager.mapServices image).handleRequest answer serviceName request =
      manager.handleRequest (fun service => answer (image service)) serviceName request := by
  have found : (manager.mapServices image).callableServices.lookup serviceName =
      (manager.callableServices.lookup serviceName).map image :=
    Dict.lookup_mapValues image manager.callableServices serviceName
  rw [handleRequest, handleRequest, found]
  cases manager.callableServices.lookup serviceName <;> rfl

theorem replyTo_mapServices (image : κ → μ) (manager : ServiceManager κ) (answer : Answer μ)
    (frames : List Bytes) :
    (manager.mapServices image).replyTo answer frames =
      manager.replyTo (fun service => answer (image service)) frames := by
  simp only [replyTo, handleRequest_mapServices]

/-- The first frame of a reply is the name of a status. -/
theorem status_of_handleRequest {manager : ServiceManager κ} {answer : Answer κ}
    {serviceName : Text} {request : Bytes} {reply : Bytes × Bytes}
    (replied : manager.handleRequest answer serviceName request = .ok reply) :
    ∃ (status : ResponseStatus) (result : Bytes), reply = (status.encode, result) := by
  rw [handleRequest] at replied
  split at replied
  next =>
    cases replied
    exact ⟨_, _, rfl⟩
  next service _ =>
    split at replied
    next =>
      cases replied
      exact ⟨_, _, rfl⟩
    next =>
      split at replied <;> cases replied
      exact ⟨_, _, rfl⟩
    next error _ _ =>
      split at replied
      next =>
        split at replied <;> cases replied
        exact ⟨_, _, rfl⟩
      next =>
        cases replied
        exact ⟨_, _, rfl⟩
      next =>
        cases replied
        exact ⟨_, _, rfl⟩
      next =>
        cases replied
        exact ⟨_, _, rfl⟩

variable {msgpack : Msgpack Value} {limit : Nat}

/-- The reply of a handler that returned a value is read as `None` or as the value. -/
theorem readResponse_of_returned (speaks : msgpack.SpeaksMessagePack limit)
    (documented : msgpack.Documented) {manager : ServiceManager (Handler Value)}
    {serviceName : Text} {handler : Handler Value}
    (found : manager.callableServices.lookup serviceName = some handler)
    {value returned : Value} {bytes : Bytes}
    (packed : msgpack.packb {} value = .ok (some bytes)) (distinct : DistinctKeys value)
    (shallow : depth value ≤ limit) (handled : handler value = .ok returned)
    (strict : MessagePack.strictKeys returned = true) (returnedDistinct : DistinctKeys returned)
    (returnedShallow : depth returned ≤ limit) {expired : Bool} {reply : Bytes × Bytes}
    (replied : manager.reply msgpack expired serviceName bytes = .ok reply) :
    ∃ result, Exchange.readResponse Objects.standard msgpack [reply.1, reply.2] = .ok result ∧
      (result = Objects.standard.none ∨ result = returned) := by
  rcases status_of_handleRequest replied with ⟨status, payload, rfl⟩
  rw [Exchange.readResponse_of_encode (ResponseStatus.encode_text status)]
  by_cases success : status.text = ResponseStatus.success.text
  · rw [if_pos success]
    have accepted : manager.reply msgpack expired serviceName bytes =
        .ok (ResponseStatus.success.encode, payload) := by
      rw [replied, ResponseStatus.encode, success]
      rfl
    rcases returned_of_success speaks documented packed distinct shallow accepted with
      ⟨other, registered, ⟨raised, _⟩ | ⟨result, outcome, sent⟩⟩
    · cases registered.symm.trans found
      cases raised.symm.trans handled
    · cases registered.symm.trans found
      cases outcome.symm.trans handled
      refine ⟨returned, ?_, Or.inr rfl⟩
      rw [unpackb_packb speaks sent returnedDistinct returnedShallow, if_pos strict]
  · rw [if_neg success]
    exact ⟨_, rfl, Or.inl rfl⟩

end ServiceManager

/-! ## The service beside its clients -/

namespace ServiceCalls

variable {κ : Type} {state next : ServiceCalls κ} {served : List (Served κ)} {event : CallEvent κ}

theorem server_foldl_routeOne (events : List SocketEvent) (state : ServiceCalls κ) :
    (events.foldl routeOne state).server = state.server := by
  induction events generalizing state with
  | nil => rfl
  | cons event rest ih =>
      rw [List.foldl_cons, ih]
      cases event with
      | received frames => rfl
      | sent frames =>
          rw [routeOne]
          split <;> rfl

theorem server_route (server : ServiceManager κ) (state : ServiceCalls κ) :
    (state.route server).server = server := by
  rw [route, server_foldl_routeOne]

/-- What is registered under a name stays while nothing else is registered under it. -/
theorem lookup_of_step (stepped : state.step event = some next) {key : Text}
    (other : ∀ service, event ≠ .registerService key service) :
    next.server.callableServices.lookup key = state.server.callableServices.lookup key := by
  cases event with
  | sends frames =>
      cases stepped
      rfl
  | arrives serial =>
      rcases Option.bind_eq_some_iff.1 stepped with ⟨call, found, later⟩
      rcases Option.bind_eq_some_iff.1 later with ⟨server, accepted, moved⟩
      rcases Option.ite_none_left_eq_some.1 moved with ⟨_, same⟩
      cases accepted
      cases same
      rfl
  | comesFirst index =>
      rcases Option.bind_eq_some_iff.1 stepped with ⟨serial, found, later⟩
      rcases Option.bind_eq_some_iff.1 later with ⟨server, chosen, same⟩
      rcases Option.map_eq_some_iff.1 chosen with ⟨socket, _, rfl⟩
      cases same
      rfl
  | iterate answer =>
      rcases Option.map_eq_some_iff.1 stepped with ⟨server, iterated, rfl⟩
      rcases Option.ite_none_left_eq_some.1 iterated with ⟨_, same⟩
      cases same
      rw [server_route, ServiceManager.callableServices_iterate]
  | registerService serviceName service =>
      rw [← Option.some.inj stepped]
      show (state.route _).server.callableServices.lookup key = _
      rw [server_route]
      apply Dict.lookup_set_ne
      intro same
      exact other service (by rw [same])
  | stop =>
      rw [← Option.some.inj stepped]
      show (state.route _).server.callableServices.lookup key = _
      rw [server_route]
  | returns serial =>
      rcases Option.bind_eq_some_iff.1 stepped with ⟨call, found, later⟩
      rcases Option.bind_eq_some_iff.1 later with ⟨frames, replied, moved⟩
      rcases Option.ite_none_left_eq_some.1 moved with ⟨_, same⟩
      cases same
      rfl
  | timesOut serial =>
      rcases Option.bind_eq_some_iff.1 stepped with ⟨call, found, moved⟩
      rcases Option.ite_none_left_eq_some.1 moved with ⟨_, same⟩
      cases same
      rfl

/-- Only sending adds a call. -/
theorem length_of_step (matched : state.Matched served) (stepped : state.step event = some next) :
    next.calls.length = state.calls.length + (if isSend event then 1 else 0) := by
  cases effect_of_step matched stepped with
  | sends frames => exact List.length_append
  | arrives found transit => exact List.length_set
  | comesFirst found waits => rfl
  | takes answer takes => exact List.length_set
  | quiet same kept unwritten unsent idle =>
      rw [unsent]
      rfl
  | settles found own returns unwritten unsent other =>
      rw [unsent]
      exact List.length_set

/-- A call that has returned had returned before, or returns now with the reply it has. -/
theorem returned_of_step (matched : state.Matched served) (stepped : state.step event = some next)
    {serial : Nat} {call : ServiceCall} {frames : List Bytes}
    (found : next.calls[serial]? = some call) (ended : call.outcome = some (.returned frames)) :
    (∃ earlier, state.calls[serial]? = some earlier ∧
      earlier.outcome = some (.returned frames)) ∨
    event = .returns serial ∧
      ∃ earlier, state.calls[serial]? = some earlier ∧ earlier.reply = some frames := by
  cases effect_of_step matched stepped with
  | sends others =>
      rcases Serials.found_of_add found with ⟨_, earlier⟩ | ⟨_, rfl⟩
      · exact Or.inl ⟨call, earlier, ended⟩
      · cases ended
  | arrives there transit =>
      rcases Serials.found_of_update there found with ⟨rfl, rfl⟩ | ⟨_, earlier⟩
      · exact Or.inl ⟨_, there, ended⟩
      · exact Or.inl ⟨call, earlier, ended⟩
  | comesFirst there waits => exact Or.inl ⟨call, found, ended⟩
  | takes answer takes =>
      rcases Serials.found_of_update takes.found found with ⟨rfl, rfl⟩ | ⟨_, earlier⟩
      · exact Or.inl ⟨_, takes.found, ended⟩
      · exact Or.inl ⟨call, earlier, ended⟩
  | quiet same kept unwritten unsent idle => exact Or.inl ⟨call, found, ended⟩
  | settles there own returns unwritten unsent other =>
      rcases Serials.found_of_update there found with ⟨rfl, rfl⟩ | ⟨_, earlier⟩
      · have now := Option.some.inj ended
        exact Or.inr ⟨returns frames now, _, there, own frames now⟩
      · exact Or.inl ⟨call, earlier, ended⟩

/-- The request that is next stays so until the loop goes round or another one comes first. -/
theorem head_of_step (matched : state.Matched served) (stepped : state.step event = some next)
    {serial : Nat} {peers : List Nat} (head : state.peers = serial :: peers)
    (round : ∀ answer, event ≠ .iterate answer) (other : ∀ index, event ≠ .comesFirst index) :
    ∃ rest, next.peers = serial :: rest := by
  cases effect_of_step matched stepped with
  | sends frames => exact ⟨peers, head⟩
  | arrives found transit => exact ⟨_, congrArg (· ++ _) head⟩
  | comesFirst found waits => exact absurd rfl (other _)
  | takes answer takes => exact absurd rfl (round answer)
  | quiet same kept unwritten unsent idle => exact ⟨peers, head⟩
  | settles found own returns unwritten unsent still => exact ⟨peers, head⟩

/-- A client whose request is with the server has a call. -/
theorem call_of_head (matched : state.Matched served) {serial : Nat} {peers : List Nat}
    (head : state.peers = serial :: peers) : serial < state.calls.length := by
  have waits : serial ∈ served.map Served.caller ++ state.peers := by
    rw [head]
    exact List.mem_append_right _ List.mem_cons_self
  rcases matched.arrived serial waits with ⟨call, present, _⟩
  exact (List.getElem?_eq_some_iff.1 present).1

/-- What is taken is the next request, and it is the service of that moment that takes it. -/
theorem head_of_entry {entry : Served κ} (made : state.entry event = some entry) :
    (∃ peers, state.peers = entry.caller :: peers) ∧ entry.taken.manager = state.server := by
  cases event with
  | iterate answer =>
      rw [ServiceCalls.entry] at made
      split at made
      next serial peers taken listed found =>
        cases made
        rcases Option.ite_none_right_eq_some.1 found with ⟨_, mapped⟩
        rcases Option.map_eq_some_iff.1 mapped with ⟨frames, _, rfl⟩
        exact ⟨⟨peers, listed⟩, rfl⟩
      next => cases made
  | sends | arrives | comesFirst | registerService | stop | returns | timesOut => cases made

end ServiceCalls

namespace InfoNode

variable {η ω : Type}

/-- `local_node_info`. -/
def info (node : InfoNode η ω) : NodeInfo := node.discovery.manager.localNodeInfo

/-- The description that is packed: what was read of it before, and the rest as it is now. -/
def described (node : InfoNode η ω) : NodeInfo :=
  match node.packing with
  | none => node.info
  | some (.infoIdRead infoId) => { node.info with infoID := infoId }
  | some (.topicsRead infoId topics) => { node.info with infoID := infoId, topics := topics }

/-- The handlers of one iteration. -/
def answer (msgpack : Msgpack Value) (info : NodeInfo) (expired : Bool) :
    ServiceManager.Answer Callable :=
  fun callable => ServiceManager.answering msgpack expired (callable.handler info)

/-- The loop has a request to work on. -/
def working (node : InfoNode η ω) : Bool :=
  node.exchange.server.running && node.exchange.server.resSocket.poll

/-- The name of the built-in service is taken, so nothing else is registered under it; the request
the loop works on is no longer among those that wait. -/
def allowed (node : InfoNode η ω) : CallEvent Callable → Bool
  | .iterate _ => false
  | .registerService serviceName _ => serviceName ≠ Member.builtIn
  | .comesFirst _ => node.packing.isNone
  | _ => true

/-- What an event is to the service. -/
def exchangeEvent (msgpack : Msgpack Value) (node : InfoNode η ω) :
    InfoEvent η → Option (CallEvent Callable)
  | .iterate expired => some (.iterate (answer msgpack node.described expired))
  | .exchanges event => if node.allowed event then some event else none
  | _ => none

/-- `register_local_service` up to and including its append. -/
def beginService (serviceName : Text) (port : Int) (node : InfoNode η ω) : InfoNode η ω :=
  let manager := node.discovery.manager
  if manager.checkLocalService serviceName = true ∨
      (manager.getServiceInfo serviceName).isSome = true then node
  else
    { node with
      discovery := node.discovery.withManager
        (NodesInfoManager.appendLocalService serviceName port manager)
      registering := some .service }

/-- `register_local_publisher` up to and including its append. -/
def beginPublisher (topicName : Text) (port : Int) (node : InfoNode η ω) : InfoNode η ω :=
  { node with
    discovery := node.discovery.withManager
      (NodesInfoManager.appendLocalTopic topicName port node.discovery.manager)
    registering := some .publisher }

def step [DecidableEq η] (call : NodesInfoManager.Call η ω) (msgpack : Msgpack Value)
    (node : InfoNode η ω) : InfoEvent η → Option (InfoNode η ω)
  | .discovers event =>
      if Discovery.registers event then none
      else (node.discovery.step call event).map fun next => { node with discovery := next }
  | .beginService serviceName port =>
      if node.registering = none then some (node.beginService serviceName port) else none
  | .beginPublisher topicName port =>
      if node.registering = none then some (node.beginPublisher topicName port) else none
  | .finishRegistration =>
      node.registering.map fun registration =>
        { node with
          discovery := node.discovery.finishRegistration call registration
          registering := none }
  | .readInfoId =>
      if node.working = true ∧ node.packing = none then
        some { node with packing := some (.infoIdRead node.info.infoID) }
      else none
  | .readTopics =>
      match node.packing with
      | some (.infoIdRead infoId) =>
          some { node with packing := some (.topicsRead infoId node.info.topics) }
      | _ => none
  | .iterate expired =>
      (node.exchange.step (.iterate (answer msgpack node.described expired))).map fun next =>
        { node with exchange := next, packing := none }
  | .exchanges event =>
      if node.allowed event then
        (node.exchange.step event).map fun next => { node with exchange := next }
      else none

/-- A node right after `pyzlc.init`, which registers the built-in service. -/
def start (outside : ω) (localName localIp nodeID : Text) (servicePort : Int) (now : ℚ) :
    InfoNode η ω where
  discovery :=
    let fresh : Discovery η ω := .init localName localIp nodeID outside now
    fresh.withManager
      ((NodesInfoManager.registerLocalService Member.builtIn servicePort).after fresh.manager)
  registering := none
  packing := none
  exchange :=
    { server :=
        { (ServiceManager.init : ServiceManager Callable) with
          callableServices := Dict.set ∅ Member.builtIn .getNodeInfo }
      calls := []
      peers := []
      serving := none }

def machine [DecidableEq η] (call : NodesInfoManager.Call η ω) (msgpack : Msgpack Value)
    (outside : ω) (localName localIp nodeID : Text) (servicePort : Int) (now : ℚ) :
    Machine (InfoNode η ω) (InfoEvent η) where
  start := start outside localName localIp nodeID servicePort now
  step := step call msgpack

/-- The node with the requests that were taken. -/
def ledger [DecidableEq η] (call : NodesInfoManager.Call η ω) (msgpack : Msgpack Value)
    (outside : ω) (localName localIp nodeID : Text) (servicePort : Int) (now : ℚ) :
    Machine (InfoNode η ω × List (ServiceCalls.Served Callable)) (InfoEvent η) :=
  (machine call msgpack outside localName localIp nodeID servicePort now).recording []
    fun node event served =>
      served ++ ((node.exchangeEvent msgpack event).bind node.exchange.entry).toList

/-! ## Moments of a run -/

/-- Where a trace ends, the node has this description. -/
def DescribedAt (service : Machine (InfoNode η ω) (InfoEvent η)) (trace : List (InfoEvent η))
    (info : NodeInfo) : Prop :=
  ∃ node, service.exec trace = some node ∧ node.info = info

/-- A trace ends with the call of a serial. -/
def Makes (service : Machine (InfoNode η ω) (InfoEvent η)) (trace : List (InfoEvent η))
    (serial : Nat) : Prop :=
  ∃ before frames asker, trace = before ++ [.exchanges (.sends frames)] ∧
    service.exec before = some asker ∧ asker.exchange.calls.length = serial

/-- Along a trace a request was answered with a description read after its call was made. -/
def Answered (msgpack : Msgpack Value) (service : Machine (InfoNode η ω) (InfoEvent η))
    (trace : List (InfoEvent η)) (entry : ServiceCalls.Served Callable) : Prop :=
  ∃ begins described expired, Makes service begins entry.caller ∧
    AnswerAlong (DescribedAt service) begins trace described ∧
    entry.taken.answer = answer msgpack described expired ∧
    entry.taken.manager.callableServices.lookup Member.builtIn = some .getNodeInfo

/-- The description was read between the moment at which the call of a serial was made and the one
at which it returned. -/
def Fresh (service : Machine (InfoNode η ω) (InfoEvent η)) (trace : List (InfoEvent η))
    (serial : Nat) (described : NodeInfo) : Prop :=
  ∃ begins after, Makes service begins serial ∧
    AnswerAlong (DescribedAt service) begins after described ∧
    after ++ [.exchanges (.returns serial)] <+: trace

/-- What the worker has packed was read after the call that is next was made. -/
def Packing (service : Machine (InfoNode η ω) (InfoEvent η)) (trace : List (InfoEvent η))
    (node : InfoNode η ω) : Prop :=
  ∀ snapshot, node.packing = some snapshot → ∃ serial peers begins,
    node.exchange.peers = serial :: peers ∧ Makes service begins serial ∧
      SnapshotAlong (DescribedAt service) begins trace snapshot

/-- Every call was made, every request that was taken was answered so, and every call that has
returned did so after its request was answered. -/
structure Current (msgpack : Msgpack Value) (service : Machine (InfoNode η ω) (InfoEvent η))
    (trace : List (InfoEvent η)) (exchange : ServiceCalls Callable)
    (served : List (ServiceCalls.Served Callable)) : Prop where
  matched : exchange.Matched served
  builtIn : exchange.server.callableServices.lookup Member.builtIn = some .getNodeInfo
  made : ∀ serial < exchange.calls.length, ∃ begins, Makes service begins serial ∧ begins <+: trace
  answered : ∀ entry ∈ served, Answered msgpack service trace entry
  returned : ∀ (serial : Nat) (call : ServiceCall) frames,
    exchange.calls[serial]? = some call → call.outcome = some (.returned frames) →
    ∃ after, after ++ [.exchanges (.returns serial)] <+: trace ∧
      ∃ entry ∈ served, entry.caller = serial ∧ Answered msgpack service after entry

variable {msgpack : Msgpack Value} {node next : InfoNode η ω} {event : InfoEvent η}
  {callEvent : CallEvent Callable} {exchange : ServiceCalls Callable}
  {service : Machine (InfoNode η ω) (InfoEvent η)} {trace longer : List (InfoEvent η)}
  {served : List (ServiceCalls.Served Callable)} {serial : Nat}

theorem exchangeEvent_exchanges {given : CallEvent Callable}
    (happens : node.exchangeEvent msgpack (.exchanges given) = some callEvent) :
    node.allowed callEvent = true ∧ given = callEvent := by
  rcases Option.ite_none_right_eq_some.1 happens with ⟨permitted, same⟩
  cases same
  exact ⟨permitted, rfl⟩

theorem not_builtIn (happens : node.exchangeEvent msgpack event = some callEvent)
    (service : Callable) : callEvent ≠ .registerService Member.builtIn service := by
  rintro rfl
  cases event with
  | exchanges event =>
      have permitted := (exchangeEvent_exchanges happens).1
      simp [allowed] at permitted
  | discovers | beginService | beginPublisher | finishRegistration | readInfoId | readTopics
  | iterate => cases happens

theorem answer_of_iterate {given : ServiceManager.Answer Callable}
    (happens : node.exchangeEvent msgpack event = some (.iterate given)) :
    ∃ expired, given = answer msgpack node.described expired := by
  cases event with
  | iterate expired =>
      cases happens
      exact ⟨expired, rfl⟩
  | exchanges event => cases (exchangeEvent_exchanges happens).1
  | discovers | beginService | beginPublisher | finishRegistration | readInfoId | readTopics =>
      cases happens

/-- Everything but a round of the loop is an event of the service as it stands. -/
theorem event_of_exchangeEvent (happens : node.exchangeEvent msgpack event = some callEvent)
    (other : ∀ answer, callEvent ≠ .iterate answer) : event = .exchanges callEvent := by
  cases event with
  | iterate expired =>
      cases happens
      exact absurd rfl (other _)
  | exchanges event => rw [(exchangeEvent_exchanges happens).2]
  | discovers | beginService | beginPublisher | finishRegistration | readInfoId | readTopics =>
      cases happens

theorem Answered.later {entry : ServiceCalls.Served Callable}
    (answered : Answered msgpack service trace entry) (isPrefix : trace <+: longer) :
    Answered msgpack service longer entry := by
  rcases answered with ⟨begins, described, expired, makes, along, rest⟩
  exact ⟨begins, described, expired, makes, along.later isPrefix, rest⟩

/-- Where nothing is sent and nothing returns, nothing changes but the moment. -/
theorem Current.later (current : Current msgpack service trace exchange served)
    (isPrefix : trace <+: longer) : Current msgpack service longer exchange served where
  matched := current.matched
  builtIn := current.builtIn
  made := by
    intro serial there
    rcases current.made serial there with ⟨begins, makes, within⟩
    exact ⟨begins, makes, within.trans isPrefix⟩
  answered := fun entry listed => (current.answered entry listed).later isPrefix
  returned := by
    intro serial call frames found ended
    rcases current.returned serial call frames found ended with ⟨after, within, rest⟩
    exact ⟨after, within.trans isPrefix, rest⟩

theorem Packing.later (packing : Packing service trace node) (isPrefix : trace <+: longer)
    (sameExchange : next.exchange = node.exchange) (samePacking : next.packing = node.packing) :
    Packing service longer next := by
  intro snapshot packed
  rw [samePacking] at packed
  rcases packing snapshot packed with ⟨serial, peers, begins, head, makes, along⟩
  exact ⟨serial, peers, begins, sameExchange ▸ head, makes, along.later isPrefix⟩

/-- What is packed for the next request was read after its call was made. -/
theorem Packing.description (packing : Packing service trace node)
    (run : service.exec trace = some node)
    (made : ∃ begins, Makes service begins serial ∧ begins <+: trace) {peers : List Nat}
    (head : node.exchange.peers = serial :: peers) :
    ∃ begins, Makes service begins serial ∧
      AnswerAlong (DescribedAt service) begins trace node.described := by
  have here : DescribedAt service trace node.info := ⟨node, run, rfl⟩
  unfold described
  cases packed : node.packing with
  | none =>
      rcases made with ⟨begins, makes, within⟩
      exact ⟨begins, makes, ((snapshotAlong_infoId within here).readTopics here).readServices here⟩
  | some snapshot =>
      rcases packing snapshot packed with ⟨other, rest, begins, same, makes, along⟩
      cases head.symm.trans same
      cases snapshot with
      | infoIdRead infoId => exact ⟨begins, makes, (along.readTopics here).readServices here⟩
      | topicsRead infoId topics => exact ⟨begins, makes, along.readServices here⟩

/-- A request that is taken is answered with what is packed. -/
theorem Current.answered_of_entry (current : Current msgpack service trace node.exchange served)
    (packing : Packing service trace node) (run : service.exec trace = some node)
    (happens : node.exchangeEvent msgpack event = some callEvent)
    {entry : ServiceCalls.Served Callable} (taken : node.exchange.entry callEvent = some entry) :
    Answered msgpack service trace entry := by
  rcases ServiceCalls.head_of_entry taken with ⟨⟨peers, head⟩, manager⟩
  rw [ServiceCalls.event_of_entry taken] at happens
  rcases answer_of_iterate happens with ⟨expired, given⟩
  have made := current.made entry.caller (ServiceCalls.call_of_head current.matched head)
  rcases packing.description run made head with ⟨begins, makes, along⟩
  refine ⟨begins, node.described, expired, makes, along, given, ?_⟩
  rw [manager]
  exact current.builtIn

/-- What happens to the service. -/
theorem Current.exchanges (current : Current msgpack service trace node.exchange served)
    (packing : Packing service trace node) (run : service.exec trace = some node)
    (happens : node.exchangeEvent msgpack event = some callEvent)
    (stepped : node.exchange.step callEvent = some exchange) :
    Current msgpack service (trace ++ [event]) exchange
      (served ++ (node.exchange.entry callEvent).toList) := by
  have shorter : trace <+: trace ++ [event] := List.prefix_append _ _
  have before := current.later shorter
  constructor
  case matched => exact current.matched.step stepped
  case builtIn =>
    exact (ServiceCalls.lookup_of_step stepped (not_builtIn happens)).trans current.builtIn
  case made =>
    intro serial there
    rw [ServiceCalls.length_of_step current.matched stepped] at there
    by_cases earlier : serial < node.exchange.calls.length
    · exact before.made serial earlier
    · cases sends : ServiceCalls.isSend callEvent with
      | false =>
          rw [sends] at there
          exact absurd there earlier
      | true =>
          rw [sends, if_pos rfl] at there
          cases callEvent with
          | sends frames =>
              rw [event_of_exchangeEvent happens nofun]
              refine ⟨_, ⟨trace, frames, node, rfl, run, ?_⟩, List.prefix_rfl⟩
              omega
          | arrives | comesFirst | iterate | registerService | stop | returns | timesOut =>
              cases sends
  case answered =>
    intro entry listed
    rcases List.mem_append.1 listed with earlier | last
    · exact before.answered entry earlier
    · have taken := Option.mem_toList.1 last
      exact (current.answered_of_entry packing run happens taken).later shorter
  case returned =>
    intro serial call frames found ended
    rcases ServiceCalls.returned_of_step current.matched stepped found ended with
      ⟨earlier, there, same⟩ | ⟨returns, earlier, there, reply⟩
    · rcases before.returned serial earlier frames there same with
        ⟨after, within, entry, listed, rest⟩
      exact ⟨after, within, entry, List.mem_append_left _ listed, rest⟩
    · -- the reply it returns with is of a request that was taken before
      rw [returns] at happens
      rw [event_of_exchangeEvent happens nofun]
      rw [current.matched.replied serial earlier there] at reply
      rcases Option.bind_eq_some_iff.1 reply with ⟨entry, first, _⟩
      have listed := List.mem_of_find?_eq_some first
      have chosen := List.find?_some first
      exact ⟨trace, List.prefix_rfl, entry, List.mem_append_left _ listed, beq_iff_eq.1 chosen,
        current.answered entry listed⟩

/-- While the worker packs, the request it packs for stays the next one. -/
theorem Packing.exchanges (packing : Packing service trace node)
    (current : Current msgpack service trace node.exchange served)
    (permitted : node.allowed callEvent = true)
    (stepped : node.exchange.step callEvent = some exchange) (isPrefix : trace <+: longer) :
    Packing service longer { node with exchange := exchange } := by
  intro snapshot packed
  have busy : node.packing = some snapshot := packed
  rcases packing snapshot busy with ⟨serial, peers, begins, head, makes, along⟩
  have stays : ∃ rest, exchange.peers = serial :: rest := by
    apply ServiceCalls.head_of_step current.matched stepped head
    · rintro answer rfl
      cases permitted
    · rintro index rfl
      rw [allowed, busy] at permitted
      cases permitted
  rcases stays with ⟨rest, stays⟩
  exact ⟨serial, rest, begins, stays, makes, along.later isPrefix⟩

theorem current_start (outside : ω) (localName localIp nodeID : Text) (servicePort : Int)
    (now : ℚ) :
    Current msgpack service []
      (start outside localName localIp nodeID servicePort now : InfoNode η ω).exchange [] where
  matched := ServiceCalls.matched_start.quiet rfl
  builtIn := Dict.lookup_set_self _ _ _
  made := nofun
  answered := by
    intro entry listed
    cases listed
  returned := by
    intro serial call frames found
    cases found

/-- A request waits for the loop to work on it. -/
theorem exists_head (current : Current msgpack service trace node.exchange served)
    (working : node.working = true) : ∃ serial peers, node.exchange.peers = serial :: peers := by
  have ready := (Bool.and_eq_true_iff.1 working).2
  have paired := current.matched.waiting.length_eq
  cases listed : node.exchange.peers with
  | cons serial peers => exact ⟨serial, peers, rfl⟩
  | nil =>
      rw [listed, List.length_nil] at paired
      have nothing := List.length_eq_zero_iff.1 paired.symm
      rw [RepSocket.poll, nothing] at ready
      simp at ready

/-! ## What an asker gets -/

/-- What an asker reads in the reply to a request that was answered so. -/
theorem described_of_reply {limit : Nat} (speaks : msgpack.SpeaksMessagePack limit)
    (documented : msgpack.Documented) (deep : 3 ≤ limit) {taken : Taken Callable}
    {info : NodeInfo} {expired : Bool} {nameBytes bytes : Bytes} {reply : Bytes × Bytes}
    (named : Member.builtIn.encode = some nameBytes)
    (packed : msgpack.packb {} Objects.standard.none = .ok (some bytes))
    (sent : taken.frames = [nameBytes, bytes]) (given : taken.answer = answer msgpack info expired)
    (builtIn : taken.manager.callableServices.lookup Member.builtIn = some .getNodeInfo)
    (computed : taken.reply = .ok reply) :
    ∃ result, Exchange.readResponse Objects.standard msgpack [reply.1, reply.2] = .ok result ∧
      (result = Objects.standard.none ∨ result = info.value) := by
  have replied : (taken.manager.mapServices (Callable.handler info)).reply msgpack expired
      Member.builtIn bytes = .ok reply := by
    rw [← ServiceManager.replyTo_answering named, ServiceManager.replyTo_mapServices, ← computed,
      Taken.reply, sent, given]
    rfl
  have found : (taken.manager.mapServices (Callable.handler info)).callableServices.lookup
      Member.builtIn = (some Callable.getNodeInfo).map (Callable.handler info) := by
    rw [← builtIn]
    exact Dict.lookup_mapValues _ _ _
  have handled : Callable.handler info .getNodeInfo Objects.standard.none = .ok info.value := rfl
  exact ServiceManager.readResponse_of_returned speaks documented found packed trivial
    (Nat.zero_le limit) handled (strictKeys_value info) (distinctKeys_value info)
    ((depth_value info).trans deep) replied

/-- What a call that ended brings is `None` or a fresh description; it raises nothing. -/
theorem Current.described (current : Current msgpack service trace exchange served) {limit : Nat}
    (speaks : msgpack.SpeaksMessagePack limit) (documented : msgpack.Documented)
    (deep : 3 ≤ limit) {serial : Nat} {asked : ServiceCall} {outcome : CallOutcome}
    (found : exchange.calls[serial]? = some asked) (ended : asked.outcome = some outcome)
    {nameBytes bytes : Bytes} (named : Member.builtIn.encode = some nameBytes)
    (packed : msgpack.packb {} Objects.standard.none = .ok (some bytes))
    (sent : asked.request = [nameBytes, bytes]) :
    ∃ result last, (Exchange.sendRequest Objects.standard msgpack outcome.exchange Member.builtIn
        Objects.standard.none).run Exchange.start = .ok result last ∧
      (result = Objects.standard.none ∨
        ∃ described, Fresh service trace serial described ∧ result = described.value) := by
  have bytesSent : Exchange.requestBytes Objects.standard msgpack Objects.standard.none =
      .ok (some bytes) := packed
  rw [run_of_ended outcome named bytesSent]
  cases outcome with
  | timedOut => exact ⟨_, _, rfl, Or.inl rfl⟩
  | returned frames =>
      rcases current.matched.taken_of_returned found ended with
        ⟨taken, reply, once, own, computed, rfl⟩
      rcases current.returned serial asked _ found ended with
        ⟨after, within, entry, listed, caller, answered⟩
      have chosen : entry ∈ served.filter fun other => other.caller == serial :=
        List.mem_filter.2 ⟨listed, beq_iff_eq.2 caller⟩
      rw [once, List.mem_singleton] at chosen
      rw [chosen] at answered
      rcases answered with ⟨begins, described, expired, makes, along, given, builtIn⟩
      rw [sent] at own
      rcases described_of_reply speaks documented deep named packed own given builtIn computed with
        ⟨result, read, same⟩
      simp only [read]
      refine ⟨result, _, rfl, ?_⟩
      rcases same with nothing | same
      · exact Or.inl nothing
      · exact Or.inr ⟨described, ⟨begins, after, makes, along, within⟩, same⟩

/-! ## Over a run -/

variable [DecidableEq η] {call : NodesInfoManager.Call η ω}

omit [DecidableEq η] in
theorem exchange_beginService (serviceName : Text) (port : Int) (node : InfoNode η ω) :
    (node.beginService serviceName port).exchange = node.exchange ∧
      (node.beginService serviceName port).packing = node.packing := by
  simp only [beginService]
  split <;> exact ⟨rfl, rfl⟩

/-- Every step keeps the record of what was asked, answered and packed. -/
theorem Current.step (current : Current msgpack service trace node.exchange served)
    (packing : Packing service trace node) (run : service.exec trace = some node)
    (stepped : node.step call msgpack event = some next) :
    Current msgpack service (trace ++ [event]) next.exchange
        (served ++ ((node.exchangeEvent msgpack event).bind node.exchange.entry).toList) ∧
      Packing service (trace ++ [event]) next := by
  have shorter : trace <+: trace ++ [event] := List.prefix_append _ _
  have aside : ∀ {later : InfoNode η ω}, later.exchange = node.exchange →
      Current msgpack service (trace ++ [event]) later.exchange (served ++ []) := by
    intro later same
    rw [same, List.append_nil]
    exact current.later shorter
  cases event with
  | discovers event =>
      rcases Option.ite_none_left_eq_some.1 stepped with ⟨_, mapped⟩
      rcases Option.map_eq_some_iff.1 mapped with ⟨discovery, moved, rfl⟩
      exact ⟨aside rfl, packing.later shorter rfl rfl⟩
  | beginService serviceName port =>
      rcases Option.ite_none_right_eq_some.1 stepped with ⟨_, same⟩
      cases same
      have apart := exchange_beginService serviceName port node
      exact ⟨aside apart.1, packing.later shorter apart.1 apart.2⟩
  | beginPublisher topicName port =>
      rcases Option.ite_none_right_eq_some.1 stepped with ⟨_, same⟩
      cases same
      exact ⟨aside rfl, packing.later shorter rfl rfl⟩
  | finishRegistration =>
      rcases Option.map_eq_some_iff.1 stepped with ⟨registration, _, rfl⟩
      exact ⟨aside rfl, packing.later shorter rfl rfl⟩
  | readInfoId =>
      rcases Option.ite_none_right_eq_some.1 stepped with ⟨⟨working, _⟩, same⟩
      cases same
      refine ⟨aside rfl, ?_⟩
      intro snapshot packed
      cases packed
      rcases exists_head current working with ⟨serial, peers, head⟩
      rcases current.made serial (ServiceCalls.call_of_head current.matched head) with
        ⟨begins, makes, within⟩
      have here : DescribedAt service trace node.info := ⟨node, run, rfl⟩
      have along := snapshotAlong_infoId within here
      exact ⟨serial, peers, begins, head, makes, along.later shorter⟩
  | readTopics =>
      simp only [InfoNode.step] at stepped
      split at stepped
      next infoId packed =>
        cases stepped
        refine ⟨aside rfl, ?_⟩
        intro snapshot now
        cases now
        rcases packing _ packed with ⟨serial, peers, begins, head, makes, along⟩
        have further := along.readTopics ⟨node, run, rfl⟩
        exact ⟨serial, peers, begins, head, makes, further.later shorter⟩
      next => cases stepped
  | iterate expired =>
      rcases Option.map_eq_some_iff.1 stepped with ⟨exchange, moved, rfl⟩
      refine ⟨current.exchanges packing run rfl moved, ?_⟩
      intro snapshot packed
      cases packed
  | exchanges event =>
      rcases Option.ite_none_right_eq_some.1 stepped with ⟨permitted, mapped⟩
      rcases Option.map_eq_some_iff.1 mapped with ⟨exchange, moved, rfl⟩
      have happens : node.exchangeEvent msgpack (.exchanges event) = some event := if_pos permitted
      rw [happens, Option.bind_some]
      exact ⟨current.exchanges packing run happens moved,
        packing.exchanges current permitted moved shorter⟩

theorem current_of_run {outside : ω} {localName localIp nodeID : Text} {servicePort : Int} {now : ℚ}
    {recorded : InfoNode η ω × List (ServiceCalls.Served Callable)}
    (run : (ledger call msgpack outside localName localIp nodeID servicePort now).exec trace =
      some recorded) :
    Current msgpack (machine call msgpack outside localName localIp nodeID servicePort now) trace
      recorded.1.exchange recorded.2 := by
  refine (Machine.exec_induction (motive := fun trace recorded =>
    Current msgpack (machine call msgpack outside localName localIp nodeID servicePort now) trace
        recorded.1.exchange recorded.2 ∧
      Packing (machine call msgpack outside localName localIp nodeID servicePort now) trace
        recorded.1) ?_ ?_ run).1
  · exact ⟨current_start outside localName localIp nodeID servicePort now, nofun⟩
  · intro trace before event after reached both stepped
    rcases Machine.recording_step.1 stepped with ⟨moved, taken⟩
    rw [taken]
    exact both.1.step both.2 (Machine.exec_of_recording reached) moved

section Asked

variable {outside : ω} {localName localIp nodeID : Text} {servicePort : Int} {now : ℚ}
  {recorded : InfoNode η ω × List (ServiceCalls.Served Callable)} {limit serial : Nat}
  {asked : ServiceCall} {outcome : CallOutcome} {nameBytes bytes : Bytes}

/-- In every run of a node with its service loop: what a request for the description brings is
`None`, or a description that was read off the node between the moment at which the request was
made and the one at which it returned: the version the node had in one state of the run, the topics
in the same state or a later one, and the services in the same state or a later one still.  It
raises nothing. -/
theorem described_of_run (speaks : msgpack.SpeaksMessagePack limit)
    (documented : msgpack.Documented) (deep : 3 ≤ limit)
    (run : (ledger call msgpack outside localName localIp nodeID servicePort now).exec trace =
      some recorded)
    (found : recorded.1.exchange.calls[serial]? = some asked)
    (ended : asked.outcome = some outcome) (named : Member.builtIn.encode = some nameBytes)
    (packed : msgpack.packb {} Objects.standard.none = .ok (some bytes))
    (sent : asked.request = [nameBytes, bytes]) :
    ∃ result last, (Exchange.sendRequest Objects.standard msgpack outcome.exchange Member.builtIn
        Objects.standard.none).run Exchange.start = .ok result last ∧
      (result = Objects.standard.none ∨
        ∃ described,
          Fresh (machine call msgpack outside localName localIp nodeID servicePort now) trace serial
            described ∧ result = described.value) :=
  (current_of_run run).described speaks documented deep found ended named packed sent

/-- What the asker's registry does with what the request brings is what a registry of descriptions
does with `None` or with a fresh description. -/
theorem resumed_of_run (speaks : msgpack.SpeaksMessagePack limit)
    (documented : msgpack.Documented) (deep : 3 ≤ limit)
    (run : (ledger call msgpack outside localName localIp nodeID servicePort now).exec trace =
      some recorded)
    (found : recorded.1.exchange.calls[serial]? = some asked)
    (ended : asked.outcome = some outcome) (named : Member.builtIn.encode = some nameBytes)
    (packed : msgpack.packb {} Objects.standard.none = .ok (some bytes))
    (sent : asked.request = [nameBytes, bytes]) {φ : Type} {equality : PyEquality φ}
    (plain : Untyped.Plain equality) {askerCall : NodesInfoManager.Call η ω}
    {objectCall : Untyped.NodesInfoManager.Call η ω φ}
    (same : ∀ handler info,
      objectCall handler (PyObject.ofNodeInfo info) = askerCall handler info)
    (resumedAt : ℚ) (message : HeartbeatMessage) (nodeIp : Text)
    (world : NodesInfoManager.World η ω) :
    ∃ result last object fetch,
      (Exchange.sendRequest Objects.standard msgpack outcome.exchange Member.builtIn
        Objects.standard.none).run Exchange.start = .ok result last ∧
      PyObject.ofValue result = some object ∧
      (fetch = .none ∨ ∃ described,
        Fresh (machine call msgpack outside localName localIp nodeID servicePort now) trace serial
          described ∧ fetch = .value described) ∧
      (Untyped.NodesInfoManager.handleHeartbeatResume equality objectCall resumedAt message nodeIp
          (.value object)).run (Untyped.NodesInfoManager.ofWorld world) =
        Action.mapState Untyped.NodesInfoManager.ofWorld
          ((NodesInfoManager.handleHeartbeatResume askerCall resumedAt message nodeIp fetch).run
            world) := by
  rcases (current_of_run run).described speaks documented deep found ended named packed sent with
    ⟨result, last, returned, rfl | ⟨described, fresh, rfl⟩⟩
  · exact ⟨_, last, .nil, .none, returned, rfl, Or.inl rfl, rfl⟩
  · refine ⟨_, last, _, .value described, returned, ofValue_value described,
      Or.inr ⟨described, fresh, rfl⟩, ?_⟩
    exact Untyped.NodesInfoManager.mirrors_handleHeartbeatResume plain same resumedAt message
      nodeIp (.value described) world

end Asked

/-- A publisher is registered while the description is packed for an answer. -/
def askedRun : List (InfoEvent Empty) :=
  [.exchanges (.sends [[103, 101, 116, 95, 110, 111, 100, 101, 95, 105, 110, 102, 111], [192]]),
    .exchanges (.arrives 0), .readInfoId, .beginPublisher "frames" 5001, .readTopics,
    .finishRegistration, .iterate false, .exchanges (.returns 0)]

/-- The node that is asked. -/
abbrev camera : Machine (InfoNode Empty Unit) (InfoEvent Empty) :=
  machine Network.noHandlers (Msgpack.standard 512) () "camera" "10.0.0.2"
    "123e4567-e89b-12d3-a456-426614174000" 5000 0

/-- The same with the requests that were taken. -/
abbrev cameraLedger :
    Machine (InfoNode Empty Unit × List (ServiceCalls.Served Callable)) (InfoEvent Empty) :=
  ledger Network.noHandlers (Msgpack.standard 512) () "camera" "10.0.0.2"
    "123e4567-e89b-12d3-a456-426614174000" 5000 0

/-- What it says: the new publisher under the version before it. -/
def cameraFrames : List Bytes :=
  [ResponseStatus.success.encode,
    (MessagePack.encode (NodeInfo.value
      { name := "camera"
        nodeID := "123e4567-e89b-12d3-a456-426614174000"
        infoID := 1
        ip := "10.0.0.2"
        topics := [{ name := "frames", ip := "10.0.0.2", port := 5001 }]
        services := [{ name := Member.builtIn, ip := "10.0.0.2", port := 5000 }] })).getD []]

theorem exec_askedRun :
    ∃ recorded, cameraLedger.exec askedRun = some recorded ∧ recorded.1.exchange.calls[0]? =
      some { request := [[103, 101, 116, 95, 110, 111, 100, 101, 95, 105, 110, 102, 111], [192]]
             arrived := true
             reply := some cameraFrames
             outcome := some (.returned cameraFrames) } := by
  have ends : (cameraLedger.exec askedRun).map (fun recorded => recorded.1.exchange.calls[0]?) =
      some (some
        { request := [[103, 101, 116, 95, 110, 111, 100, 101, 95, 105, 110, 102, 111], [192]]
          arrived := true
          reply := some cameraFrames
          outcome := some (.returned cameraFrames) }) := by decide +kernel
  exact Option.map_eq_some_iff.1 ends

theorem encode_builtIn :
    Member.builtIn.encode =
      some [103, 101, 116, 95, 110, 111, 100, 101, 95, 105, 110, 102, 111] := by
  decide +kernel

theorem described_of_run_askedRun :
    ∃ recorded result last, cameraLedger.exec askedRun = some recorded ∧
      (Exchange.sendRequest Objects.standard (Msgpack.standard 512)
        (CallOutcome.returned cameraFrames).exchange Member.builtIn Objects.standard.none).run
        Exchange.start = .ok result last ∧
      (result = Objects.standard.none ∨
        ∃ described, Fresh camera askedRun 0 described ∧ result = described.value) := by
  rcases exec_askedRun with ⟨recorded, run, found⟩
  rcases described_of_run (Msgpack.standard_speaksMessagePack 512)
    (Msgpack.standard_documented 512) (by decide) run found rfl encode_builtIn rfl rfl with
    ⟨result, last, returned, brought⟩
  exact ⟨recorded, result, last, run, returned, brought⟩

/-- The registry of the asker, which knows nobody yet. -/
def viewerWorld : NodesInfoManager.World Empty Unit :=
  (NodesInfoManager.init "viewer" "10.0.0.9" "123e4567-e89b-12d3-a456-426614174001", ())

theorem resumed_of_run_askedRun :
    ∃ recorded object fetch, cameraLedger.exec askedRun = some recorded ∧
      (fetch = .none ∨
        ∃ described, Fresh camera askedRun 0 described ∧ fetch = .value described) ∧
      (Untyped.NodesInfoManager.handleHeartbeatResume Untyped.Discovery.plainEquality nofun 1
          HeartbeatMessage.sample "10.0.0.2" (.value object)).run
          (Untyped.NodesInfoManager.ofWorld viewerWorld) =
        Action.mapState Untyped.NodesInfoManager.ofWorld
          ((NodesInfoManager.handleHeartbeatResume nofun 1 HeartbeatMessage.sample "10.0.0.2"
            fetch).run viewerWorld) := by
  rcases exec_askedRun with ⟨recorded, run, found⟩
  rcases resumed_of_run (Msgpack.standard_speaksMessagePack 512)
    (Msgpack.standard_documented 512) (by decide) run found rfl encode_builtIn rfl rfl
    Untyped.Discovery.plain_plainEquality nofun 1 HeartbeatMessage.sample "10.0.0.2"
    viewerWorld with
    ⟨result, last, object, fetch, _, _, brought, resumed⟩
  exact ⟨recorded, object, fetch, run, brought, resumed⟩

end InfoNode

end Pyzlc
