import Pyzlc.Nodes.Discovery

/-!
# What is stored about a node, and where it comes from

Along every run of discovery the registry stays well formed, and each description in
it goes back to one event of the run: a direct update, or the end of a fetch whose
heartbeat's source address the description carries.
-/

namespace Pyzlc

open Foundation

namespace Discovery

open NodesInfoManager

variable {η ω : Type} [DecidableEq η]

/-! ## Pending fetches -/

/-- A step leaves a request waiting only if it was, or if its heartbeat just arrived. -/
theorem pending_step {call : Call η ω} {state next : Discovery η ω} {event : DiscoveryEvent η}
    (stepped : state.step call event = some next) {message : HeartbeatMessage} {nodeIp : Text}
    (waits : (message, nodeIp) ∈ next.pending) :
    (message, nodeIp) ∈ state.pending ∨ event = .heartbeat message nodeIp := by
  cases stepCase_of_step stepped with
  | fetches arrived address =>
      rcases List.mem_append.1 waits with before | last
      · exact Or.inl before
      · cases List.mem_singleton.1 last
        exact Or.inr rfl
  | fetchEnds => exact Or.inl (List.mem_of_mem_eraseIdx waits)
  | heard | advance | sweeps | sweepRaises | monitorEnds | cancelMonitor | stopRunning
  | updateNode | removeNode | registerLocalService | registerLocalPublisher
  | registerNodeUpdateHandler | unregisterNodeUpdateHandler => exact Or.inl waits

/-- Every waiting request has its heartbeat in the run. -/
theorem heartbeat_of_pending {call : Call η ω} {start state : Discovery η ω}
    {trace : List (DiscoveryEvent η)} (idle : start.pending = [])
    (run : (machine call start).exec trace = some state) :
    ∀ message nodeIp, (message, nodeIp) ∈ state.pending → .heartbeat message nodeIp ∈ trace := by
  apply Machine.exec_induction (motive := fun trace (state : Discovery η ω) =>
    ∀ message nodeIp, (message, nodeIp) ∈ state.pending → .heartbeat message nodeIp ∈ trace) _ _ run
  · intro message nodeIp waits
    rw [show (machine call start).start.pending = [] from idle] at waits
    cases waits
  · intro trace before event after _ earlier stepped message nodeIp waits
    apply List.mem_append.2
    rcases pending_step stepped waits with stays | arrives
    · exact Or.inl (earlier message nodeIp stays)
    · exact Or.inr (List.mem_singleton.2 arrives.symm)

/-! ## Origins -/

/-- The event of a run that a stored description goes back to. -/
inductive Origin (call : Call η ω) (start : Discovery η ω) (trace : List (DiscoveryEvent η))
    (info : NodeInfo) : Prop where
  | direct (given : NodeInfo) (updated : .updateNode given ∈ trace)
      (same : info = given.bindSockets)
  | fetched (before : List (DiscoveryEvent η)) (state : Discovery η ω) (index : Nat)
      (reply : NodeInfo) (message : HeartbeatMessage) (nodeIp : Text)
      (heard : .heartbeat message nodeIp ∈ before)
      (reached : (machine call start).exec before = some state)
      (waiting : state.pending[index]? = some (message, nodeIp))
      (ended : before ++ [.fetchEnds index (.value reply)] <+: trace)
      (same : info = { reply with ip := nodeIp }.bindSockets)

theorem Origin.later {call : Call η ω} {start : Discovery η ω}
    {trace : List (DiscoveryEvent η)} {info : NodeInfo} (origin : Origin call start trace info)
    (event : DiscoveryEvent η) : Origin call start (trace ++ [event]) info := by
  cases origin with
  | direct given updated same =>
      exact Origin.direct given (List.mem_append_left _ updated) same
  | fetched before state index reply message nodeIp heard reached waiting ended same =>
      exact Origin.fetched before state index reply message nodeIp heard reached waiting
        (ended.trans (List.prefix_append _ _)) same

/-- A description a step delivers has its origin in the run that ends in the step. -/
theorem origin_of_delivered {call : Call η ω} {start state : Discovery η ω}
    {trace : List (DiscoveryEvent η)} {event : DiscoveryEvent η} {info : NodeInfo}
    (idle : start.pending = []) (run : (machine call start).exec trace = some state)
    (delivers : state.delivered event = some info) :
    Origin call start (trace ++ [event]) info.bindSockets := by
  cases event with
  | updateNode given =>
      cases delivers
      exact Origin.direct info (List.mem_append_right _ (List.mem_singleton.2 rfl)) rfl
  | fetchEnds index result =>
      cases result with
      | value reply =>
          rcases Option.map_eq_some_iff.1 delivers with ⟨⟨message, nodeIp⟩, waiting, same⟩
          have waits := List.mem_of_getElem? waiting
          have heard := heartbeat_of_pending idle run message nodeIp waits
          apply Origin.fetched trace state index reply message nodeIp heard run waiting
          · exact List.prefix_rfl
          · rw [← same]
      | none => cases delivers
      | raised => cases delivers
  | heartbeat | advance | sweep | cancelMonitor | stopRunning | removeNode
  | registerLocalService | registerLocalPublisher | registerNodeUpdateHandler
  | unregisterNodeUpdateHandler => cases delivers

/-- Every stored description has an origin in the run. -/
theorem origin_of_stored {call : Call η ω} {start state : Discovery η ω}
    {trace : List (DiscoveryEvent η)} (startEmpty : start.registry.nodesInfo = ∅)
    (startFormed : start.registry.WellFormed) (idle : start.pending = [])
    (run : (machine call start).exec trace = some state) :
    ∀ nodeId info, state.registry.nodesInfo.lookup nodeId = some info →
      Origin call start trace info := by
  apply Machine.exec_induction (motive := fun trace (state : Discovery η ω) =>
    ∀ nodeId info, state.registry.nodesInfo.lookup nodeId = some info →
      Origin call start trace info) _ _ run
  · intro nodeId info found
    rw [show (machine call start).start.registry.nodesInfo = ∅ from startEmpty] at found
    cases found
  · intro trace before event after reached earlier stepped nodeId info found
    have wellFormed := wellFormed_of_reachable startFormed ⟨trace, reached⟩
    cases registryStep_of_step wellFormed stepped with
    | unchanged _ left =>
        rw [left] at found
        exact (earlier nodeId info found).later event
    | heard _ _ _ left =>
        rw [left] at found
        exact (earlier nodeId info found).later event
    | recorded given delivers left =>
        rw [left] at found
        rcases Registry.lookup_record found with old | ⟨_, arrived⟩
        · exact (earlier nodeId info old).later event
        · rw [arrived]
          exact origin_of_delivered idle reached delivers
    | dropped nodeIds _ left =>
        rw [left, Registry.lookup_dropAll] at found
        split at found
        next => cases found
        next => exact (earlier nodeId info found).later event

/-! ## Queries -/

end Discovery

namespace NodesInfoManager

variable {η : Type}

/-- The entries of `get_publisher_info` that come from other nodes. -/
def remotePublishers (manager : NodesInfoManager η) (topicName : TopicName) : List SocketInfo :=
  manager.nodesInfo.values.flatMap fun info =>
    info.topics.filter fun topic => topic.name = topicName

/-- The socket is one of a known node and carries that node's address. -/
def AtKnownNode (manager : NodesInfoManager η) (sockets : NodeInfo → List SocketInfo)
    (socket : SocketInfo) : Prop :=
  ∃ nodeId info, manager.nodesInfo.lookup nodeId = some info ∧ socket ∈ sockets info ∧
    socket.ip = info.ip

theorem atKnownNode_of_remotePublishers {manager : NodesInfoManager η}
    (wellFormed : manager.registry.WellFormed) {topicName : TopicName} {socket : SocketInfo}
    (listed : socket ∈ manager.remotePublishers topicName) :
    manager.AtKnownNode NodeInfo.topics socket := by
  rcases List.mem_flatMap.1 listed with ⟨info, stored, kept⟩
  rcases Dict.mem_values_iff.1 stored with ⟨nodeId, found⟩
  have member := List.mem_of_mem_filter kept
  exact ⟨nodeId, info, found, member, (wellFormed.addressed nodeId info found).1 socket member⟩

/-- A found service is one of a known node, or local when no known node offers it. -/
theorem atKnownNode_of_getServiceInfo {manager : NodesInfoManager η}
    (wellFormed : manager.registry.WellFormed) {serviceName : Text} {socket : SocketInfo}
    (answered : manager.getServiceInfo serviceName = some socket) :
    manager.AtKnownNode NodeInfo.services socket ∨
      socket ∈ manager.localNodeInfo.services ∧
        ∀ nodeId info, manager.nodesInfo.lookup nodeId = some info →
          ∀ service ∈ info.services, service.name ≠ serviceName := by
  unfold getServiceInfo at answered
  rcases Option.or_eq_some_iff.1 answered with remote | ⟨missing, here⟩
  · left
    rcases List.exists_of_findSome?_eq_some remote with ⟨info, stored, found⟩
    rcases Dict.mem_values_iff.1 stored with ⟨nodeId, known⟩
    have member := List.mem_of_find?_eq_some found
    exact ⟨nodeId, info, known, member, (wellFormed.addressed nodeId info known).2 socket member⟩
  · right
    constructor
    · exact List.mem_of_find?_eq_some here
    · intro nodeId info known service member
      have none := List.findSome?_eq_none_iff.1 missing info
        (Dict.mem_values_iff.2 ⟨nodeId, known⟩)
      simpa using List.find?_eq_none.1 none service member

end NodesInfoManager

/-! ## The invariant -/

namespace Discovery

open NodesInfoManager

variable {η ω : Type} [DecidableEq η]

/-- Along every run of a node the registry is well formed, every description in it has
its origin in the run, and what the queries return about other nodes carries their
addresses. -/
theorem registry_invariant (call : Call η ω) (localName localIp nodeID : Text) (outside : ω)
    (now : ℚ) (trace : List (DiscoveryEvent η)) (state : Discovery η ω)
    (run : (machine call (init localName localIp nodeID outside now)).exec trace = some state) :
    state.registry.WellFormed ∧
    (∀ nodeId info, state.registry.nodesInfo.lookup nodeId = some info →
      Origin call (init localName localIp nodeID outside now) trace info) ∧
    (∀ topicName, ∃ remote,
      state.manager.getPublisherInfo topicName =
        remote ++ state.manager.localNodeInfo.topics.filter (fun topic => topic.name = topicName) ∧
      ∀ socket ∈ remote, state.manager.AtKnownNode NodeInfo.topics socket) ∧
    ∀ serviceName socket, state.manager.getServiceInfo serviceName = some socket →
      state.manager.AtKnownNode NodeInfo.services socket ∨
        socket ∈ state.manager.localNodeInfo.services ∧
          ∀ nodeId info, state.manager.nodesInfo.lookup nodeId = some info →
            ∀ service ∈ info.services, service.name ≠ serviceName := by
  have startFormed := wellFormed_init (η := η) localName localIp nodeID outside now
  have wellFormed := wellFormed_of_reachable startFormed ⟨trace, run⟩
  constructor
  · exact wellFormed
  constructor
  · exact origin_of_stored rfl startFormed rfl run
  constructor
  · intro topicName
    refine ⟨state.manager.remotePublishers topicName, rfl, ?_⟩
    intro socket listed
    exact atKnownNode_of_remotePublishers wellFormed listed
  · intro serviceName socket answered
    exact atKnownNode_of_getServiceInfo wellFormed answered

/-- A node hears another one, and its description arrives while a handler raises. -/
def raisingRun : List (DiscoveryEvent Unit) :=
  [.registerNodeUpdateHandler "*" (),
    .heartbeat
      { zlcVersion := (0, 1, 0), nodeId := "b", infoId := 1, servicePort := 7000, groupName := "g" }
      "10.0.0.2",
    .fetchEnds 0 (.value {
      nodeID := "b", infoID := 1, name := "camera", ip := "0.0.0.0", services := []
      topics := [{ name := "image", ip := "0.0.0.0", port := 7001 }] })]

theorem registry_invariant_raisingRun :
    ∃ state, (machine (fun _ _ => throw .valueError)
        (init "viewer" "10.0.0.1" "a" () 0)).exec raisingRun = some state ∧
      state.registry.WellFormed ∧
      state.manager.getPublisherInfo "image" =
        [{ name := "image", ip := "10.0.0.2", port := 7001 }] := by
  refine ⟨_, rfl, ?_, ?_⟩
  · exact (registry_invariant _ "viewer" "10.0.0.1" "a" () 0 raisingRun _ rfl).1
  · decide

end Discovery

end Pyzlc
