import Pyzlc.Nodes.ServiceNames
import Pyzlc.Sockets.ServiceManager

/-!
# Registering a service with its handler

`register_service_handler` records a service twice: in the description that other nodes
fetch, which refuses names that are known, and in the table the service loop dispatches by,
which takes every name.  The second is written only where the first did not refuse, and
nothing else writes either, so the two hold the same names.
-/

namespace Pyzlc

open Foundation

/-- What one node registers its services with. -/
structure ServingNode (η ω κ : Type) where
  discovery : Discovery η ω
  serviceManager : ServiceManager κ
  port : Int

/-- `ServiceManager.register_service`. -/
def ServiceManager.registerService {κ : Type} (serviceName : Text) (callback : κ)
    (manager : ServiceManager κ) : ServiceManager κ :=
  { manager with callableServices := Dict.set manager.callableServices serviceName callback }

theorem ServiceManager.step_registerService {κ : Type} (serviceName : Text) (callback : κ)
    (manager : ServiceManager κ) :
    manager.step (.registerService serviceName callback) =
      some (manager.registerService serviceName callback) := rfl

/-- What happens to a node that serves.  Its description gets a service only through
`register_service_handler`. -/
inductive ServingEvent (η κ : Type) where
  | registerServiceHandler (serviceName : Text) (callback : κ)
  | discovery (event : DiscoveryEvent η)

/-- The services and the topics a node registered, in order. -/
structure Registrations where
  services : List Text
  topics : List Text
  deriving DecidableEq

/-- A service of this name is known, on the node itself or on another. -/
def NodesInfoManager.Refuses {η : Type} (manager : NodesInfoManager η) (serviceName : Text) :
    Prop :=
  manager.checkLocalService serviceName = true ∨
    (manager.getServiceInfo serviceName).isSome = true

instance {η : Type} (manager : NodesInfoManager η) (serviceName : Text) :
    Decidable (manager.Refuses serviceName) :=
  inferInstanceAs (Decidable (_ ∨ _))

namespace ServingNode

open NodesInfoManager

variable {η ω κ : Type}

def localNodeInfo (node : ServingNode η ω κ) : NodeInfo := node.discovery.manager.localNodeInfo

/-- The names in `local_node_info["services"]`. -/
def serviceNames (node : ServingNode η ω κ) : List Text :=
  node.localNodeInfo.services.map fun service => service.name

/-- The names in `local_node_info["topics"]`. -/
def topicNames (node : ServingNode η ω κ) : List Text :=
  node.localNodeInfo.topics.map fun topic => topic.name

/-- Run an action of the registry alone. -/
def onDiscovery (action : Action PyError (NodesInfoManager η) Unit) :
    Action PyError (ServingNode η ω κ) Unit :=
  Action.zoom (fun node => node.discovery.manager)
    (fun manager node => { node with discovery := node.discovery.withManager manager }) action

/-- Create a service with the specified name and callback. -/
def registerServiceHandler (serviceName : Text) (callback : κ) :
    Action PyError (ServingNode η ω κ) Unit := do
  let node ← get
  onDiscovery (registerLocalService serviceName node.port)
  modify fun node =>
    { node with serviceManager := node.serviceManager.registerService serviceName callback }

/-- A node right after construction. -/
def fresh (localName localIp nodeID : Text) (outside : ω) (now : ℚ) (port : Int) :
    ServingNode η ω κ where
  discovery := Discovery.init localName localIp nodeID outside now
  serviceManager := ServiceManager.init
  port := port

def step [DecidableEq η] (call : Call η ω) (node : ServingNode η ω κ) :
    ServingEvent η κ → Option (ServingNode η ω κ)
  | .registerServiceHandler serviceName callback =>
      some ((registerServiceHandler serviceName callback).after node)
  | .discovery (.registerLocalService _ _) => none
  | .discovery event =>
      (node.discovery.step call event).map fun next => { node with discovery := next }

/-- What a step registers: a service unless the call raises, a topic always. -/
def record (node : ServingNode η ω κ) :
    ServingEvent η κ → Registrations → Registrations
  | .registerServiceHandler serviceName callback, registrations =>
      match (registerServiceHandler serviceName callback).run node with
      | .ok _ _ => { registrations with services := registrations.services ++ [serviceName] }
      | .error _ _ => registrations
  | .discovery (.registerLocalPublisher topicName _), registrations =>
      { registrations with topics := registrations.topics ++ [topicName] }
  | .discovery _, registrations => registrations

/-- The runs of a node, with what it registered. -/
def machine [DecidableEq η] (call : Call η ω) (start : ServingNode η ω κ) :
    Machine (ServingNode η ω κ × Registrations) (ServingEvent η κ) :=
  Machine.recording { start := start, step := step call } { services := [], topics := [] } record

/-! ## What a registration does -/

/-- The node after an accepted registration. -/
def registered (serviceName : Text) (callback : κ) (node : ServingNode η ω κ) :
    ServingNode η ω κ :=
  { node with
    discovery := node.discovery.withManager
      (bumpInfoId (appendLocalService serviceName node.port node.discovery.manager))
    serviceManager := node.serviceManager.registerService serviceName callback }

theorem run_registerLocalService (serviceName : Text) (port : Int)
    (manager : NodesInfoManager η) :
    (registerLocalService serviceName port).run manager =
      if manager.Refuses serviceName then .error .valueError manager
      else .ok ⟨⟩ (bumpInfoId (appendLocalService serviceName port manager)) := by
  unfold registerLocalService
  rw [Action.bind_of_ok (Action.run_get manager)]
  by_cases taken : manager.checkLocalService serviceName = true
  · have refused : manager.Refuses serviceName := Or.inl taken
    rw [if_pos taken, if_pos refused]
    rfl
  · rw [if_neg taken]
    by_cases found : (manager.getServiceInfo serviceName).isSome = true
    · have refused : manager.Refuses serviceName := Or.inr found
      rw [if_pos refused]
      simp only [if_pos found]
      rfl
    · have free : ¬ manager.Refuses serviceName := not_or.2 ⟨taken, found⟩
      rw [if_neg free]
      simp only [if_neg found]
      rfl

/-- A call raises and changes nothing, or both tables get the name. -/
theorem run_registerServiceHandler (serviceName : Text) (callback : κ)
    (node : ServingNode η ω κ) :
    (registerServiceHandler serviceName callback).run node =
      if node.discovery.manager.Refuses serviceName then .error .valueError node
      else .ok ⟨⟩ (node.registered serviceName callback) := by
  unfold registerServiceHandler
  rw [Action.bind_of_ok (Action.run_get node)]
  have local_run := run_registerLocalService serviceName node.port node.discovery.manager
  by_cases refused : node.discovery.manager.Refuses serviceName
  · rw [if_pos refused] at local_run ⊢
    exact Action.bind_of_error (Action.run_zoom_of_error local_run)
  · rw [if_neg refused] at local_run ⊢
    apply Eq.trans
    · apply Action.bind_of_ok
      exact Action.run_zoom_of_ok local_run
    · rfl

theorem serviceNames_registered (serviceName : Text) (callback : κ) (node : ServingNode η ω κ) :
    (node.registered serviceName callback).serviceNames = node.serviceNames ++ [serviceName] := by
  show List.map _ (_ ++ [_]) = _
  rw [List.map_append]
  rfl

theorem mem_serviceNames {node : ServingNode η ω κ} {serviceName : Text} :
    serviceName ∈ node.serviceNames ↔
      node.discovery.manager.checkLocalService serviceName = true := by
  rw [checkLocalService_iff, serviceNames, List.mem_map]
  rfl

/-! ## The two tables -/

/-- The tables agree, and the version counts what was registered. -/
structure Consistent (node : ServingNode η ω κ) (registrations : Registrations) : Prop where
  distinct : node.serviceNames.Nodup
  dispatched : ∀ serviceName,
    serviceName ∈ node.serviceNames ↔ serviceName ∈ node.serviceManager.callableServices
  services : node.serviceNames = registrations.services
  topics : node.topicNames = registrations.topics
  version : node.localNodeInfo.infoID =
    registrations.services.length + registrations.topics.length

theorem Consistent.register {node : ServingNode η ω κ} {registrations : Registrations}
    (consistent : node.Consistent registrations) {serviceName : Text} (callback : κ)
    (free : ¬ node.discovery.manager.Refuses serviceName) :
    (node.registered serviceName callback).Consistent
      { registrations with services := registrations.services ++ [serviceName] } where
  distinct := by
    have fresh : serviceName ∉ node.serviceNames := fun listed =>
      free (Or.inl (mem_serviceNames.1 listed))
    rw [serviceNames_registered]
    exact List.concat_eq_append ▸ consistent.distinct.concat fresh
  dispatched := by
    intro other
    rw [serviceNames_registered, List.mem_append, List.mem_singleton,
      consistent.dispatched other]
    exact Or.comm.trans (Dict.mem_set _ _ _ _).symm
  services := by rw [serviceNames_registered, consistent.services]
  topics := consistent.topics
  version := by
    show node.localNodeInfo.infoID + 1 =
      ((registrations.services ++ [serviceName]).length : Int) + registrations.topics.length
    rw [consistent.version, List.length_append, List.length_singleton]
    omega

/-- A node with the same names and the same table agrees as before. -/
theorem Consistent.tables {node next : ServingNode η ω κ} {registrations : Registrations}
    (consistent : node.Consistent registrations)
    (dispatch : next.serviceManager = node.serviceManager)
    (names : next.serviceNames = node.serviceNames) :
    next.serviceNames.Nodup ∧
      (∀ serviceName, serviceName ∈ next.serviceNames ↔
        serviceName ∈ next.serviceManager.callableServices) ∧
      next.serviceNames = registrations.services := by
  rw [names, dispatch]
  exact ⟨consistent.distinct, consistent.dispatched, consistent.services⟩

theorem Consistent.publish {node next : ServingNode η ω κ} {registrations : Registrations}
    (consistent : node.Consistent registrations) (topicName : Text) (port : Int)
    (dispatch : next.serviceManager = node.serviceManager)
    (description : next.localNodeInfo =
      (bumpInfoId (appendLocalTopic topicName port node.discovery.manager)).localNodeInfo) :
    next.Consistent { registrations with topics := registrations.topics ++ [topicName] } := by
  have names : next.serviceNames = node.serviceNames := by
    rw [serviceNames, description]
    rfl
  rcases consistent.tables dispatch names with ⟨distinct, dispatched, services⟩
  refine ⟨distinct, dispatched, services, ?_, ?_⟩
  · rw [topicNames, description, ← consistent.topics]
    exact List.map_append
  · rw [description]
    show node.localNodeInfo.infoID + 1 =
      (registrations.services.length : Int) + (registrations.topics ++ [topicName]).length
    rw [consistent.version, List.length_append, List.length_singleton]
    omega

theorem Consistent.frame {node next : ServingNode η ω κ} {registrations : Registrations}
    (consistent : node.Consistent registrations)
    (dispatch : next.serviceManager = node.serviceManager)
    (description : next.localNodeInfo = node.localNodeInfo) :
    next.Consistent registrations := by
  have names : next.serviceNames = node.serviceNames := by
    rw [serviceNames, description]
    rfl
  rcases consistent.tables dispatch names with ⟨distinct, dispatched, services⟩
  refine ⟨distinct, dispatched, services, ?_, ?_⟩
  · rw [topicNames, description]
    exact consistent.topics
  · rw [description]
    exact consistent.version

theorem record_of_quiet (node : ServingNode η ω κ) {event : DiscoveryEvent η}
    (quiet : Discovery.registers event = false) (registrations : Registrations) :
    node.record (.discovery event) registrations = registrations := by
  cases event with
  | registerLocalPublisher => cases quiet
  | _ => rfl

theorem consistent_registerServiceHandler {node : ServingNode η ω κ}
    {registrations : Registrations} (consistent : node.Consistent registrations)
    (serviceName : Text) (callback : κ) :
    ((registerServiceHandler serviceName callback).after node).Consistent
      (node.record (.registerServiceHandler serviceName callback) registrations) := by
  have ran := run_registerServiceHandler serviceName callback node
  simp only [record]
  by_cases refused : node.discovery.manager.Refuses serviceName
  · rw [if_pos refused] at ran
    rw [Action.after_of_error ran, ran]
    exact consistent
  · rw [if_neg refused] at ran
    rw [Action.after_of_ok ran, ran]
    exact consistent.register callback refused

theorem consistent_fresh (localName localIp nodeID : Text) (outside : ω) (now : ℚ) (port : Int) :
    (fresh localName localIp nodeID outside now port : ServingNode η ω κ).Consistent
      { services := [], topics := [] } where
  distinct := List.nodup_nil
  dispatched := by
    intro serviceName
    apply iff_of_false
    · exact List.not_mem_nil
    · exact AList.notMem_empty serviceName
  services := rfl
  topics := rfl
  version := rfl

/-- What every reachable state keeps. -/
def Sound (state : ServingNode η ω κ × Registrations) : Prop :=
  state.1.discovery.registry.WellFormed ∧ state.1.Consistent state.2

theorem sound_fresh (localName localIp nodeID : Text) (outside : ω) (now : ℚ) (port : Int) :
    Sound ((fresh localName localIp nodeID outside now port : ServingNode η ω κ),
      { services := [], topics := [] }) :=
  ⟨Discovery.wellFormed_init _ _ _ _ _, consistent_fresh _ _ _ _ _ _⟩

/-! ## Runs -/

variable [DecidableEq η] {call : Call η ω}

/-- The registry takes the step, and it is a publisher's if it registers anything. -/
theorem step_discovery {node next : ServingNode η ω κ} {event : DiscoveryEvent η}
    (stepped : node.step call (.discovery event) = some next) :
    (∃ after, node.discovery.step call event = some after ∧
      next = { node with discovery := after }) ∧
    (Discovery.registers event = false ∨
      ∃ topicName port, event = .registerLocalPublisher topicName port) := by
  cases event with
  | registerLocalService serviceName port => cases stepped
  | registerLocalPublisher topicName port =>
      simp only [step, Option.map_eq_some_iff] at stepped
      rcases stepped with ⟨after, taken, same⟩
      exact ⟨⟨after, taken, same.symm⟩, Or.inr ⟨topicName, port, rfl⟩⟩
  | heartbeat | fetchEnds | advance | sweep | cancelMonitor | stopRunning | updateNode
  | removeNode | registerNodeUpdateHandler | unregisterNodeUpdateHandler =>
      simp only [step, Option.map_eq_some_iff] at stepped
      rcases stepped with ⟨after, taken, same⟩
      exact ⟨⟨after, taken, same.symm⟩, Or.inl rfl⟩

theorem consistent_discovery {node next : ServingNode η ω κ} {registrations : Registrations}
    (wellFormed : node.discovery.registry.WellFormed) (consistent : node.Consistent registrations)
    {event : DiscoveryEvent η} (stepped : node.step call (.discovery event) = some next) :
    next.Consistent (node.record (.discovery event) registrations) := by
  rcases step_discovery stepped with ⟨⟨after, taken, rfl⟩, kind⟩
  rcases kind with quiet | ⟨topicName, port, rfl⟩
  · rw [record_of_quiet node quiet]
    exact consistent.frame rfl (Discovery.localNodeInfo_step wellFormed quiet taken)
  · cases taken
    refine consistent.publish topicName port rfl ?_
    exact (after_registerLocalPublisher call topicName port node.discovery.world).localNodeInfo

theorem wellFormed_step {node next : ServingNode η ω κ} {event : ServingEvent η κ}
    (wellFormed : node.discovery.registry.WellFormed)
    (stepped : node.step call event = some next) : next.discovery.registry.WellFormed := by
  cases event with
  | registerServiceHandler serviceName callback =>
      cases stepped
      have ran := run_registerServiceHandler serviceName callback node
      split at ran
      next =>
        rw [Action.after_of_error ran]
        exact wellFormed
      next =>
        rw [Action.after_of_ok ran]
        exact wellFormed
  | discovery event =>
      rcases step_discovery stepped with ⟨⟨after, taken, rfl⟩, _⟩
      exact (Discovery.registryStep_of_step wellFormed taken).wellFormed wellFormed

theorem sound_of_reachable {start : ServingNode η ω κ} {state : ServingNode η ω κ × Registrations}
    (sound : Sound (start, { services := [], topics := [] }))
    (reachable : (machine call start).Reachable state) : Sound state := by
  apply reachable.invariant sound
  intro before event after _ holds stepped
  rcases Machine.recording_step.1 stepped with ⟨taken, recorded⟩
  rcases holds with ⟨wellFormed, consistent⟩
  constructor
  · exact wellFormed_step wellFormed taken
  · rw [recorded]
    cases event with
    | registerServiceHandler serviceName callback =>
        have reached := Option.some.inj taken
        rw [← reached]
        exact consistent_registerServiceHandler consistent serviceName callback
    | discovery event => exact consistent_discovery wellFormed consistent taken

/-- In every state a node reaches, its description and its dispatch table hold the same
services, the version counts the services and topics registered so far, and a call that
raises leaves the whole node as it was. -/
theorem tablesAgree_of_reachable {localName localIp nodeID : Text} {outside : ω} {now : ℚ}
    {port : Int} {node : ServingNode η ω κ} {registrations : Registrations}
    (reachable : (machine call (fresh localName localIp nodeID outside now port)).Reachable
      (node, registrations)) :
    node.Consistent registrations ∧
      ∀ serviceName callback error next,
        (registerServiceHandler serviceName callback).run node = .error error next →
          next = node := by
  constructor
  · exact (sound_of_reachable (sound_fresh _ _ _ _ _ _) reachable).2
  · intro serviceName callback error next raised
    rw [run_registerServiceHandler] at raised
    split at raised
    next =>
      cases raised
      rfl
    next => cases raised

/-- A node that offers a service under the identifier of another node. -/
def remoteInfo : NodeInfo where
  nodeID := "123e4567-e89b-12d3-a456-426614174000"
  infoID := 1
  name := "camera"
  ip := "192.168.0.7"
  topics := []
  services := [{ name := "grab", ip := "192.168.0.7", port := 5555 }]

/-- An accepted name, the same name again, a topic, and a name of another node. -/
def servingTrace : List (ServingEvent Unit Nat) :=
  [.registerServiceHandler "get_node_info" 0, .registerServiceHandler "get_node_info" 1,
    .discovery (.registerLocalPublisher "image" 6000), .discovery (.updateNode remoteInfo),
    .registerServiceHandler "grab" 2]

theorem tablesAgree_of_reachable_servingTrace :
    ∃ node registrations,
      (machine (fun _ _ => pure ⟨⟩) (fresh "viewer" "192.168.0.9"
        "123e4567-e89b-12d3-a456-426614174001" () 0 5556)).exec servingTrace =
          some (node, registrations) ∧
      registrations = { services := ["get_node_info"], topics := ["image"] } ∧
      node.Consistent registrations ∧
      ∀ serviceName callback error next,
        (registerServiceHandler serviceName callback).run node = .error error next →
          next = node := by
  have ran : ((machine (fun _ _ => pure ⟨⟩) (fresh "viewer" "192.168.0.9"
      "123e4567-e89b-12d3-a456-426614174001" () 0 5556)).exec servingTrace).map Prod.snd =
        some { services := ["get_node_info"], topics := ["image"] } := by
    decide +kernel
  rcases Option.map_eq_some_iff.1 ran with ⟨⟨node, registrations⟩, reached, same⟩
  exact ⟨node, registrations, reached, same,
    tablesAgree_of_reachable (Machine.reachable_of_exec reached)⟩

end ServingNode

end Pyzlc
