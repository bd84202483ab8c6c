import Pyzlc.Nodes.HeartbeatEffect
import Pyzlc.Nodes.Versions
import Pyzlc.Nodes.Views

/-!
# Catching up with a node

A node that has accepted a heartbeat of another one either has its version recorded or fetches it.
While the other node registers nothing, the fetches made for it bring its description, and no
older description of it arrives, this stays so; when no fetch is left, what is stored is what the
other node advertises.
-/

namespace Pyzlc

open Foundation

/-- The description a fetch brings. -/
def FetchResult.described : FetchResult → Option NodeInfo
  | .value info => some info
  | _ => Option.none

namespace Discovery

open NodesInfoManager

variable {η ω : Type}

/-! ## One node that learns of another -/

/-- A fetch made for a heartbeat of the node is under way. -/
def Awaits (nodeId : HashIdentifier) (state : Discovery η ω) : Prop :=
  ∃ request ∈ state.pending, request.1.nodeId = nodeId

instance (nodeId : HashIdentifier) (state : Discovery η ω) : Decidable (state.Awaits nodeId) :=
  inferInstanceAs (Decidable (∃ request ∈ state.pending, request.1.nodeId = nodeId))

/-- The event takes the node out of the registry, if it is in it. -/
def Evicts (nodeId : HashIdentifier) (state : Discovery η ω) : DiscoveryEvent η → Prop
  | .sweep => ∃ lastHeartbeat ∈ state.manager.nodesHeartbeat.lookup nodeId,
      state.now - lastHeartbeat > 3
  | .removeNode other => other = nodeId
  | _ => False

instance (nodeId : HashIdentifier) (state : Discovery η ω) :
    DecidablePred (state.Evicts nodeId)
  | .sweep => inferInstanceAs (Decidable (∃ lastHeartbeat ∈
      state.manager.nodesHeartbeat.lookup nodeId, state.now - lastHeartbeat > 3))
  | .removeNode other => inferInstanceAs (Decidable (other = nodeId))
  | .heartbeat _ _ | .fetchEnds _ _ | .advance _ | .cancelMonitor | .stopRunning | .updateNode _
  | .registerLocalService _ _ | .registerLocalPublisher _ _ | .registerNodeUpdateHandler _ _
  | .unregisterNodeUpdateHandler _ _ => isFalse id

/-- A fetch made for the node brings its current description, and no other description of it
arrives. -/
def BringsCurrent (current : NodeInfo) (state : Discovery η ω) : DiscoveryEvent η → Prop
  | .fetchEnds index result =>
      (∀ request ∈ state.pending[index]?, request.1.nodeId = current.nodeID →
        result = .value current) ∧
      ∀ info ∈ result.described, info.nodeID = current.nodeID → info = current
  | .updateNode info => info.nodeID = current.nodeID → info = current
  | _ => True

instance (current : NodeInfo) (state : Discovery η ω) :
    DecidablePred (state.BringsCurrent current)
  | .fetchEnds index result => inferInstanceAs (Decidable
      ((∀ request ∈ state.pending[index]?, request.1.nodeId = current.nodeID →
        result = .value current) ∧
      ∀ info ∈ result.described, info.nodeID = current.nodeID → info = current))
  | .updateNode info => inferInstanceAs (Decidable (info.nodeID = current.nodeID → info = current))
  | .heartbeat _ _ | .sweep | .advance _ | .cancelMonitor | .stopRunning | .removeNode _
  | .registerLocalService _ _ | .registerLocalPublisher _ _ | .registerNodeUpdateHandler _ _
  | .unregisterNodeUpdateHandler _ _ => isTrue trivial

/-- The current version is recorded, or a fetch for it is under way. -/
def CatchesUp (current : NodeInfo) (state : Discovery η ω) : Prop :=
  state.Awaits current.nodeID ∨ state.version current.nodeID = some current.infoID

variable {nodeId : HashIdentifier}

/-- A round of the monitor takes out stale nodes only. -/
theorem recorded_round {now : ℚ} {manager next : NodesInfoManager η}
    (wellFormed : manager.registry.WellFormed) (recorded : nodeId ∈ manager.nodesInfoId)
    (fresh : ¬ Stale now manager nodeId)
    (left : (checkHeartbeatRound now).after manager = next) : nodeId ∈ next.nodesInfoId := by
  by_cases described : ∀ other, Stale now manager other → other ∈ manager.nodesInfo
  · rw [Action.after_of_ok (checkHeartbeatRound_of_described wellFormed described)] at left
    have dropped := registry_foldl_dropNode (staleNodes now manager) manager
    rw [left] at dropped
    show nodeId ∈ next.registry.nodesInfoId
    rcases Dict.mem_iff_lookup.1 recorded with ⟨version, found⟩
    have remains : nodeId ∉ staleNodes now manager := fun member => fresh (mem_staleNodes.1 member)
    have after : next.registry.nodesInfoId.lookup nodeId = some version := by
      rw [dropped, Registry.lookupId_dropAll, if_neg remains]
      exact found
    exact Dict.mem_of_lookup after
  · rcases not_forall.1 described with ⟨other, undescribed⟩
    rcases Classical.not_imp.1 undescribed with ⟨stale, missing⟩
    rcases checkHeartbeatRound_of_undescribed stale missing with ⟨key, failed⟩
    rw [Action.after_of_error failed] at left
    rw [← left]
    exact recorded

theorem mem_record {registry : Registry} (now : ℚ) (info : NodeInfo)
    (recorded : nodeId ∈ registry.nodesInfoId) :
    nodeId ∈ (registry.record now info).nodesInfoId := by
  rcases Dict.mem_iff_lookup.1 recorded with ⟨version, found⟩
  have after := Registry.lookupId_record now info recorded
  split at after
  next => exact Dict.mem_of_lookup after
  next => exact Dict.mem_of_lookup (after.trans found)

theorem version_of_matches {registry : Registry} {infoId : Int} (counted : 0 ≤ infoId)
    (known : registry.Matches nodeId infoId) :
    registry.nodesInfoId.lookup nodeId = some infoId := by
  rw [Registry.Matches] at known
  cases found : registry.nodesInfoId.lookup nodeId with
  | none =>
      rw [found] at known
      rw [← known] at counted
      cases counted
  | some version =>
      rw [found] at known
      exact congrArg some known

theorem recorded_of_registry {manager : NodesInfoManager η} {registry : Registry}
    (left : manager.registry = registry) (recorded : nodeId ∈ registry.nodesInfoId) :
    nodeId ∈ manager.nodesInfoId := by
  show nodeId ∈ manager.registry.nodesInfoId
  rw [left]
  exact recorded

/-- Whatever description of the node a step delivers is the current one, at some address. -/
theorem infoID_of_delivered {state : Discovery η ω} {event : DiscoveryEvent η}
    {current info : NodeInfo} (brings : state.BringsCurrent current event)
    (delivers : state.delivered event = some info) (node : info.nodeID = current.nodeID) :
    info.infoID = current.infoID := by
  cases event with
  | fetchEnds index result =>
      cases result with
      | value reply =>
          rcases Option.map_eq_some_iff.1 delivers with ⟨request, _, same⟩
          rw [← same] at node ⊢
          have brought : reply = current := brings.2 reply rfl node
          show reply.infoID = current.infoID
          rw [brought]
      | none | raised => cases delivers
  | updateNode given =>
      cases delivers
      exact congrArg NodeInfo.infoID (brings node)
  | _ => cases delivers

variable [DecidableEq η] {call : Call η ω} {state next : Discovery η ω}
  {event : DiscoveryEvent η} {current : NodeInfo}

/-- A request waits until its fetch ends. -/
theorem waits_step {request : HeartbeatMessage × Text} (waits : request ∈ state.pending)
    (stepped : state.step call event = some next) :
    request ∈ next.pending ∨
      ∃ index result, event = .fetchEnds index result ∧ state.pending[index]? = some request := by
  cases stepCase_of_step stepped with
  | fetches => exact Or.inl (List.mem_append_left _ waits)
  | fetchEnds index result message nodeIp waiting =>
      rcases List.getElem?_of_mem waits with ⟨other, found⟩
      by_cases same : other = index
      · right
        exact ⟨index, result, rfl, same ▸ found⟩
      · left
        apply List.mem_eraseIdx_iff_getElem?.2
        exact ⟨other, same, found⟩
  | heard | advance | sweeps | sweepRaises | monitorEnds | cancelMonitor | stopRunning
  | updateNode | removeNode | registerLocalService | registerLocalPublisher
  | registerNodeUpdateHandler | unregisterNodeUpdateHandler => exact Or.inl waits

/-- Only an eviction takes a node out of the registry. -/
theorem recorded_step (wellFormed : state.registry.WellFormed)
    (recorded : state.Recorded nodeId) (kept : ¬ state.Evicts nodeId event)
    (stepped : state.step call event = some next) : next.Recorded nodeId := by
  cases stepCase_of_step stepped with
  | sweeps manager looping running returned =>
      exact recorded_round wellFormed recorded kept (Action.after_of_ok returned)
  | sweepRaises error manager looping running raised =>
      exact recorded_round wellFormed recorded kept (Action.after_of_error raised)
  | removeNode other =>
      show nodeId ∈ ((removeNode other).after state.manager).registry.nodesInfoId
      rw [after_removeNode wellFormed other]
      split
      next =>
        apply AList.mem_erase.2
        exact ⟨fun same => kept same.symm, recorded⟩
      next => exact recorded
  | fetchEnds index result message nodeIp waiting =>
      have left := registry_handleHeartbeatResume call state.now message nodeIp result state.world
      apply recorded_of_registry left
      cases result with
      | value info => exact mem_record state.now _ recorded
      | none | raised => exact recorded
  | updateNode info =>
      apply recorded_of_registry (registry_updateNode call state.now info state.world)
      exact mem_record state.now info recorded
  | registerLocalService serviceName port =>
      apply recorded_of_registry (registry_registerLocalService serviceName port state.manager)
      exact recorded
  | registerLocalPublisher topicName port =>
      apply recorded_of_registry (registry_registerLocalPublisher call topicName port state.world)
      exact recorded
  | unregisterNodeUpdateHandler nodeName handler =>
      have left := registry_unregisterNodeUpdateHandler nodeName handler state.manager
      exact recorded_of_registry left recorded
  | heard | fetches | advance | monitorEnds | cancelMonitor | stopRunning
  | registerNodeUpdateHandler => exact recorded

/-- What arrives is recorded. -/
theorem version_of_delivered {info : NodeInfo} (wellFormed : state.registry.WellFormed)
    (counted : 0 ≤ info.infoID) (stepped : state.step call event = some next)
    (delivers : state.delivered event = some info) :
    next.version info.nodeID = some info.infoID := by
  have recorded := registry_of_delivered wellFormed stepped delivers
  have known : info.nodeID ∈ (state.registry.record state.now info).nodesInfoId := by
    unfold Registry.record
    split
    next same =>
      rw [Registry.hear_nodesInfoId]
      by_contra unknown
      rw [matches_of_unknown unknown] at same
      omega
    next =>
      rw [Registry.hear_nodesInfoId]
      have stored := Registry.lookupId_store info state.registry info.nodeID
      exact Dict.mem_of_lookup (stored ▸ if_pos rfl)
  rw [version, recorded]
  exact Registry.lookupId_record_self known

theorem catchesUp_of_heartbeat {message : HeartbeatMessage} {nodeIp : Text}
    (counted : 0 ≤ current.infoID) (node : message.nodeId = current.nodeID)
    (version : message.infoId = current.infoID)
    (stepped : state.step call (.heartbeat message nodeIp) = some next) :
    next.CatchesUp current := by
  cases stepCase_of_step stepped with
  | heard _ _ known =>
      right
      rw [handleHeartbeatStart_eq_false, node, version] at known
      exact version_of_matches counted known
  | fetches =>
      left
      exact ⟨(message, nodeIp), List.mem_append_right _ List.mem_cons_self, node⟩

/-- A fetch that ends for the node records its version. -/
theorem version_of_fetchEnds {index : Nat} {result : FetchResult}
    {request : HeartbeatMessage × Text} (wellFormed : state.registry.WellFormed)
    (counted : 0 ≤ current.infoID) (waiting : state.pending[index]? = some request)
    (node : request.1.nodeId = current.nodeID)
    (brings : state.BringsCurrent current (.fetchEnds index result))
    (stepped : state.step call (.fetchEnds index result) = some next) :
    next.version current.nodeID = some current.infoID := by
  have brought : result = .value current := brings.1 request waiting node
  have delivers : state.delivered (.fetchEnds index (.value current) : DiscoveryEvent η) =
      some { current with ip := request.2 } := by
    simp only [delivered, waiting, Option.map_some]
  rw [brought] at stepped
  have recorded : next.version { current with ip := request.2 }.nodeID =
      some { current with ip := request.2 }.infoID :=
    version_of_delivered wellFormed counted stepped delivers
  exact recorded

/-- A node keeps catching up. -/
theorem CatchesUp.step (catchesUp : state.CatchesUp current)
    (wellFormed : state.registry.WellFormed) (counted : 0 ≤ current.infoID)
    (brings : state.BringsCurrent current event) (kept : ¬ state.Evicts current.nodeID event)
    (stepped : state.step call event = some next) : next.CatchesUp current := by
  rcases catchesUp with ⟨request, waits, node⟩ | version
  · rcases waits_step waits stepped with still | ⟨index, result, ended, waiting⟩
    · exact Or.inl ⟨request, still, node⟩
    · rw [ended] at brings stepped
      exact Or.inr (version_of_fetchEnds wellFormed counted waiting node brings stepped)
  · right
    have recorded := recorded_step wellFormed (Dict.mem_of_lookup version) kept stepped
    rcases version_step wellFormed stepped recorded with ⟨info, delivers, here, after⟩ | ⟨_, same⟩
    · rw [after, infoID_of_delivered brings delivers here]
    · exact same.trans version

end Discovery

/-! ## Two nodes of a group -/

namespace Network

open Discovery NodesInfoManager

variable {η ω : Type}

/-- The owner registers nothing, and the observer neither evicts it nor learns anything older of
it; the fetches it makes for the owner end with the owner's description. -/
def Quiet (groupName : Text) (observer owner : Nat) (current : NodeInfo) (network : Network η ω)
    (event : NetworkEvent η) : Prop :=
  ∀ acts ∈ network.action groupName event,
    (acts.1 = owner → registers acts.2 = false) ∧
    (acts.1 = observer → ∀ reader ∈ network.members[observer]?,
      reader.discovery.BringsCurrent current acts.2 ∧
        ¬ reader.discovery.Evicts current.nodeID acts.2)

instance (groupName : Text) (observer owner : Nat) (current : NodeInfo) (network : Network η ω)
    (event : NetworkEvent η) : Decidable (network.Quiet groupName observer owner current event) :=
  inferInstanceAs (Decidable (∀ acts ∈ network.action groupName event, _ ∧ _))

/-- The owner has this description of itself, and the observer catches up with it. -/
structure Pursues (observer owner : Nat) (current : NodeInfo) (network : Network η ω) : Prop where
  genuine : network.Genuine
  counted : 0 ≤ current.infoID
  owner : ∃ writer, network.members[owner]? = some writer ∧ writer.info = current
  observer : ∃ reader, network.members[observer]? = some reader ∧
    reader.discovery.CatchesUp current

/-- What is recorded under the owner's version is what the owner advertises. -/
theorem Genuine.stored_of_version {network : Network η ω} (genuine : network.Genuine)
    {writer reader : Member η ω}
    (listedWriter : writer ∈ network.members) (listedReader : reader ∈ network.members)
    (version : reader.discovery.version writer.info.nodeID = some writer.info.infoID) :
    ∃ info, reader.discovery.registry.nodesInfo.lookup writer.info.nodeID = some info ∧
      info.infoID = writer.info.infoID ∧ info.advertised = writer.info.advertised := by
  rcases List.getElem?_of_mem listedReader with ⟨index, found⟩
  have wellFormed := genuine.wellFormed index reader found
  have known := (wellFormed.sameKeys writer.info.nodeID).2 (Dict.mem_of_lookup version)
  rcases Dict.mem_iff_lookup.1 known with ⟨info, stored⟩
  have same : info.infoID = writer.info.infoID :=
    Option.some.inj ((wellFormed.versioned _ info stored).symm.trans version)
  rcases genuine.past_of_owner listedReader stored with ⟨other, listedOther, node, pastOf, _⟩
  cases genuine.owner_eq listedOther listedWriter node
  exact ⟨info, stored, same, pastOf.current.1 same⟩

variable [DecidableEq η] {call : Call η ω} {groupName : Text} {outside : ω}
  {network next : Network η ω} {event : NetworkEvent η} {observer owner : Nat}
  {current : NodeInfo}

theorem info_step_of_quiet (genuine : network.Genuine) {writer : Member η ω}
    (found : network.members[owner]? = some writer)
    (quiet : network.Quiet groupName observer owner current event)
    (stepped : network.step call groupName outside event = some next) :
    ∃ later, next.members[owner]? = some later ∧ later.info = writer.info := by
  rcases member_step found stepped with ⟨later, after, ⟨own, acts, memberStepped⟩ | ⟨_, same⟩⟩
  · have silent := (quiet _ acts).1 rfl
    have kept := localNodeInfo_step (genuine.wellFormed owner writer found) silent memberStepped
    exact ⟨later, after, kept⟩
  · refine ⟨later, after, ?_⟩
    rw [Member.info, Member.info, Member.manager, Member.manager, same]

theorem Pursues.step (pursues : network.Pursues observer owner current)
    (quiet : network.Quiet groupName observer owner current event)
    (stepped : network.step call groupName outside event = some next) :
    next.Pursues observer owner current where
  genuine := pursues.genuine.step stepped
  counted := pursues.counted
  owner := by
    rcases pursues.owner with ⟨writer, found, same⟩
    rcases info_step_of_quiet pursues.genuine found quiet stepped with ⟨later, after, kept⟩
    exact ⟨later, after, kept.trans same⟩
  observer := by
    rcases pursues.observer with ⟨reader, found, catchesUp⟩
    rcases member_step found stepped with ⟨later, after, ⟨own, acts, memberStepped⟩ | ⟨_, same⟩⟩
    · rcases (quiet _ acts).2 rfl reader found with ⟨brings, kept⟩
      refine ⟨later, after, ?_⟩
      exact catchesUp.step (pursues.genuine.wellFormed observer reader found) pursues.counted
        brings kept memberStepped
    · refine ⟨later, after, ?_⟩
      rw [same]
      exact catchesUp

/-- A heartbeat with the current version of the owner starts the pursuit. -/
theorem pursues_of_heartbeat (genuine : network.Genuine) {writer reader : Member η ω}
    (foundWriter : network.members[owner]? = some writer)
    (foundReader : network.members[observer]? = some reader) {message : HeartbeatMessage}
    {nodeIp : Text}
    (accepts : network.action groupName event = some (observer, .heartbeat message nodeIp))
    (node : message.nodeId = writer.info.nodeID) (version : message.infoId = writer.info.infoID)
    (quiet : network.Quiet groupName observer owner writer.info event)
    (stepped : network.step call groupName outside event = some next) :
    next.Pursues observer owner writer.info where
  genuine := genuine.step stepped
  counted := genuine.counted writer (List.mem_of_getElem? foundWriter)
  owner := info_step_of_quiet genuine foundWriter quiet stepped
  observer := by
    have counted := genuine.counted writer (List.mem_of_getElem? foundWriter)
    rcases member_step foundReader stepped with
      ⟨later, after, ⟨own, acts, memberStepped⟩ | ⟨still, _⟩⟩
    · cases accepts.symm.trans acts
      exact ⟨later, after, catchesUp_of_heartbeat counted node version memberStepped⟩
    · exact absurd accepts (still _)

deriving instance DecidableEq for DiscoveryEvent

/-- Two nodes, and a heartbeat of the first one on its way. -/
def greetingRun : List (NetworkEvent Empty) :=
  [.join "a" "192.168.1.10" "123e4567-e89b-12d3-a456-426614174000" 7000 (0, 1, 0) 0,
    .join "b" "192.168.1.11" "123e4567-e89b-12d3-a456-426614174001" 7001 (0, 1, 0) 0,
    .multicast 0]

/-- The second node accepts it, and its fetch is answered. -/
def greetingRest : List (NetworkEvent Empty) :=
  [.receive 1 0, .answer 0, .fetchReturns 1 0 0]

theorem greeting_quiet :
    ∃ network, (machine noHandlers "zlc_default_group_name" ()).exec greetingRun = some network ∧
      ∃ writer ∈ network.members[0]?, ∃ reader ∈ network.members[1]?,
        network.action "zlc_default_group_name" (.receive 1 0) =
          some (1, .heartbeat (writer.worker "zlc_default_group_name").heartbeat writer.info.ip) ∧
        (machine noHandlers "zlc_default_group_name" ()).StepsFrom
          (Quiet "zlc_default_group_name" 1 0 writer.info) network greetingRest := by
  have ran : ((machine noHandlers "zlc_default_group_name" ()).exec greetingRun).any
      (fun network => ∃ writer ∈ network.members[0]?, ∃ reader ∈ network.members[1]?,
        network.action "zlc_default_group_name" (.receive 1 0) =
          some (1, .heartbeat (writer.worker "zlc_default_group_name").heartbeat writer.info.ip) ∧
        (machine noHandlers "zlc_default_group_name" ()).StepsFrom
          (Quiet "zlc_default_group_name" 1 0 writer.info) network greetingRest) = true := by
    decide +kernel
  rcases (Option.any_eq_true _ _).1 ran with ⟨network, run, holds⟩
  exact ⟨network, run, of_decide_eq_true holds⟩

end Network

end Pyzlc
