import Pyzlc.Nodes.Registry

/-!
# What each method of the manager leaves behind

One lemma for each method, for every handler and every way the method ends.  Handlers
run only after the registry has been written and reach nothing but the dictionary of
events, so the registry a method leaves is a function of the one it found.
-/

namespace Pyzlc

open Foundation

namespace NodesInfoManager

variable {η ω : Type}

/-- The dictionaries keyed by node identifier. -/
def registry (manager : NodesInfoManager η) : Registry where
  nodesInfo := manager.nodesInfo
  nodesInfoId := manager.nodesInfoId
  nodesHeartbeat := manager.nodesHeartbeat

theorem checkInfo_eq_true {manager : NodesInfoManager η} {nodeId : HashIdentifier}
    {infoId : Int} :
    manager.checkInfo nodeId infoId = true ↔ manager.registry.Matches nodeId infoId := by
  simp [checkInfo, Registry.Matches, registry]

theorem registry_recordUpdate (now : ℚ) (info : NodeInfo) (manager : NodesInfoManager η) :
    (recordUpdate now info manager).registry = manager.registry.record now info := by
  unfold recordUpdate Registry.record
  by_cases same : manager.checkInfo info.nodeID info.infoID = true
  · rw [if_pos same, if_pos (checkInfo_eq_true.1 same)]
    rfl
  · rw [if_neg same, if_neg (mt checkInfo_eq_true.2 same)]
    rfl

/-! ## Emission -/

/-- The manager of one world is that of another up to its events. -/
def EventsOnly (before after : World η ω) : Prop :=
  after.1 = { before.1 with nodeUpdateEventDict := after.1.nodeUpdateEventDict }

theorem eventsOnly_refl (world : World η ω) : EventsOnly world world := rfl

theorem eventsOnly_trans (first second third : World η ω)
    (left : EventsOnly first second) (right : EventsOnly second third) :
    EventsOnly first third := by
  unfold EventsOnly at *
  rw [right, left]

theorem EventsOnly.registry {before after : World η ω} (same : EventsOnly before after) :
    after.1.registry = before.1.registry := by
  rw [same]
  rfl

theorem EventsOnly.localNodeInfo {before after : World η ω} (same : EventsOnly before after) :
    after.1.localNodeInfo = before.1.localNodeInfo := by
  rw [same]

theorem guarantees_onHandlers (action : Action PyError (Dict Text (Event η) × ω) Unit) :
    Action.Guarantees EventsOnly (onHandlers action) := by
  intro world
  rw [onHandlers, Action.after_zoom]
  rfl

theorem guarantees_emitUpdate (call : Call η ω) (key : Text) (info : NodeInfo) :
    Action.Guarantees EventsOnly (emitUpdate call key info) := by
  apply Action.guarantees_bind eventsOnly_trans
  · exact Action.guarantees_get eventsOnly_refl
  · intro world
    cases world.1.nodeUpdateEventDict.lookup key with
    | none => exact Action.guarantees_throw eventsOnly_refl _
    | some event =>
        exact Event.guarantees_emit eventsOnly_refl eventsOnly_trans
          (fun handler arg => guarantees_onHandlers (call handler arg)) event info

theorem run_onManager_modify (update : NodesInfoManager η → NodesInfoManager η)
    (world : World η ω) :
    (onManager (modify update)).run world = .ok ⟨⟩ (update world.1, world.2) := rfl

/-! ## Updates -/

/-- What `update_node` does to the manager: the record, then only events. -/
theorem after_updateNode (call : Call η ω) (now : ℚ) (info : NodeInfo) (world : World η ω) :
    EventsOnly (recordUpdate now info world.1, world.2)
      ((updateNode call now info).after world) := by
  unfold updateNode
  rw [Action.after_bind_of_ok (run_onManager_modify _ world)]
  apply Action.guarantees_bind eventsOnly_trans
  · exact guarantees_emitUpdate call "*" info.bindSockets
  · intro _
    apply Action.guarantees_bind eventsOnly_trans
    · exact Action.guarantees_get eventsOnly_refl
    · intro current
      split
      next => exact guarantees_emitUpdate call info.name info.bindSockets
      next => exact Action.guarantees_pure eventsOnly_refl _

theorem registry_updateNode (call : Call η ω) (now : ℚ) (info : NodeInfo) (world : World η ω) :
    ((updateNode call now info).after world).1.registry = world.1.registry.record now info := by
  rw [(after_updateNode call now info world).registry]
  exact registry_recordUpdate now info world.1

/-- How the continuation of a heartbeat changes the registry, by the fetch's outcome. -/
theorem registry_handleHeartbeatResume (call : Call η ω) (now : ℚ)
    (message : HeartbeatMessage) (nodeIp : Text) (result : FetchResult) (world : World η ω) :
    ((handleHeartbeatResume call now message nodeIp result).after world).1.registry =
      match result with
      | .value info => world.1.registry.record now { info with ip := nodeIp }
      | _ => world.1.registry := by
  cases result with
  | raised => rfl
  | none => rfl
  | value info =>
      have updated := registry_updateNode call now { info with ip := nodeIp } world
      unfold handleHeartbeatResume
      cases ran : (updateNode call now { info with ip := nodeIp }).run world with
      | ok value next =>
          rw [Action.after_of_ok ran] at updated
          rw [Action.after_bind_of_ok ran]
          exact updated
      | error error next =>
          rw [Action.after_of_error ran] at updated
          rw [Action.after_of_error (Action.bind_of_error ran), updated]

/-! ## Local registration -/

theorem after_registerLocalPublisher (call : Call η ω) (topicName : Text) (port : Int)
    (world : World η ω) :
    EventsOnly (bumpInfoId (appendLocalTopic topicName port world.1), world.2)
      ((registerLocalPublisher call topicName port).after world) := by
  unfold registerLocalPublisher
  rw [Action.after_bind_of_ok (run_onManager_modify _ world),
    Action.after_bind_of_ok (run_onManager_modify _ _)]
  apply Action.guarantees_bind eventsOnly_trans
  · exact Action.guarantees_get eventsOnly_refl
  · intro current
    exact guarantees_emitUpdate call "*" current.1.localNodeInfo

theorem registry_registerLocalPublisher (call : Call η ω) (topicName : Text) (port : Int)
    (world : World η ω) :
    ((registerLocalPublisher call topicName port).after world).1.registry = world.1.registry :=
  (after_registerLocalPublisher call topicName port world).registry

/-- `register_local_service` appends and bumps, or refuses and leaves everything. -/
theorem after_registerLocalService (serviceName : Text) (port : Int)
    (manager : NodesInfoManager η) :
    (registerLocalService serviceName port).after manager =
      if manager.checkLocalService serviceName = true ∨
          (manager.getServiceInfo serviceName).isSome = true then
        manager
      else bumpInfoId (appendLocalService serviceName port manager) := by
  unfold registerLocalService
  rw [Action.after_bind_of_ok (Action.run_get manager)]
  cases taken : manager.checkLocalService serviceName with
  | true => rfl
  | false =>
      cases found : (manager.getServiceInfo serviceName).isSome with
      | true => rfl
      | false => rfl

theorem registry_registerLocalService (serviceName : Text) (port : Int)
    (manager : NodesInfoManager η) :
    ((registerLocalService serviceName port).after manager).registry = manager.registry := by
  rw [after_registerLocalService]
  split <;> rfl

theorem registry_unregisterNodeUpdateHandler [DecidableEq η] (nodeName : Text) (handler : η)
    (manager : NodesInfoManager η) :
    (unregisterNodeUpdateHandler nodeName handler manager).registry = manager.registry := by
  unfold unregisterNodeUpdateHandler
  split <;> rfl

/-! ## Removal -/

theorem popKey_of_mem {ν : Type} {dict : Dict Text ν} {key : Text} (present : key ∈ dict) :
    (popKey key).run dict = .ok ⟨⟩ (AList.erase key dict) := by
  unfold popKey
  rw [Action.bind_of_ok (Action.run_get dict), if_pos present]
  rfl

theorem popKey_of_not_mem {ν : Type} {dict : Dict Text ν} {key : Text} (absent : key ∉ dict) :
    (popKey key).run dict = .error (.keyError key) dict := by
  unfold popKey
  rw [Action.bind_of_ok (Action.run_get dict), if_neg absent]
  rfl

/-- A manager with a node dropped from its registry. -/
def dropNode (manager : NodesInfoManager η) (nodeId : HashIdentifier) : NodesInfoManager η :=
  { manager with
    nodesInfo := AList.erase nodeId manager.nodesInfo
    nodesInfoId := AList.erase nodeId manager.nodesInfoId
    nodesHeartbeat := AList.erase nodeId manager.nodesHeartbeat }

/-- `remove_node` of a node known to a well-formed registry drops it everywhere. -/
theorem removeNode_of_known {manager : NodesInfoManager η}
    (wellFormed : manager.registry.WellFormed) {nodeId : HashIdentifier}
    (known : nodeId ∈ manager.nodesInfo) :
    (removeNode nodeId).run manager = .ok ⟨⟩ (manager.dropNode nodeId) := by
  have versioned : nodeId ∈ manager.nodesInfoId := (wellFormed.sameKeys nodeId).1 known
  have heard : nodeId ∈ manager.nodesHeartbeat := wellFormed.heard nodeId known
  apply Eq.trans
  · apply Action.bind_of_ok
    exact Action.run_zoom_of_ok (popKey_of_mem known)
  apply Eq.trans
  · apply Action.bind_of_ok
    exact Action.run_zoom_of_ok (popKey_of_mem versioned)
  exact Action.run_zoom_of_ok (popKey_of_mem heard)

/-- `remove_node` of an unknown node raises before it has changed anything. -/
theorem removeNode_of_unknown {manager : NodesInfoManager η} {nodeId : HashIdentifier}
    (unknown : nodeId ∉ manager.nodesInfo) :
    (removeNode nodeId).run manager = .error (.keyError nodeId) manager := by
  apply Action.bind_of_error
  exact Action.run_zoom_of_error (popKey_of_not_mem unknown)

/-- `remove_node` of any node of a well-formed registry: dropped if it is known. -/
theorem after_removeNode {manager : NodesInfoManager η}
    (wellFormed : manager.registry.WellFormed) (nodeId : HashIdentifier) :
    (removeNode nodeId).after manager =
      if nodeId ∈ manager.nodesInfo then manager.dropNode nodeId else manager := by
  split
  next known => exact Action.after_of_ok (removeNode_of_known wellFormed known)
  next unknown => exact Action.after_of_error (removeNode_of_unknown unknown)

/-! ## The sweep -/

/-- The last heartbeat recorded for a node is more than three seconds old. -/
def Stale (now : ℚ) (manager : NodesInfoManager η) (nodeId : HashIdentifier) : Prop :=
  ∃ lastHeartbeat, manager.nodesHeartbeat.lookup nodeId = some lastHeartbeat ∧
    now - lastHeartbeat > 3

/-- The nodes a complete scan reports. -/
def staleNodes (now : ℚ) (manager : NodesInfoManager η) : List HashIdentifier :=
  (manager.nodesHeartbeat.entries.filter fun entry => now - entry.2 > 3).map fun entry => entry.1

theorem mem_staleNodes {now : ℚ} {manager : NodesInfoManager η} {nodeId : HashIdentifier} :
    nodeId ∈ staleNodes now manager ↔ Stale now manager nodeId := by
  simp only [staleNodes, List.mem_map, List.mem_filter, decide_eq_true_eq]
  constructor
  · intro found
    rcases found with ⟨⟨_, lastHeartbeat⟩, ⟨member, old⟩, rfl⟩
    exact ⟨lastHeartbeat, Dict.mem_entries_iff.1 member, old⟩
  · intro stale
    rcases stale with ⟨lastHeartbeat, found, old⟩
    exact ⟨⟨nodeId, lastHeartbeat⟩, ⟨Dict.mem_entries_iff.2 found, old⟩, rfl⟩

theorem nodup_staleNodes (now : ℚ) (manager : NodesInfoManager η) :
    (staleNodes now manager).Nodup := by
  have sublist := (List.filter_sublist
    (p := fun entry : Sigma fun _ : HashIdentifier => ℚ => decide (now - entry.2 > 3))
    (l := manager.nodesHeartbeat.entries)).map fun entry => entry.1
  exact sublist.nodup manager.nodesHeartbeat.nodupKeys

/-- The scan succeeds when every stale node has a description to name it by. -/
theorem scanHeartbeats_eq_ok (now : ℚ) {nodesInfo : Dict HashIdentifier NodeInfo}
    {entries : List (Sigma fun _ : HashIdentifier => ℚ)}
    (described : ∀ entry ∈ entries, now - entry.2 > 3 → entry.1 ∈ nodesInfo) :
    scanHeartbeats now nodesInfo entries =
      .ok ((entries.filter fun entry => now - entry.2 > 3).map fun entry => entry.1) := by
  induction entries with
  | nil => rfl
  | cons entry rest ih =>
      have tail := ih fun other member => described other (List.mem_cons_of_mem _ member)
      cases entry with
      | mk nodeId lastHeartbeat =>
          rw [scanHeartbeats]
          split
          next old =>
            have known : nodeId ∈ nodesInfo := described _ List.mem_cons_self old
            rcases Dict.mem_iff_lookup.1 known with ⟨info, found⟩
            rw [found, tail, List.filter_cons_of_pos (by simpa using old)]
            rfl
          next recent =>
            rw [tail, List.filter_cons_of_neg (by simpa using recent)]

/-- The scan fails at a stale node without a description. -/
theorem scanHeartbeats_eq_error (now : ℚ) {nodesInfo : Dict HashIdentifier NodeInfo}
    {entries : List (Sigma fun _ : HashIdentifier => ℚ)}
    {entry : Sigma fun _ : HashIdentifier => ℚ} (member : entry ∈ entries)
    (old : now - entry.2 > 3) (undescribed : entry.1 ∉ nodesInfo) :
    ∃ nodeId, scanHeartbeats now nodesInfo entries = .error (.keyError nodeId) := by
  induction entries with
  | nil => cases member
  | cons head rest ih =>
      cases head with
      | mk nodeId lastHeartbeat =>
          rw [scanHeartbeats]
          split
          next =>
            cases found : nodesInfo.lookup nodeId with
            | none => exact ⟨nodeId, rfl⟩
            | some info =>
                cases member with
                | head => exact absurd (Dict.mem_of_lookup found) undescribed
                | tail _ later =>
                    rcases ih later with ⟨key, failed⟩
                    exact ⟨key, by rw [failed]; rfl⟩
          next recent =>
            cases member with
            | head => exact absurd old recent
            | tail _ later => exact ih later

theorem registry_foldl_dropNode (nodeIds : List HashIdentifier) (manager : NodesInfoManager η) :
    (nodeIds.foldl dropNode manager).registry = manager.registry.dropAll nodeIds := by
  unfold Registry.dropAll
  induction nodeIds generalizing manager with
  | nil => rfl
  | cons nodeId rest ih => exact ih (manager.dropNode nodeId)

/-- Removing distinct known nodes of a well-formed registry one by one never raises. -/
theorem forM_removeNode {manager : NodesInfoManager η} {nodeIds : List HashIdentifier}
    (wellFormed : manager.registry.WellFormed) (distinct : nodeIds.Nodup)
    (known : ∀ nodeId ∈ nodeIds, nodeId ∈ manager.nodesInfo) :
    (forM nodeIds removeNode : Action PyError (NodesInfoManager η) Unit).run manager =
      .ok ⟨⟩ (nodeIds.foldl dropNode manager) := by
  apply Action.forM_eq_ok fun rest state =>
    state.registry.WellFormed ∧ rest.Nodup ∧ ∀ nodeId ∈ rest, nodeId ∈ state.nodesInfo
  · intro nodeId rest state holds
    rcases holds with ⟨stateFormed, restDistinct, restKnown⟩
    rcases List.nodup_cons.1 restDistinct with ⟨fresh, tailDistinct⟩
    constructor
    · exact removeNode_of_known stateFormed (restKnown nodeId List.mem_cons_self)
    · constructor
      · exact stateFormed.drop nodeId
      · constructor
        · exact tailDistinct
        · intro other member
          apply AList.mem_erase.2
          constructor
          · intro same
            exact fresh (same ▸ member)
          · exact restKnown other (List.mem_cons_of_mem _ member)
  · exact ⟨wellFormed, distinct, known⟩

/-- A round of the monitor over a well-formed registry in which every stale node has a
description drops exactly the stale nodes. -/
theorem checkHeartbeatRound_of_described {now : ℚ} {manager : NodesInfoManager η}
    (wellFormed : manager.registry.WellFormed)
    (described : ∀ nodeId, Stale now manager nodeId → nodeId ∈ manager.nodesInfo) :
    (checkHeartbeatRound now).run manager =
      .ok ⟨⟩ ((staleNodes now manager).foldl dropNode manager) := by
  have scanned : scanHeartbeats now manager.nodesInfo manager.nodesHeartbeat.entries =
      .ok (staleNodes now manager) := by
    apply scanHeartbeats_eq_ok
    intro entry member old
    exact described entry.1 ⟨entry.2, Dict.mem_entries_iff.1 member, old⟩
  unfold checkHeartbeatRound
  rw [Action.bind_of_ok (Action.run_get manager), scanned]
  apply forM_removeNode wellFormed (nodup_staleNodes now manager)
  intro nodeId member
  exact described nodeId (mem_staleNodes.1 member)

/-- A stale node without a description makes the round raise before it removes any. -/
theorem checkHeartbeatRound_of_undescribed {now : ℚ} {manager : NodesInfoManager η}
    {nodeId : HashIdentifier} (stale : Stale now manager nodeId)
    (undescribed : nodeId ∉ manager.nodesInfo) :
    ∃ key, (checkHeartbeatRound now).run manager = .error (.keyError key) manager := by
  rcases stale with ⟨lastHeartbeat, found, old⟩
  have member := Dict.mem_entries_iff.2 found
  rcases scanHeartbeats_eq_error now member old undescribed with ⟨key, failed⟩
  refine ⟨key, ?_⟩
  unfold checkHeartbeatRound
  rw [Action.bind_of_ok (Action.run_get manager), failed]
  rfl

/-- However a round over a well-formed registry ends, it leaves the registry without some
of its nodes and everything else as it was. -/
theorem after_checkHeartbeatRound (now : ℚ) {manager : NodesInfoManager η}
    (wellFormed : manager.registry.WellFormed) :
    ∃ nodeIds : List HashIdentifier,
      (checkHeartbeatRound now).after manager = nodeIds.foldl dropNode manager := by
  by_cases described : ∀ nodeId, Stale now manager nodeId → nodeId ∈ manager.nodesInfo
  · exact ⟨_, Action.after_of_ok (checkHeartbeatRound_of_described wellFormed described)⟩
  · rcases not_forall.1 described with ⟨nodeId, undescribed⟩
    rcases Classical.not_imp.1 undescribed with ⟨stale, missing⟩
    rcases checkHeartbeatRound_of_undescribed stale missing with ⟨key, failed⟩
    exact ⟨[], Action.after_of_error failed⟩

end NodesInfoManager

end Pyzlc
