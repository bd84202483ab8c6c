import Pyzlc.Foundation.Simulation
import Pyzlc.Nodes.TypedReplies

/-!
# The registry of objects refines the registry of descriptions

As long as every fetch brings `None`, the dictionary of a description or an exception, the registry
over objects of any shape goes through the same states as the registry of descriptions, whatever
else happens: heartbeats, rounds of the monitor, removals, registrations and handlers.
-/

namespace Pyzlc

open Foundation
open Foundation.Action (Mirrors mapState)

namespace Untyped

open PyObject

variable {η ω φ μ ν : Type} {equality : PyEquality φ}

/-! ## Removal -/

theorem drop_ofEntries (plain : Plain equality) (image : ν → μ) (key : Text)
    (entries : List (Sigma fun _ : Text => ν)) :
    Entries.drop (equality.sameKey (.str key)) (ofEntries image entries) =
      ofEntries image (entries.kerase key) := by
  rw [Entries.drop, ofEntries, List.eraseP_map, List.kerase]
  have tests : ((fun entry : PyObject φ × μ => equality.sameKey (.str key) entry.1) ∘
      fun entry : Sigma fun _ : Text => ν => (PyObject.str entry.1, image entry.2)) =
      fun entry => decide (key = entry.1) := by
    funext entry
    exact plain.text key entry.1
  rw [tests]
  rfl

namespace NodesInfoManager

theorem mirrors_popKey (plain : Plain equality) (image : ν → μ) (key : Text) :
    Mirrors (fun dict : Dict Text ν => ofEntries image dict.entries)
      (popKey equality (.str key)) (Pyzlc.popKey key) := by
  apply Action.mirrors_get
  intro dict
  rw [find_ofEntries plain]
  by_cases present : key ∈ dict
  · rcases Option.isSome_iff_exists.1 (AList.lookup_isSome.2 present) with ⟨value, found⟩
    have inside : dict.entries.dlookup key = some value := found
    rw [inside, if_pos present]
    show EStateM.Result.ok PUnit.unit
      (Entries.drop (equality.sameKey (.str key)) (ofEntries image dict.entries)) = _
    rw [drop_ofEntries plain]
    rfl
  · have outside : dict.entries.dlookup key = none := AList.lookup_eq_none.2 present
    rw [outside, if_neg present]
    rfl

/-- A stored description has a name. -/
theorem logRemoval_ofTyped (plain : Plain equality) (manager : Pyzlc.NodesInfoManager η)
    (nodeId : HashIdentifier) :
    (ofTyped manager).logRemoval equality (.str nodeId) = .ok () := by
  rw [logRemoval, ofTyped, find_ofEntries plain]
  cases manager.nodesInfo.entries.dlookup nodeId with
  | none => rfl
  | some info => rfl

theorem mirrors_removeNode (plain : Plain equality) (nodeId : HashIdentifier) :
    Mirrors (ofTyped (η := η)) (removeNode equality (.str nodeId))
      (Pyzlc.NodesInfoManager.removeNode nodeId) := by
  have pops : Mirrors (ofTyped (η := η))
      (do
        Action.zoom nodesInfo (fun dict manager => { manager with nodesInfo := dict })
          (popKey equality (.str nodeId))
        Action.zoom nodesInfoId (fun dict manager => { manager with nodesInfoId := dict })
          (popKey equality (.str nodeId))
        Action.zoom nodesHeartbeat (fun dict manager => { manager with nodesHeartbeat := dict })
          (popKey equality (.str nodeId)))
      (Pyzlc.NodesInfoManager.removeNode nodeId) := by
    apply Mirrors.bind
    · exact Action.mirrors_zoom (mirrors_popKey plain ofNodeInfo nodeId) (fun _ => rfl)
        fun _ _ => rfl
    · intro _
      apply Mirrors.bind
      · exact Action.mirrors_zoom (mirrors_popKey plain .int nodeId) (fun _ => rfl) fun _ _ => rfl
      · intro _
        exact Action.mirrors_zoom (mirrors_popKey plain id nodeId) (fun _ => rfl) fun _ _ => rfl
  intro manager
  rw [← pops manager, removeNode, Action.bind_of_ok (Action.run_get _), logRemoval_ofTyped plain]
  rfl

/-! ## The monitor -/

theorem scanHeartbeats_ofTyped (plain : Plain equality) (now : ℚ)
    (nodesInfo : Dict HashIdentifier NodeInfo) (entries : List (Sigma fun _ : Text => ℚ)) :
    scanHeartbeats equality now (ofEntries ofNodeInfo nodesInfo.entries) (ofEntries id entries) =
      (Pyzlc.NodesInfoManager.scanHeartbeats now nodesInfo entries).map (List.map .str) := by
  induction entries with
  | nil => rfl
  | cons entry rest ih =>
      have unfolded : ofEntries (φ := φ) (id : ℚ → ℚ) (entry :: rest) =
          (.str entry.1, entry.2) :: ofEntries id rest := rfl
      rw [unfolded, scanHeartbeats, Pyzlc.NodesInfoManager.scanHeartbeats, find_ofEntries plain]
      by_cases stale : now - entry.2 > 3
      · rw [if_pos stale, if_pos stale]
        have same : nodesInfo.entries.dlookup entry.1 = nodesInfo.lookup entry.1 := rfl
        rw [same]
        cases nodesInfo.lookup entry.1 with
        | none => rfl
        | some info =>
            show (do
              let removedNodes ← scanHeartbeats equality now
                (ofEntries ofNodeInfo nodesInfo.entries) (ofEntries id rest)
              return PyObject.str entry.1 :: removedNodes) = _
            rw [ih]
            cases Pyzlc.NodesInfoManager.scanHeartbeats now nodesInfo rest <;> rfl
      · rw [if_neg stale, if_neg stale]
        exact ih

theorem mirrors_checkHeartbeatRound (plain : Plain equality) (now : ℚ) :
    Mirrors (ofTyped (η := η)) (checkHeartbeatRound equality now)
      (Pyzlc.NodesInfoManager.checkHeartbeatRound now) := by
  apply Action.mirrors_get
  intro manager
  have scanned : scanHeartbeats equality now (ofTyped (φ := φ) manager).nodesInfo
      (ofTyped (φ := φ) manager).nodesHeartbeat = _ :=
    scanHeartbeats_ofTyped plain now manager.nodesInfo manager.nodesHeartbeat.entries
  rw [scanned]
  cases Pyzlc.NodesInfoManager.scanHeartbeats now manager.nodesInfo
      manager.nodesHeartbeat.entries with
  | error error => rfl
  | ok removedNodes =>
      exact Action.mirrors_forM (fun nodeId => mirrors_removeNode plain nodeId) removedNodes
        manager

/-! ## Heartbeats -/

theorem handleHeartbeatStart_ofTyped (plain : Plain equality) (now : ℚ)
    (message : HeartbeatMessage) (manager : Pyzlc.NodesInfoManager η) :
    handleHeartbeatStart equality now message (ofTyped manager) =
      (ofTyped (Pyzlc.NodesInfoManager.handleHeartbeatStart now message manager).1,
        (Pyzlc.NodesInfoManager.handleHeartbeatStart now message manager).2) := by
  have seen : (ofTyped manager).hear equality now (.str message.nodeId) =
      ofTyped (φ := φ) { manager with
        nodesHeartbeat := Dict.set manager.nodesHeartbeat message.nodeId now } := by
    rw [hear, ofTyped, ofTyped]
    simp only
    rw [← put_ofDict plain (id : ℚ → ℚ) message.nodeId now manager.nodesHeartbeat]
    rfl
  rw [handleHeartbeatStart, seen, checkInfo_ofTyped plain]
  rfl

/-- The registry of objects beside what its handlers reach. -/
def ofWorld (world : Pyzlc.NodesInfoManager.World η ω) : World η ω φ :=
  (ofTyped world.1, world.2)

theorem mapWorld_eq (result : EStateM.Result PyError (Pyzlc.NodesInfoManager.World η ω) Unit) :
    mapWorld (φ := φ) result = mapState ofWorld result := by
  cases result <;> rfl

theorem mirrors_onManager {action : Action PyError (NodesInfoManager η φ) Unit}
    {other : Action PyError (Pyzlc.NodesInfoManager η) Unit}
    (inner : Mirrors ofTyped action other) :
    Mirrors (ofWorld (ω := ω)) (onManager action) (Pyzlc.NodesInfoManager.onManager other) :=
  Action.mirrors_zoom inner (fun _ => rfl) fun _ _ => rfl

variable {call : Pyzlc.NodesInfoManager.Call η ω} {objectCall : Call η ω φ}

theorem mirrors_updateNode (plain : Plain equality)
    (same : ∀ handler info, objectCall handler (ofNodeInfo info) = call handler info) (now : ℚ)
    (info : NodeInfo) :
    Mirrors ofWorld (updateNode equality objectCall now (ofNodeInfo info))
      (Pyzlc.NodesInfoManager.updateNode call now info) := by
  intro world
  rw [← mapWorld_eq]
  exact run_updateNode_ofTyped plain same now info world

/-- How a fetch ends, as the registry of objects sees it. -/
def ofFetchResult : Pyzlc.FetchResult → FetchResult φ
  | .value info => .value (ofNodeInfo info)
  | .none => .value .nil
  | .raised => .raised

theorem mirrors_handleHeartbeatResume (plain : Plain equality)
    (same : ∀ handler info, objectCall handler (ofNodeInfo info) = call handler info)
    (now : ℚ) (message : HeartbeatMessage) (nodeIp : Text) (result : Pyzlc.FetchResult) :
    Mirrors ofWorld
      (handleHeartbeatResume equality objectCall now message nodeIp (ofFetchResult result))
      (Pyzlc.NodesInfoManager.handleHeartbeatResume call now message nodeIp result) := by
  cases result with
  | raised => exact mirrors_onManager (Action.mirrors_modify fun _ => rfl)
  | none => exact Action.mirrors_pure _
  | value info =>
      intro world
      have bound : (ofNodeInfo info : PyObject φ).setItem "ip" (.str nodeIp) =
          .ok (ofNodeInfo { info with ip := nodeIp }) := rfl
      have resumed : (handleHeartbeatResume equality objectCall now message nodeIp
          (ofFetchResult (.value info))).run (ofWorld world) = _ :=
        run_resume_dict equality objectCall now _ message nodeIp bound
      rw [resumed, mirrors_updateNode plain same now { info with ip := nodeIp } world]
      show _ = mapState ofWorld ((Pyzlc.NodesInfoManager.updateNode call now
        { info with ip := nodeIp } >>= _).run world)
      rw [Action.run_bind]
      cases (Pyzlc.NodesInfoManager.updateNode call now { info with ip := nodeIp }).run world with
      | error error next => rfl
      | ok value next => rfl

/-! ## Local registration -/

theorem mirrors_registerLocalService (serviceName : Text) (port : Int) :
    Mirrors (ofTyped (η := η) (φ := φ)) (registerLocalService serviceName port)
      (Pyzlc.NodesInfoManager.registerLocalService serviceName port) := by
  apply Action.mirrors_get
  intro manager
  have listed : (ofTyped (φ := φ) manager).checkLocalService serviceName =
      manager.checkLocalService serviceName := rfl
  rw [listed, getServiceInfo_ofTyped]
  cases manager.checkLocalService serviceName with
  | true => rfl
  | false =>
      cases found : manager.getServiceInfo serviceName with
      | some service => rfl
      | none => rfl

theorem mirrors_registerLocalPublisher
    (same : ∀ handler info, objectCall handler (ofNodeInfo info) = call handler info)
    (topicName : Text) (port : Int) :
    Mirrors ofWorld (registerLocalPublisher objectCall topicName port)
      (Pyzlc.NodesInfoManager.registerLocalPublisher call topicName port) := by
  intro world
  let after : Pyzlc.NodesInfoManager.World η ω :=
    ((world.1.appendLocalTopic topicName port).bumpInfoId, world.2)
  have announced := run_onHandlers_ofTyped (φ := φ)
    (emitUpdate objectCall "*" (ofNodeInfo after.1.localNodeInfo)) after
  rw [← run_emitUpdate_typed same] at announced
  rw [← mapWorld_eq]
  exact announced

end NodesInfoManager

/-! ## Runs -/

namespace Discovery

open Untyped.NodesInfoManager

/-- The state of the registry of descriptions, as one of the registry of objects. -/
def ofTyped (state : Pyzlc.Discovery η ω) : Discovery η ω φ where
  world := ofWorld state.world
  now := state.now
  pending := state.pending
  monitor := state.monitor

/-- The same event of both registries. -/
inductive Carried : Pyzlc.DiscoveryEvent η → DiscoveryEvent η φ → Prop where
  | heartbeat (message : HeartbeatMessage) (nodeIp : Text) :
      Carried (.heartbeat message nodeIp) (.heartbeat message nodeIp)
  | fetchEnds (index : Nat) (result : Pyzlc.FetchResult) :
      Carried (.fetchEnds index result) (.fetchEnds index (ofFetchResult result))
  | advance (elapsed : ℚ) : Carried (.advance elapsed) (.advance elapsed)
  | sweep : Carried .sweep .sweep
  | cancelMonitor : Carried .cancelMonitor .cancelMonitor
  | stopRunning : Carried .stopRunning .stopRunning
  | updateNode (info : NodeInfo) : Carried (.updateNode info) (.updateNode info)
  | removeNode (nodeId : HashIdentifier) : Carried (.removeNode nodeId) (.removeNode (.str nodeId))
  | registerLocalService (serviceName : Text) (port : Int) :
      Carried (.registerLocalService serviceName port) (.registerLocalService serviceName port)
  | registerLocalPublisher (topicName : Text) (port : Int) :
      Carried (.registerLocalPublisher topicName port) (.registerLocalPublisher topicName port)
  | registerNodeUpdateHandler (nodeName : Text) (handler : η) :
      Carried (.registerNodeUpdateHandler nodeName handler)
        (.registerNodeUpdateHandler nodeName handler)
  | unregisterNodeUpdateHandler (nodeName : Text) (handler : η) :
      Carried (.unregisterNodeUpdateHandler nodeName handler)
        (.unregisterNodeUpdateHandler nodeName handler)

variable {call : Pyzlc.NodesInfoManager.Call η ω} {objectCall : Call η ω φ}

theorem heartbeat_ofTyped (plain : Plain equality) (message : HeartbeatMessage) (nodeIp : Text)
    (state : Pyzlc.Discovery η ω) :
    (ofTyped state).heartbeat equality message nodeIp =
      ofTyped (φ := φ) (state.heartbeat message nodeIp) := by
  have started : handleHeartbeatStart equality (ofTyped (φ := φ) state).now message
      (ofTyped (φ := φ) state).world.1 = _ :=
    handleHeartbeatStart_ofTyped plain state.now message state.world.1
  rw [heartbeat, started, Pyzlc.Discovery.heartbeat, Pyzlc.Discovery.manager]
  rcases Pyzlc.NodesInfoManager.handleHeartbeatStart state.now message state.world.1 with
    ⟨manager, outdated⟩
  cases outdated <;> rfl

theorem fetchEnds_ofTyped (plain : Plain equality)
    (same : ∀ handler info, objectCall handler (ofNodeInfo info) = call handler info)
    (index : Nat) (result : Pyzlc.FetchResult) (state : Pyzlc.Discovery η ω) :
    (ofTyped state).fetchEnds equality objectCall index (ofFetchResult result) =
      (state.fetchEnds call index result).map ofTyped := by
  rw [fetchEnds, Pyzlc.Discovery.fetchEnds]
  have waiting : (ofTyped (φ := φ) state).pending = state.pending := rfl
  rw [waiting]
  cases state.pending[index]? with
  | none => rfl
  | some request =>
      have resumed := (mirrors_handleHeartbeatResume plain same state.now request.1 request.2
        result).after state.world
      have handled : (handleHeartbeatResume equality objectCall (ofTyped (φ := φ) state).now
          request.1 request.2 (ofFetchResult result)).after (ofTyped (φ := φ) state).world = _ :=
        resumed
      simp only [handled]
      rfl

theorem sweep_ofTyped (plain : Plain equality) (state : Pyzlc.Discovery η ω) :
    (ofTyped state).sweep equality = state.sweep.map (ofTyped (φ := φ)) := by
  have swept : (checkHeartbeatRound equality (ofTyped (φ := φ) state).now).run
      (ofTyped (φ := φ) state).world.1 = _ :=
    mirrors_checkHeartbeatRound plain state.now state.world.1
  have monitor : (ofTyped (φ := φ) state).monitor = state.monitor := rfl
  have running : (ofTyped (φ := φ) state).world.1.running = state.manager.running := rfl
  rw [sweep, Pyzlc.Discovery.sweep, monitor, running, swept, Pyzlc.Discovery.manager]
  cases state.monitor with
  | looping =>
      cases state.world.1.running with
      | false => rfl
      | true =>
          cases (Pyzlc.NodesInfoManager.checkHeartbeatRound state.now).run state.world.1 with
          | ok value manager => rfl
          | error error manager => rfl
  | finished | crashed => rfl

variable [DecidableEq η]

theorem step_ofTyped (plain : Plain equality)
    (same : ∀ handler info, objectCall handler (ofNodeInfo info) = call handler info)
    (state : Pyzlc.Discovery η ω) {event : Pyzlc.DiscoveryEvent η} {action : DiscoveryEvent η φ}
    (carried : Carried event action) :
    (ofTyped state).step equality objectCall action = (state.step call event).map ofTyped := by
  cases carried with
  | heartbeat message nodeIp => exact congrArg some (heartbeat_ofTyped plain message nodeIp state)
  | fetchEnds index result => exact fetchEnds_ofTyped plain same index result state
  | advance elapsed =>
      rw [step, Pyzlc.Discovery.step]
      split <;> rfl
  | sweep => exact sweep_ofTyped plain state
  | cancelMonitor =>
      rw [step, Pyzlc.Discovery.step]
      have monitor : (ofTyped (φ := φ) state).monitor = state.monitor := rfl
      rw [monitor]
      cases state.monitor <;> rfl
  | stopRunning => rfl
  | updateNode info =>
      have updated : (updateNode equality objectCall (ofTyped (φ := φ) state).now
          (ofNodeInfo info)).after (ofTyped (φ := φ) state).world = _ :=
        (mirrors_updateNode plain same state.now info).after state.world
      simp only [step, updated]
      rfl
  | removeNode nodeId =>
      have removed : (removeNode equality (.str nodeId)).after (ofTyped state).world.1 = _ :=
        (mirrors_removeNode plain nodeId).after state.world.1
      simp only [step, removed]
      rfl
  | registerLocalService serviceName port =>
      have registered : (registerLocalService serviceName port).after
          (ofTyped (φ := φ) state).world.1 = _ :=
        (mirrors_registerLocalService serviceName port).after state.world.1
      simp only [step, registered]
      rfl
  | registerLocalPublisher topicName port =>
      have registered : (registerLocalPublisher objectCall topicName port).after
          (ofTyped (φ := φ) state).world = _ :=
        (mirrors_registerLocalPublisher same topicName port).after state.world
      simp only [step, registered]
      rfl
  | registerNodeUpdateHandler nodeName handler => rfl
  | unregisterNodeUpdateHandler nodeName handler =>
      rw [step, Pyzlc.Discovery.step, NodesInfoManager.unregisterNodeUpdateHandler,
        Pyzlc.NodesInfoManager.unregisterNodeUpdateHandler]
      have events : (ofTyped (φ := φ) state).world.1.nodeUpdateEventDict =
          state.manager.nodeUpdateEventDict := rfl
      rw [events]
      cases state.manager.nodeUpdateEventDict.lookup nodeName <;> rfl

/-- The runs of the registry of objects in which every fetch brings `None`, a description or an
exception are those of the registry of descriptions. -/
theorem exec_ofTyped (plain : Plain equality)
    (same : ∀ handler info, objectCall handler (ofNodeInfo info) = call handler info)
    (start : Pyzlc.Discovery η ω) {trace : List (Pyzlc.DiscoveryEvent η)}
    {actions : List (DiscoveryEvent η φ)} (events : List.Forall₂ Carried trace actions) :
    (machine equality objectCall (ofTyped start)).exec actions =
      ((Pyzlc.Discovery.machine call start).exec trace).map ofTyped := by
  have begins : (machine equality objectCall (ofTyped start)).start =
      ofTyped (Pyzlc.Discovery.machine call start).start := rfl
  apply Machine.exec_of_mirrored begins _ events
  intro state event action carried
  exact step_ofTyped plain same state carried

theorem plain_plainEquality : Plain plainEquality where
  text := fun _ _ => rfl
  integer := fun _ _ => rfl

/-- A node is found, described, described again by a direct call, and evicted after four seconds. -/
def fetchingRun : List (Pyzlc.DiscoveryEvent Empty) :=
  [.heartbeat heartbeatOfB "10.0.0.2", .fetchEnds 0 (.value acceptedInfo),
    .updateNode { acceptedInfo with infoID := 2 }, .registerLocalPublisher "view" 5002,
    .advance 4, .sweep]

/-- The same run of the registry of objects. -/
def fetchingActions : List (DiscoveryEvent Empty Empty) :=
  [.heartbeat heartbeatOfB "10.0.0.2", .fetchEnds 0 (.value (ofNodeInfo acceptedInfo)),
    .updateNode { acceptedInfo with infoID := 2 }, .registerLocalPublisher "view" 5002,
    .advance 4, .sweep]

theorem exec_ofTyped_fetchingRun :
    (listener.exec fetchingActions).isSome = true ∧
      listener.exec fetchingActions = ((Pyzlc.Discovery.machine nofun
        (.init "listener" "10.0.0.1" "a" () 0)).exec fetchingRun).map ofTyped := by
  have events : List.Forall₂ Carried fetchingRun fetchingActions :=
    .cons (.heartbeat _ _) (.cons (.fetchEnds 0 (.value acceptedInfo))
      (.cons (.updateNode _) (.cons (.registerLocalPublisher _ _)
        (.cons (.advance 4) (.cons .sweep .nil)))))
  have runs : (listener.exec fetchingActions).isSome = true := by decide +kernel
  exact ⟨runs, exec_ofTyped plain_plainEquality nofun (.init "listener" "10.0.0.1" "a" () 0) events⟩

end Discovery

end Untyped

end Pyzlc
