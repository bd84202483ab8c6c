import Pyzlc.Foundation.Machine
import Pyzlc.Nodes.ManagerSpec

/-!
# Runs of the discovery of one node

One event for everything that can happen to a manager between two suspension points
of its event loop: a heartbeat arrives, a fetch ends, the monitor takes a round, a
caller uses the manager.  Any number of fetches may be pending, and they end in any
order, so a run of the machine is an interleaving of the coroutines.
-/

namespace Pyzlc

open Foundation

/-- The coroutine `check_heartbeat`: at the head of its loop, ended, or left by an
exception. -/
inductive Monitor where
  | looping
  | finished
  | crashed (error : PyError)
  deriving DecidableEq

/-- How an exception out of a round ends the coroutine: cancellation is swallowed. -/
def Monitor.afterRaise : PyError → Monitor
  | .cancelledError => .finished
  | error => .crashed error

/-- A manager, its clock, the fetches its heartbeats wait for, and its monitor. -/
structure Discovery (η ω : Type) where
  world : NodesInfoManager.World η ω
  now : ℚ
  pending : List (HeartbeatMessage × Text)
  monitor : Monitor

inductive DiscoveryEvent (η : Type) where
  | heartbeat (message : HeartbeatMessage) (nodeIp : Text)
  | fetchEnds (index : Nat) (result : FetchResult)
  | advance (elapsed : ℚ)
  | sweep
  | cancelMonitor
  | stopRunning
  | updateNode (info : NodeInfo)
  | removeNode (nodeId : HashIdentifier)
  | registerLocalService (serviceName : Text) (port : Int)
  | registerLocalPublisher (topicName : Text) (port : Int)
  | registerNodeUpdateHandler (nodeName : Text) (handler : η)
  | unregisterNodeUpdateHandler (nodeName : Text) (handler : η)

namespace Discovery

open NodesInfoManager

variable {η ω : Type}

def manager (state : Discovery η ω) : NodesInfoManager η := state.world.1

def registry (state : Discovery η ω) : Registry := state.manager.registry

/-- The same state around another manager. -/
def withManager (state : Discovery η ω) (manager : NodesInfoManager η) : Discovery η ω :=
  { state with world := (manager, state.world.2) }

/-- A heartbeat arrives; a version it does not know yet is fetched. -/
def heartbeat (message : HeartbeatMessage) (nodeIp : Text) (state : Discovery η ω) :
    Discovery η ω :=
  match handleHeartbeatStart state.now message state.manager with
  | (manager, true) =>
      { state.withManager manager with pending := state.pending ++ [(message, nodeIp)] }
  | (manager, false) => state.withManager manager

/-- A pending fetch ends. -/
def fetchEnds (call : Call η ω) (index : Nat) (result : FetchResult) (state : Discovery η ω) :
    Option (Discovery η ω) :=
  match state.pending[index]? with
  | some (message, nodeIp) =>
      some { state with
        world := (handleHeartbeatResume call state.now message nodeIp result).after state.world
        pending := state.pending.eraseIdx index }
  | none => none

/-- The monitor takes a round, if it still runs. -/
def sweep (state : Discovery η ω) : Option (Discovery η ω) :=
  match state.monitor with
  | .looping =>
      if state.manager.running then
        match (checkHeartbeatRound state.now).run state.manager with
        | .ok _ manager => some (state.withManager manager)
        | .error error manager =>
            some { state.withManager manager with monitor := Monitor.afterRaise error }
      else
        some { state with monitor := .finished }
  | _ => none

def step [DecidableEq η] (call : Call η ω) (state : Discovery η ω) :
    DiscoveryEvent η → Option (Discovery η ω)
  | .heartbeat message nodeIp => some (state.heartbeat message nodeIp)
  | .fetchEnds index result => state.fetchEnds call index result
  | .advance elapsed => if 0 ≤ elapsed then some { state with now := state.now + elapsed } else none
  | .sweep => state.sweep
  | .cancelMonitor =>
      match state.monitor with
      | .looping => some { state with monitor := .finished }
      | _ => none
  | .stopRunning => some (state.withManager { state.manager with running := false })
  | .updateNode info =>
      some { state with world := (updateNode call state.now info).after state.world }
  | .removeNode nodeId => some (state.withManager ((removeNode nodeId).after state.manager))
  | .registerLocalService serviceName port =>
      some (state.withManager ((registerLocalService serviceName port).after state.manager))
  | .registerLocalPublisher topicName port =>
      some { state with world := (registerLocalPublisher call topicName port).after state.world }
  | .registerNodeUpdateHandler nodeName handler =>
      some (state.withManager (registerNodeUpdateHandler nodeName handler state.manager))
  | .unregisterNodeUpdateHandler nodeName handler =>
      some (state.withManager (unregisterNodeUpdateHandler nodeName handler state.manager))

/-- A node right after construction, its monitor started. -/
def init (localName localIp nodeID : Text) (outside : ω) (now : ℚ) : Discovery η ω where
  world := (NodesInfoManager.init localName localIp nodeID, outside)
  now := now
  pending := []
  monitor := .looping

/-- Discovery from a start state. -/
def machine [DecidableEq η] (call : Call η ω) (start : Discovery η ω) :
    Machine (Discovery η ω) (DiscoveryEvent η) where
  start := start
  step := step call

/-! ## What a step does -/

/-- What each event does, where it can happen. -/
inductive StepCase [DecidableEq η] (call : Call η ω) (state : Discovery η ω) :
    DiscoveryEvent η → Discovery η ω → Prop where
  | heard (message : HeartbeatMessage) (nodeIp : Text)
      (current : (handleHeartbeatStart state.now message state.manager).2 = false) :
      StepCase call state (.heartbeat message nodeIp)
        (state.withManager (handleHeartbeatStart state.now message state.manager).1)
  | fetches (message : HeartbeatMessage) (nodeIp : Text)
      (outdated : (handleHeartbeatStart state.now message state.manager).2 = true) :
      StepCase call state (.heartbeat message nodeIp)
        { state.withManager (handleHeartbeatStart state.now message state.manager).1 with
          pending := state.pending ++ [(message, nodeIp)] }
  | fetchEnds (index : Nat) (result : FetchResult) (message : HeartbeatMessage) (nodeIp : Text)
      (waiting : state.pending[index]? = some (message, nodeIp)) :
      StepCase call state (.fetchEnds index result) { state with
        world := (handleHeartbeatResume call state.now message nodeIp result).after state.world
        pending := state.pending.eraseIdx index }
  | advance (elapsed : ℚ) (forward : 0 ≤ elapsed) :
      StepCase call state (.advance elapsed) { state with now := state.now + elapsed }
  | sweeps (manager : NodesInfoManager η) (looping : state.monitor = .looping)
      (running : state.manager.running = true)
      (returned : (checkHeartbeatRound state.now).run state.manager = .ok ⟨⟩ manager) :
      StepCase call state .sweep (state.withManager manager)
  | sweepRaises (error : PyError) (manager : NodesInfoManager η)
      (looping : state.monitor = .looping) (running : state.manager.running = true)
      (raised : (checkHeartbeatRound state.now).run state.manager = .error error manager) :
      StepCase call state .sweep
        { state.withManager manager with monitor := Monitor.afterRaise error }
  | monitorEnds (looping : state.monitor = .looping) (stopped : state.manager.running = false) :
      StepCase call state .sweep { state with monitor := .finished }
  | cancelMonitor (looping : state.monitor = .looping) :
      StepCase call state .cancelMonitor { state with monitor := .finished }
  | stopRunning :
      StepCase call state .stopRunning
        (state.withManager { state.manager with running := false })
  | updateNode (info : NodeInfo) :
      StepCase call state (.updateNode info)
        { state with world := (updateNode call state.now info).after state.world }
  | removeNode (nodeId : HashIdentifier) :
      StepCase call state (.removeNode nodeId)
        (state.withManager ((removeNode nodeId).after state.manager))
  | registerLocalService (serviceName : Text) (port : Int) :
      StepCase call state (.registerLocalService serviceName port)
        (state.withManager ((registerLocalService serviceName port).after state.manager))
  | registerLocalPublisher (topicName : Text) (port : Int) :
      StepCase call state (.registerLocalPublisher topicName port)
        { state with world := (registerLocalPublisher call topicName port).after state.world }
  | registerNodeUpdateHandler (nodeName : Text) (handler : η) :
      StepCase call state (.registerNodeUpdateHandler nodeName handler)
        (state.withManager (registerNodeUpdateHandler nodeName handler state.manager))
  | unregisterNodeUpdateHandler (nodeName : Text) (handler : η) :
      StepCase call state (.unregisterNodeUpdateHandler nodeName handler)
        (state.withManager (unregisterNodeUpdateHandler nodeName handler state.manager))

theorem stepCase_of_sweep [DecidableEq η] {call : Call η ω} {state next : Discovery η ω}
    (stepped : state.sweep = some next) : StepCase call state .sweep next := by
  unfold sweep at stepped
  split at stepped
  next looping =>
    split at stepped
    next running =>
      split at stepped
      next manager returned =>
        cases stepped
        exact .sweeps manager looping running returned
      next error manager raised =>
        cases stepped
        exact .sweepRaises error manager looping running raised
    next stopped =>
      cases stepped
      exact .monitorEnds looping (Bool.eq_false_of_not_eq_true stopped)
  next => cases stepped

theorem stepCase_of_step [DecidableEq η] {call : Call η ω} {state next : Discovery η ω}
    {event : DiscoveryEvent η} (stepped : state.step call event = some next) :
    StepCase call state event next := by
  cases event with
  | heartbeat message nodeIp =>
      cases stepped
      unfold heartbeat
      split
      next manager started =>
        rw [show manager = (handleHeartbeatStart state.now message state.manager).1 by rw [started]]
        exact .fetches message nodeIp (by rw [started])
      next manager started =>
        rw [show manager = (handleHeartbeatStart state.now message state.manager).1 by rw [started]]
        exact .heard message nodeIp (by rw [started])
  | fetchEnds index result =>
      simp only [step, fetchEnds] at stepped
      split at stepped
      next message nodeIp waiting =>
        cases stepped
        exact .fetchEnds index result message nodeIp waiting
      next => cases stepped
  | advance elapsed =>
      simp only [step] at stepped
      split at stepped
      next forward =>
        cases stepped
        exact .advance elapsed forward
      next => cases stepped
  | sweep => exact stepCase_of_sweep stepped
  | cancelMonitor =>
      simp only [step] at stepped
      split at stepped
      next looping =>
        cases stepped
        exact .cancelMonitor looping
      next => cases stepped
  | stopRunning | updateNode | removeNode | registerLocalService | registerLocalPublisher
  | registerNodeUpdateHandler | unregisterNodeUpdateHandler =>
      cases stepped
      constructor

/-! ## What a step does to the registry -/

/-- The description a step hands to `update_node`. -/
def delivered (state : Discovery η ω) : DiscoveryEvent η → Option NodeInfo
  | .fetchEnds index (.value info) =>
      state.pending[index]?.map fun request => { info with ip := request.2 }
  | .updateNode info => some info
  | _ => none

/-- The four ways a step can change the registry. -/
inductive RegistryStep (state : Discovery η ω) (event : DiscoveryEvent η) (next : Registry) :
    Prop where
  | unchanged (quiet : state.delivered event = none) (left : next = state.registry)
  | heard (message : HeartbeatMessage) (nodeIp : Text)
      (arrives : event = .heartbeat message nodeIp)
      (left : next = state.registry.hear state.now message.nodeId)
  | recorded (info : NodeInfo) (delivers : state.delivered event = some info)
      (left : next = state.registry.record state.now info)
  | dropped (nodeIds : List HashIdentifier) (quiet : state.delivered event = none)
      (left : next = state.registry.dropAll nodeIds)

/-- A round over a well-formed registry drops nodes, whether or not it raises. -/
theorem dropped_of_round {state : Discovery η ω} {manager : NodesInfoManager η}
    (wellFormed : state.registry.WellFormed)
    (left : manager = (checkHeartbeatRound state.now).after state.manager) :
    RegistryStep state .sweep manager.registry := by
  rcases after_checkHeartbeatRound state.now wellFormed with ⟨nodeIds, after⟩
  apply RegistryStep.dropped nodeIds rfl
  rw [left, after, registry_foldl_dropNode]
  rfl

theorem registryStep_of_removeNode {state : Discovery η ω}
    (wellFormed : state.registry.WellFormed) (nodeId : HashIdentifier) :
    RegistryStep state (.removeNode nodeId)
      ((removeNode nodeId).after state.manager).registry := by
  rw [after_removeNode wellFormed nodeId]
  split
  next => exact RegistryStep.dropped [nodeId] rfl rfl
  next => exact RegistryStep.unchanged rfl rfl

/-- Every step from a well-formed registry changes it in one of the four ways. -/
theorem registryStep_of_step [DecidableEq η] {call : Call η ω} {state next : Discovery η ω}
    {event : DiscoveryEvent η} (wellFormed : state.registry.WellFormed)
    (stepped : state.step call event = some next) : RegistryStep state event next.registry := by
  cases stepCase_of_step stepped with
  | heard message nodeIp _ | fetches message nodeIp _ =>
      exact RegistryStep.heard message nodeIp rfl rfl
  | fetchEnds index result message nodeIp waiting =>
      have left := registry_handleHeartbeatResume call state.now message nodeIp result state.world
      cases result with
      | raised => exact RegistryStep.unchanged rfl left
      | none => exact RegistryStep.unchanged rfl left
      | value info =>
          apply RegistryStep.recorded { info with ip := nodeIp }
          · simp only [delivered, waiting, Option.map_some]
          · exact left
  | sweeps manager looping running returned =>
      exact dropped_of_round wellFormed (Action.after_of_ok returned).symm
  | sweepRaises error manager looping running raised =>
      exact dropped_of_round wellFormed (Action.after_of_error raised).symm
  | updateNode info =>
      exact RegistryStep.recorded info rfl (registry_updateNode call state.now info state.world)
  | removeNode nodeId => exact registryStep_of_removeNode wellFormed nodeId
  | registerLocalService serviceName port =>
      exact RegistryStep.unchanged rfl
        (registry_registerLocalService serviceName port state.manager)
  | registerLocalPublisher topicName port =>
      exact RegistryStep.unchanged rfl
        (registry_registerLocalPublisher call topicName port state.world)
  | unregisterNodeUpdateHandler nodeName handler =>
      exact RegistryStep.unchanged rfl
        (registry_unregisterNodeUpdateHandler nodeName handler state.manager)
  | advance | monitorEnds | cancelMonitor | stopRunning | registerNodeUpdateHandler =>
      exact RegistryStep.unchanged rfl rfl

theorem RegistryStep.wellFormed {state : Discovery η ω} {event : DiscoveryEvent η}
    {next : Registry} (change : RegistryStep state event next)
    (wellFormed : state.registry.WellFormed) : next.WellFormed := by
  cases change with
  | unchanged _ left =>
      rw [left]
      exact wellFormed
  | heard message _ _ left =>
      rw [left]
      exact wellFormed.hear state.now message.nodeId
  | recorded info _ left =>
      rw [left]
      exact wellFormed.record state.now info
  | dropped nodeIds _ left =>
      rw [left]
      exact wellFormed.dropAll nodeIds

/-- A construction's registry is empty. -/
theorem wellFormed_init (localName localIp nodeID : Text) (outside : ω) (now : ℚ) :
    (init localName localIp nodeID outside now : Discovery η ω).registry.WellFormed where
  sameKeys := fun _ => Iff.rfl
  heard := fun _ known => known
  identified := by
    intro _ _ found
    cases found
  versioned := by
    intro _ _ found
    cases found
  addressed := by
    intro _ _ found
    cases found

/-- From a well-formed start, every reachable registry is well formed. -/
theorem wellFormed_of_reachable [DecidableEq η] {call : Call η ω} {start state : Discovery η ω}
    (startFormed : start.registry.WellFormed)
    (reachable : (machine call start).Reachable state) : state.registry.WellFormed := by
  apply reachable.invariant startFormed
  intro before event after _ wellFormed stepped
  exact (registryStep_of_step wellFormed stepped).wellFormed wellFormed

/-! ## The description of the node itself -/

/-- The events that change the description of the node itself. -/
def registers : DiscoveryEvent η → Bool
  | .registerLocalService _ _ | .registerLocalPublisher _ _ => true
  | _ => false

theorem localNodeInfo_recordUpdate (now : ℚ) (info : NodeInfo) (manager : NodesInfoManager η) :
    (recordUpdate now info manager).localNodeInfo = manager.localNodeInfo := by
  unfold recordUpdate
  simp only
  split <;> rfl

theorem localNodeInfo_updateNode (call : Call η ω) (now : ℚ) (info : NodeInfo)
    (world : World η ω) :
    ((updateNode call now info).after world).1.localNodeInfo = world.1.localNodeInfo := by
  rw [(after_updateNode call now info world).localNodeInfo]
  exact localNodeInfo_recordUpdate now info world.1

theorem localNodeInfo_handleHeartbeatResume (call : Call η ω) (now : ℚ)
    (message : HeartbeatMessage) (nodeIp : Text) (result : FetchResult) (world : World η ω) :
    ((handleHeartbeatResume call now message nodeIp result).after world).1.localNodeInfo =
      world.1.localNodeInfo := by
  cases result with
  | raised => rfl
  | none => rfl
  | value info =>
      have updated := localNodeInfo_updateNode call now { info with ip := nodeIp } world
      unfold handleHeartbeatResume
      cases ran : (updateNode call now { info with ip := nodeIp }).run world with
      | ok value next =>
          rw [Action.after_of_ok ran] at updated
          rw [Action.after_bind_of_ok ran]
          exact updated
      | error error next =>
          rw [Action.after_of_error ran] at updated
          rw [Action.after_of_error (Action.bind_of_error ran)]
          exact updated

theorem localNodeInfo_foldl_dropNode (nodeIds : List HashIdentifier)
    (manager : NodesInfoManager η) :
    (nodeIds.foldl dropNode manager).localNodeInfo = manager.localNodeInfo := by
  induction nodeIds generalizing manager with
  | nil => rfl
  | cons nodeId rest ih => exact ih (manager.dropNode nodeId)

theorem localNodeInfo_round {now : ℚ} {manager next : NodesInfoManager η}
    (wellFormed : manager.registry.WellFormed)
    (left : next = (checkHeartbeatRound now).after manager) :
    next.localNodeInfo = manager.localNodeInfo := by
  rcases after_checkHeartbeatRound now wellFormed with ⟨nodeIds, after⟩
  rw [left, after]
  exact localNodeInfo_foldl_dropNode nodeIds manager

/-- Only registrations change the description of the node itself. -/
theorem localNodeInfo_step [DecidableEq η] {call : Call η ω} {state next : Discovery η ω}
    {event : DiscoveryEvent η} (wellFormed : state.registry.WellFormed)
    (quiet : registers event = false) (stepped : state.step call event = some next) :
    next.manager.localNodeInfo = state.manager.localNodeInfo := by
  cases stepCase_of_step stepped with
  | fetchEnds index result message nodeIp waiting =>
      exact localNodeInfo_handleHeartbeatResume call state.now message nodeIp result state.world
  | sweeps manager looping running returned =>
      exact localNodeInfo_round wellFormed (Action.after_of_ok returned).symm
  | sweepRaises error manager looping running raised =>
      exact localNodeInfo_round wellFormed (Action.after_of_error raised).symm
  | updateNode info => exact localNodeInfo_updateNode call state.now info state.world
  | removeNode nodeId =>
      show ((removeNode nodeId).after state.manager).localNodeInfo = _
      rw [after_removeNode wellFormed nodeId]
      split <;> rfl
  | registerLocalService | registerLocalPublisher => cases quiet
  | unregisterNodeUpdateHandler nodeName handler =>
      simp only [manager, withManager, unregisterNodeUpdateHandler]
      split <;> rfl
  | heard | fetches | advance | monitorEnds | cancelMonitor | stopRunning
  | registerNodeUpdateHandler => rfl

end Discovery

end Pyzlc
