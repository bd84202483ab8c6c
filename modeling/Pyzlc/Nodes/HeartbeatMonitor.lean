import Pyzlc.Nodes.Discovery

/-!
# The heartbeat monitor

A round of `check_heartbeat` names every stale node by its stored description before
it removes any.  Heartbeats are recorded ahead of descriptions, so a node whose
description was never fetched has no name to log: the round raises, and with it the
coroutine ends.  The rounds of a run do their work exactly as long as each stale node
they find has a description.
-/

namespace Pyzlc

open Foundation

namespace NodesInfoManager

variable {η : Type}

/-- Exactly the stale nodes are gone, and no older heartbeat than three seconds remains. -/
structure SweptOf (now : ℚ) (manager next : NodesInfoManager η) : Prop where
  removed : ∀ nodeId, Stale now manager nodeId →
    nodeId ∉ next.nodesInfo ∧ nodeId ∉ next.nodesInfoId ∧ nodeId ∉ next.nodesHeartbeat
  kept : ∀ nodeId, ¬ Stale now manager nodeId →
    next.nodesInfo.lookup nodeId = manager.nodesInfo.lookup nodeId ∧
    next.nodesInfoId.lookup nodeId = manager.nodesInfoId.lookup nodeId ∧
    next.nodesHeartbeat.lookup nodeId = manager.nodesHeartbeat.lookup nodeId
  recent : ∀ nodeId lastHeartbeat, next.nodesHeartbeat.lookup nodeId = some lastHeartbeat →
    now - lastHeartbeat ≤ 3

/-- A round returns and has done its work. -/
def SweepCorrect (now : ℚ) (manager : NodesInfoManager η) : Prop :=
  ∃ next, (checkHeartbeatRound now).run manager = .ok ⟨⟩ next ∧ SweptOf now manager next

/-- Every stale node has a stored description. -/
def StaleDescribed (now : ℚ) (manager : NodesInfoManager η) : Prop :=
  ∀ nodeId, Stale now manager nodeId → nodeId ∈ manager.nodesInfo

theorem sweptOf_dropStale (now : ℚ) (manager : NodesInfoManager η) :
    SweptOf now manager ((staleNodes now manager).foldl dropNode manager) := by
  have dropped := registry_foldl_dropNode (staleNodes now manager) manager
  have infos : ∀ nodeId, ((staleNodes now manager).foldl dropNode manager).nodesInfo.lookup nodeId =
      if nodeId ∈ staleNodes now manager then none else manager.nodesInfo.lookup nodeId := by
    intro nodeId
    exact (congrArg (fun registry => registry.nodesInfo.lookup nodeId) dropped).trans
      (Registry.lookup_dropAll _ _ nodeId)
  have versions : ∀ nodeId,
      ((staleNodes now manager).foldl dropNode manager).nodesInfoId.lookup nodeId =
        if nodeId ∈ staleNodes now manager then none else manager.nodesInfoId.lookup nodeId := by
    intro nodeId
    exact (congrArg (fun registry => registry.nodesInfoId.lookup nodeId) dropped).trans
      (Registry.lookupId_dropAll _ _ nodeId)
  have heartbeats : ∀ nodeId,
      ((staleNodes now manager).foldl dropNode manager).nodesHeartbeat.lookup nodeId =
        if nodeId ∈ staleNodes now manager then none
        else manager.nodesHeartbeat.lookup nodeId := by
    intro nodeId
    exact (congrArg (fun registry => registry.nodesHeartbeat.lookup nodeId) dropped).trans
      (Registry.lookupHeartbeat_dropAll _ _ nodeId)
  constructor
  · intro nodeId stale
    have member := mem_staleNodes.2 stale
    have gone := infos nodeId
    have goneId := versions nodeId
    have goneHeartbeat := heartbeats nodeId
    rw [if_pos member] at gone goneId goneHeartbeat
    exact ⟨AList.lookup_eq_none.1 gone, AList.lookup_eq_none.1 goneId,
      AList.lookup_eq_none.1 goneHeartbeat⟩
  · intro nodeId fresh
    have notMember := mt mem_staleNodes.1 fresh
    rw [infos, versions, heartbeats]
    simp only [if_neg notMember, and_self]
  · intro nodeId lastHeartbeat found
    rw [heartbeats] at found
    split at found
    next => cases found
    next fresh =>
      apply not_lt.1
      intro old
      exact fresh (mem_staleNodes.2 ⟨lastHeartbeat, found, old⟩)

/-- A round over a well-formed registry does its work if and only if every stale node
has a description. -/
theorem sweepCorrect_iff {now : ℚ} {manager : NodesInfoManager η}
    (wellFormed : manager.registry.WellFormed) :
    SweepCorrect now manager ↔ StaleDescribed now manager := by
  constructor
  · intro correct nodeId stale
    rcases correct with ⟨next, returned, _⟩
    apply Classical.byContradiction
    intro undescribed
    rcases checkHeartbeatRound_of_undescribed stale undescribed with ⟨key, raised⟩
    rw [raised] at returned
    cases returned
  · intro described
    exact ⟨_, checkHeartbeatRound_of_described wellFormed described, sweptOf_dropStale now manager⟩

end NodesInfoManager

namespace Discovery

open NodesInfoManager

variable {η ω : Type} [DecidableEq η]

/-- The event is a round that the monitor really takes. -/
def TakesRound (state : Discovery η ω) (event : DiscoveryEvent η) : Prop :=
  event = .sweep ∧ state.monitor = .looping ∧ state.manager.running = true

/-- The monitor was not left by an exception. -/
def MonitorAlive (state : Discovery η ω) : Prop := ∀ error, state.monitor ≠ .crashed error

/-- Only a round that raises crashes the monitor. -/
theorem monitorAlive_step {call : Call η ω} {state next : Discovery η ω}
    {event : DiscoveryEvent η} (alive : state.MonitorAlive)
    (correct : state.TakesRound event → SweepCorrect state.now state.manager)
    (stepped : state.step call event = some next) : next.MonitorAlive := by
  cases stepCase_of_step stepped with
  | sweepRaises error manager looping running raised =>
      rcases correct ⟨rfl, looping, running⟩ with ⟨swept, returned, _⟩
      rw [raised] at returned
      cases returned
  | monitorEnds | cancelMonitor =>
      intro error crashed
      cases crashed
  | heard | fetches | fetchEnds | advance | sweeps | stopRunning | updateNode | removeNode
  | registerLocalService | registerLocalPublisher | registerNodeUpdateHandler
  | unregisterNodeUpdateHandler => exact alive

/-- Every round of the run does its work, and no exception ends the monitor. -/
def MonitorCorrect (call : Call η ω) (start : Discovery η ω)
    (trace : List (DiscoveryEvent η)) : Prop :=
  (machine call start).StepsAlong
    (fun state event => state.TakesRound event → SweepCorrect state.now state.manager) trace ∧
  (machine call start).StatesAlong MonitorAlive trace

/-- Along every run, the monitor does its work and stays alive if and only if each
round finds a description for every stale node. -/
theorem monitorCorrect_iff (call : Call η ω) (localName localIp nodeID : Text) (outside : ω)
    (now : ℚ) (trace : List (DiscoveryEvent η)) :
    MonitorCorrect call (init localName localIp nodeID outside now) trace ↔
      (machine call (init localName localIp nodeID outside now)).StepsAlong
        (fun state event => state.TakesRound event → StaleDescribed state.now state.manager)
        trace := by
  have startFormed := wellFormed_init (η := η) localName localIp nodeID outside now
  have exact_round : ∀ initial state,
      (machine call (init localName localIp nodeID outside now)).exec initial = some state →
        (SweepCorrect state.now state.manager ↔ StaleDescribed state.now state.manager) := by
    intro initial state reached
    exact sweepCorrect_iff (wellFormed_of_reachable startFormed ⟨initial, reached⟩)
  constructor
  · intro correct initial event state within reached takes
    exact (exact_round initial state reached).1 (correct.1 initial event state within reached takes)
  · intro described
    have correct : (machine call (init localName localIp nodeID outside now)).StepsAlong
        (fun state event => state.TakesRound event → SweepCorrect state.now state.manager)
        trace := by
      intro initial event state within reached takes
      exact (exact_round initial state reached).2
        (described initial event state within reached takes)
    constructor
    · exact correct
    · have startAlive :
          MonitorAlive (init localName localIp nodeID outside now : Discovery η ω) := by
        intro error crashed
        cases crashed
      exact Machine.statesAlong_of_stepsAlong MonitorAlive startAlive
        (fun state event next _ alive met stepped => monitorAlive_step alive met stepped) correct

/-- A node is heard once, its description cannot be fetched, and it falls silent. -/
def silentRun : List (DiscoveryEvent Empty) :=
  [.heartbeat
      { zlcVersion := (0, 1, 0), nodeId := "b", infoId := 1, servicePort := 7000,
        groupName := "zlc_default_group_name" } "10.0.0.2",
    .fetchEnds 0 .none, .advance 4, .sweep]

theorem monitor_crashes_along_silentRun :
    ((machine nofun (init "viewer" "10.0.0.1" "a" () 0)).exec silentRun).map monitor =
        some (.crashed (.keyError "b")) ∧
      ¬ MonitorCorrect nofun (init "viewer" "10.0.0.1" "a" () 0) silentRun := by
  have crash : ((machine nofun (init "viewer" "10.0.0.1" "a" () 0)).exec silentRun).map monitor =
      some (.crashed (.keyError "b")) := by
    decide +kernel
  constructor
  · exact crash
  · intro correct
    rcases Option.map_eq_some_iff.1 crash with ⟨state, run, crashed⟩
    exact correct.2.last run _ crashed

end Discovery

end Pyzlc
