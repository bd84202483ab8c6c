import Pyzlc.Nodes.Discovery

/-!
# Versions recorded for a node

`update_node` stores a description whenever its version differs from the recorded one,
so a description fetched earlier and processed later takes the node back.  Between two
evictions of a node its recorded version never decreases exactly when the descriptions
of the node are processed in the order of their versions.
-/

namespace Pyzlc

open Foundation

/-- A description just recorded is the one whose version is found, if the node is known. -/
theorem Registry.lookupId_record_self {registry : Registry} {now : ℚ} {info : NodeInfo}
    (known : info.nodeID ∈ (registry.record now info).nodesInfoId) :
    (registry.record now info).nodesInfoId.lookup info.nodeID = some info.infoID := by
  unfold Registry.record at known ⊢
  split
  next same =>
    rw [if_pos same, hear_nodesInfoId] at known
    rcases Dict.mem_iff_lookup.1 known with ⟨version, found⟩
    rw [Registry.Matches, found] at same
    rw [hear_nodesInfoId, found, ← same]
    rfl
  next => rw [hear_nodesInfoId, lookupId_store, if_pos rfl]

namespace Discovery

open NodesInfoManager

variable {η ω : Type}

/-- The node has an entry in `nodes_info_id`. -/
def Recorded (nodeId : HashIdentifier) (state : Discovery η ω) : Prop :=
  nodeId ∈ state.registry.nodesInfoId

instance (nodeId : HashIdentifier) (state : Discovery η ω) : Decidable (Recorded nodeId state) :=
  inferInstanceAs (Decidable (nodeId ∈ state.registry.nodesInfoId))

/-- The recorded version of a node. -/
def version (state : Discovery η ω) (nodeId : HashIdentifier) : Option Int :=
  state.registry.nodesInfoId.lookup nodeId

/-- Neither the recorded version nor the stored description's goes back. -/
def VersionLe (nodeId : HashIdentifier) (state next : Discovery η ω) : Prop :=
  (∀ before after, state.version nodeId = some before → next.version nodeId = some after →
    before ≤ after) ∧
  ∀ before after, state.registry.nodesInfo.lookup nodeId = some before →
    next.registry.nodesInfo.lookup nodeId = some after → before.infoID ≤ after.infoID

theorem versionLe_iff {nodeId : HashIdentifier} {state next : Discovery η ω}
    (stateFormed : state.registry.WellFormed) (nextFormed : next.registry.WellFormed) :
    VersionLe nodeId state next ↔
      ∀ before after, state.version nodeId = some before → next.version nodeId = some after →
        before ≤ after := by
  constructor
  · exact And.left
  · intro versions
    constructor
    · exact versions
    · intro before after found foundNext
      exact versions _ _ (stateFormed.versioned nodeId before found)
        (nextFormed.versioned nodeId after foundNext)

variable [DecidableEq η]

section Runs

variable (call : Call η ω) (start : Discovery η ω)

/-- Between two evictions of a node, no version of it goes back. -/
def VersionsMonotone (trace : List (DiscoveryEvent η)) : Prop :=
  ∀ nodeId initial segment state next, initial ++ segment <+: trace →
    (machine call start).Throughout (Recorded nodeId) initial segment →
    (machine call start).exec initial = some state →
    (machine call start).exec (initial ++ segment) = some next →
    VersionLe nodeId state next

/-- Two descriptions of a node that are processed without an eviction after the earlier
one come in the order of their versions. -/
def DeliveredInOrder (trace : List (DiscoveryEvent η)) : Prop :=
  ∀ initial earlier segment later state next earlierInfo laterInfo,
    initial ++ [earlier] ++ segment ++ [later] <+: trace →
    (machine call start).exec initial = some state →
    state.delivered earlier = some earlierInfo →
    (machine call start).exec (initial ++ [earlier] ++ segment) = some next →
    next.delivered later = some laterInfo →
    laterInfo.nodeID = earlierInfo.nodeID →
    (machine call start).Throughout (Recorded earlierInfo.nodeID) (initial ++ [earlier]) segment →
    earlierInfo.infoID ≤ laterInfo.infoID

end Runs

/-! ## Deliveries -/

variable {call : Call η ω} {start state next : Discovery η ω} {event : DiscoveryEvent η}
  {trace : List (DiscoveryEvent η)} {info : NodeInfo} {nodeId : HashIdentifier}

/-- A step that delivers a description records it. -/
theorem registry_of_delivered (wellFormed : state.registry.WellFormed)
    (stepped : state.step call event = some next) (delivers : state.delivered event = some info) :
    next.registry = state.registry.record state.now info := by
  cases registryStep_of_step wellFormed stepped with
  | unchanged quiet _ => cases quiet.symm.trans delivers
  | heard message nodeIp arrives _ =>
      rw [arrives] at delivers
      cases delivers
  | recorded given gives left =>
      cases gives.symm.trans delivers
      exact left
  | dropped _ quiet _ => cases quiet.symm.trans delivers

/-- A step that delivers a description can be taken. -/
theorem step_of_delivered (call : Call η ω) (delivers : state.delivered event = some info) :
    ∃ next, state.step call event = some next := by
  cases event with
  | updateNode given => exact ⟨_, rfl⟩
  | fetchEnds index result =>
      cases result with
      | value reply =>
          rcases Option.map_eq_some_iff.1 delivers with ⟨request, waiting, _⟩
          simp only [step, fetchEnds, waiting]
          exact ⟨_, rfl⟩
      | none => cases delivers
      | raised => cases delivers
  | heartbeat | advance | sweep | cancelMonitor | stopRunning | removeNode
  | registerLocalService | registerLocalPublisher | registerNodeUpdateHandler
  | unregisterNodeUpdateHandler => cases delivers

/-- A step that leaves a node recorded delivered a description of it, or the version found
is the one it had. -/
theorem version_step (wellFormed : state.registry.WellFormed)
    (stepped : state.step call event = some next) (recorded : next.Recorded nodeId) :
    (∃ info, state.delivered event = some info ∧ info.nodeID = nodeId ∧
      next.version nodeId = some info.infoID) ∨
    state.Recorded nodeId ∧ next.version nodeId = state.version nodeId := by
  have sameOf : ∀ same : next.version nodeId = state.version nodeId,
      state.Recorded nodeId ∧ next.version nodeId = state.version nodeId := by
    intro same
    constructor
    · rcases Dict.mem_iff_lookup.1 recorded with ⟨version, found⟩
      exact Dict.mem_of_lookup (same.symm.trans found)
    · exact same
  cases registryStep_of_step wellFormed stepped with
  | unchanged _ left =>
      right
      apply sameOf
      rw [version, left]
      rfl
  | heard _ _ _ left =>
      right
      apply sameOf
      rw [version, left]
      rfl
  | recorded given delivers left =>
      rw [Recorded, left] at recorded
      by_cases here : given.nodeID = nodeId
      · left
        refine ⟨given, delivers, here, ?_⟩
        rw [← here] at recorded ⊢
        rw [version, left]
        exact Registry.lookupId_record_self recorded
      · right
        apply sameOf
        rw [version, left]
        unfold Registry.record
        split
        next => rfl
        next =>
          rw [Registry.hear_nodesInfoId, Registry.lookupId_store, if_neg (Ne.symm here)]
          rfl
  | dropped nodeIds _ left =>
      right
      apply sameOf
      rw [Recorded, left, Dict.mem_iff_lookup] at recorded
      rcases recorded with ⟨version, found⟩
      rw [Discovery.version, left, Registry.lookupId_dropAll]
      rw [Registry.lookupId_dropAll] at found
      split at found
      next => cases found
      next remains =>
        rw [if_neg remains]
        rfl

/-- The delivery that a recorded version comes from, the node recorded ever since. -/
theorem delivery_of_version (startFormed : start.registry.WellFormed)
    (startEmpty : start.registry.nodesInfoId = ∅)
    (run : (machine call start).exec trace = some state) :
    ∀ infoId, state.version nodeId = some infoId →
      ∃ initial event segment before info, trace = initial ++ [event] ++ segment ∧
        (machine call start).exec initial = some before ∧
        before.delivered event = some info ∧ info.nodeID = nodeId ∧ info.infoID = infoId ∧
        (machine call start).Throughout (Recorded nodeId) (initial ++ [event]) segment := by
  apply Machine.exec_induction (motive := fun trace (state : Discovery η ω) =>
    ∀ infoId, state.version nodeId = some infoId →
      ∃ initial event segment before info, trace = initial ++ [event] ++ segment ∧
        (machine call start).exec initial = some before ∧
        before.delivered event = some info ∧ info.nodeID = nodeId ∧ info.infoID = infoId ∧
        (machine call start).Throughout (Recorded nodeId) (initial ++ [event]) segment) _ _ run
  · intro infoId found
    rw [version, show (machine call start).start.registry.nodesInfoId = ∅ from startEmpty] at found
    cases found
  · intro trace before event after reached earlier stepped infoId found
    have wellFormed := wellFormed_of_reachable startFormed ⟨trace, reached⟩
    have runAfter := Machine.exec_snoc_eq_some.2 ⟨before, reached, stepped⟩
    have recorded : after.Recorded nodeId := Dict.mem_of_lookup found
    rcases version_step wellFormed stepped recorded with
      ⟨info, delivers, here, versioned⟩ | ⟨_, same⟩
    · refine ⟨trace, event, [], before, info, (List.append_nil _).symm, reached, delivers, here,
        ?_, Machine.throughout_nil runAfter recorded⟩
      rw [versioned] at found
      exact Option.some.inj found
    · rw [same] at found
      rcases earlier infoId found with
        ⟨initial, delivery, segment, middle, info, split, reachedMiddle, delivers, here,
          versioned, kept⟩
      refine ⟨initial, delivery, segment ++ [event], middle, info, ?_, reachedMiddle, delivers,
        here, versioned, ?_⟩
      · rw [split, List.append_assoc _ segment]
      · apply kept.snoc _ recorded
        rw [← List.append_assoc, ← split]
        exact runAfter

/-! ## Order of deliveries and order of versions -/

theorem deliveredInOrder_of_versionsMonotone (startFormed : start.registry.WellFormed)
    (monotone : VersionsMonotone call start trace) : DeliveredInOrder call start trace := by
  intro initial earlier segment later state next earlierInfo laterInfo within reached
    deliversEarlier reachedNext deliversLater sameNode kept
  have wellFormed := wellFormed_of_reachable startFormed ⟨initial, reached⟩
  have nextFormed := wellFormed_of_reachable startFormed ⟨_, reachedNext⟩
  rcases step_of_delivered call deliversEarlier with ⟨first, steppedEarlier⟩
  rcases step_of_delivered call deliversLater with ⟨last, steppedLater⟩
  have reachedFirst := Machine.exec_snoc_eq_some.2 ⟨state, reached, steppedEarlier⟩
  have reachedLast := Machine.exec_snoc_eq_some.2 ⟨next, reachedNext, steppedLater⟩
  have recordedFirst := kept.first reachedFirst
  have firstVersion : first.version earlierInfo.nodeID = some earlierInfo.infoID := by
    have left := registry_of_delivered wellFormed steppedEarlier deliversEarlier
    rw [Recorded, left] at recordedFirst
    rw [version, left]
    exact Registry.lookupId_record_self recordedFirst
  have lastVersion : last.version earlierInfo.nodeID = some laterInfo.infoID := by
    have left := registry_of_delivered nextFormed steppedLater deliversLater
    rw [version, left, Registry.lookupId_record _ _ (kept.last reachedNext), if_pos sameNode.symm]
  have recordedLast : last.Recorded earlierInfo.nodeID := Dict.mem_of_lookup lastVersion
  rw [List.append_assoc _ segment] at within reachedLast
  have segmentKept := kept.snoc reachedLast recordedLast
  exact (monotone earlierInfo.nodeID _ _ first last within segmentKept reachedFirst
    reachedLast).1 _ _ firstVersion lastVersion

/-- Deliveries in order let no step take a version back. -/
theorem versionLe_step (startFormed : start.registry.WellFormed)
    (startEmpty : start.registry.nodesInfoId = ∅)
    (inOrder : DeliveredInOrder call start trace) {initial : List (DiscoveryEvent η)}
    (within : initial ++ [event] <+: trace)
    (reached : (machine call start).exec initial = some state)
    (stepped : state.step call event = some next) (recorded : next.Recorded nodeId) :
    ∀ before after, state.version nodeId = some before → next.version nodeId = some after →
      before ≤ after := by
  have wellFormed := wellFormed_of_reachable startFormed ⟨initial, reached⟩
  intro before after found foundNext
  rcases version_step wellFormed stepped recorded with
    ⟨laterInfo, delivers, here, versioned⟩ | ⟨_, same⟩
  · rcases delivery_of_version startFormed startEmpty reached before found with
      ⟨first, earlier, segment, middle, earlierInfo, split, reachedMiddle, deliversEarlier,
        hereEarlier, versionedEarlier, kept⟩
    cases versioned.symm.trans foundNext
    rw [← versionedEarlier]
    rw [split] at within reached
    rw [← hereEarlier] at kept here
    exact inOrder first earlier segment event middle state earlierInfo laterInfo within
      reachedMiddle deliversEarlier reached delivers here kept
  · rw [same, found] at foundNext
    cases foundNext
    exact le_rfl

theorem versionsMonotone_of_deliveredInOrder (startFormed : start.registry.WellFormed)
    (startEmpty : start.registry.nodesInfoId = ∅)
    (inOrder : DeliveredInOrder call start trace) : VersionsMonotone call start trace := by
  intro nodeId initial segment state next within kept reached reachedNext
  have wellFormed := wellFormed_of_reachable startFormed ⟨initial, reached⟩
  have nextFormed := wellFormed_of_reachable startFormed ⟨_, reachedNext⟩
  apply (versionLe_iff wellFormed nextFormed).2
  apply kept.related (fun state next => ∀ before after,
    state.version nodeId = some before → next.version nodeId = some after → before ≤ after)
    _ _ _ reached reachedNext
  · intro state before after found foundNext
    cases found.symm.trans foundNext
    exact le_rfl
  · intro first second third recorded left right before after found foundNext
    rcases Dict.mem_iff_lookup.1 recorded with ⟨middle, foundMiddle⟩
    exact (left before middle found foundMiddle).trans (right middle after foundMiddle foundNext)
  · intro middle state event next inside reachedMiddle _ stepped recorded
    have insideTrace : initial ++ middle ++ [event] <+: trace := by
      rw [List.append_assoc]
      exact ((List.prefix_append_right_inj _).2 inside).trans within
    exact versionLe_step startFormed startEmpty inOrder insideTrace reachedMiddle stepped recorded

/-- In every run of a node, recorded versions go back between no two evictions if and
only if descriptions of one node are processed in the order of their versions. -/
theorem versionsMonotone_iff (call : Call η ω) (localName localIp nodeID : Text) (outside : ω)
    (now : ℚ) (trace : List (DiscoveryEvent η)) :
    VersionsMonotone call (init localName localIp nodeID outside now) trace ↔
      DeliveredInOrder call (init localName localIp nodeID outside now) trace := by
  have startFormed := wellFormed_init (η := η) localName localIp nodeID outside now
  constructor
  · exact deliveredInOrder_of_versionsMonotone startFormed
  · exact versionsMonotone_of_deliveredInOrder startFormed rfl

/-- Two fetches of one node overlap, and the one that started first ends last. -/
def overtakenRun : List (DiscoveryEvent Empty) :=
  [.heartbeat (message 1) "10.0.0.2", .heartbeat (message 2) "10.0.0.2",
    .fetchEnds 1 (.value (description 2)), .fetchEnds 0 (.value (description 1))]
where
  message (infoId : Int) : HeartbeatMessage := {
    zlcVersion := (0, 1, 0), nodeId := "b", infoId := infoId, servicePort := 7000,
    groupName := "zlc_default_group_name" }
  description (infoId : Int) : NodeInfo := {
    nodeID := "b", infoID := infoId, name := "camera", ip := "10.0.0.2", topics := []
    services := [] }

theorem versions_go_back_along_overtakenRun :
    ¬ VersionsMonotone nofun (init "viewer" "10.0.0.1" "a" () 0) overtakenRun := by
  intro monotone
  have kept : (machine nofun (init "viewer" "10.0.0.1" "a" () 0)).Throughout (Recorded "b")
      (overtakenRun.take 3) (overtakenRun.drop 3) := by
    refine Machine.throughout_singleton rfl rfl ?_ ?_
    · decide
    · decide
  have notBack := (monotone "b" _ _ _ _ List.prefix_rfl kept rfl rfl).1 2 1 (by decide) (by decide)
  exact absurd notBack (by decide)

end Discovery

end Pyzlc
