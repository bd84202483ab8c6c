import Pyzlc.Nodes.Discovery
import Pyzlc.Utils.HeartbeatFormat

/-!
# What one heartbeat does to the registry

`handle_heartbeat_async` takes the time and compares the version under the node of the
heartbeat, and stores the reply under the node that the reply names.  Nothing compares the
two nodes, and the version of an unknown node is compared with an ordinary integer.
-/

namespace Pyzlc

open Foundation

namespace Registry

/-- No entry of another node differs. -/
structure SameBeside (nodeId : HashIdentifier) (before after : Registry) : Prop where
  nodesInfo : ∀ other ≠ nodeId, after.nodesInfo.lookup other = before.nodesInfo.lookup other
  nodesInfoId : ∀ other ≠ nodeId,
    after.nodesInfoId.lookup other = before.nodesInfoId.lookup other
  nodesHeartbeat : ∀ other ≠ nodeId,
    after.nodesHeartbeat.lookup other = before.nodesHeartbeat.lookup other

theorem sameBeside_refl (nodeId : HashIdentifier) (registry : Registry) :
    registry.SameBeside nodeId registry where
  nodesInfo := fun _ _ => rfl
  nodesInfoId := fun _ _ => rfl
  nodesHeartbeat := fun _ _ => rfl

theorem sameBeside_hear (now : ℚ) (nodeId : HashIdentifier) (registry : Registry) :
    registry.SameBeside nodeId (registry.hear now nodeId) where
  nodesInfo := fun _ _ => rfl
  nodesInfoId := fun _ _ => rfl
  nodesHeartbeat := fun _ different => Dict.lookup_set_ne _ _ different

theorem sameBeside_record (now : ℚ) (info : NodeInfo) (registry : Registry) :
    registry.SameBeside info.nodeID (registry.record now info) := by
  unfold record
  split
  next => exact sameBeside_hear now info.nodeID registry
  next =>
    constructor
    · intro other different
      rw [hear_nodesInfo, lookup_store, if_neg different]
    · intro other different
      rw [hear_nodesInfoId, lookupId_store, if_neg different]
    · intro other different
      exact Dict.lookup_set_ne _ _ different

theorem nodesHeartbeat_record (now : ℚ) (info : NodeInfo) (registry : Registry) :
    (registry.record now info).nodesHeartbeat.lookup info.nodeID = some now := by
  unfold record hear
  exact Dict.lookup_set_self _ _ _

/-- A version that is not the recorded one is stored. -/
theorem lookupId_record_of_news {now : ℚ} {info : NodeInfo} {registry : Registry}
    (news : ¬ registry.Matches info.nodeID info.infoID) :
    (registry.record now info).nodesInfoId.lookup info.nodeID = some info.infoID := by
  unfold record
  rw [if_neg news, hear_nodesInfoId, lookupId_store, if_pos rfl]

/-- An arrival under another node changes that node's entries, unless its version is recorded
and the time is the one of its last heartbeat. -/
theorem sameBeside_record_iff {now : ℚ} {info : NodeInfo} {registry : Registry}
    {nodeId : HashIdentifier} :
    registry.SameBeside nodeId (registry.record now info) ↔
      info.nodeID = nodeId ∨ (registry.Matches info.nodeID info.infoID ∧
        registry.nodesHeartbeat.lookup info.nodeID = some now) := by
  constructor
  · intro same
    by_cases own : info.nodeID = nodeId
    · exact Or.inl own
    · right
      constructor
      · by_contra news
        have stored : (registry.record now info).nodesInfoId.lookup info.nodeID =
            some info.infoID := lookupId_record_of_news news
        rw [same.nodesInfoId _ own] at stored
        apply news
        rw [Matches, stored]
        rfl
      · rw [← same.nodesHeartbeat _ own]
        exact nodesHeartbeat_record now info registry
  · intro touches
    rcases touches with own | ⟨recorded, heard⟩
    · rw [← own]
      exact sameBeside_record now info registry
    · unfold record
      rw [if_pos recorded]
      constructor
      · exact fun _ _ => rfl
      · exact fun _ _ => rfl
      · intro other _
        rw [hear, Dict.lookup_set]
        split
        next same => rw [same, heard]
        next => rfl

end Registry

namespace Discovery

open NodesInfoManager

variable {η ω : Type}

/-! ## Heartbeats that are not fetched -/

/-- A heartbeat that is not fetched is of a node with a description of that version. -/
def SkipJustified (data : Bytes) (state : Discovery η ω) : Prop :=
  ∀ message, decodeHeartbeatMessage data = some message →
    (handleHeartbeatStart state.now message state.manager).2 = false →
    ∃ info, state.manager.nodesInfo.lookup message.nodeId = some info ∧
      info.infoID = message.infoId

theorem handleHeartbeatStart_eq_false {state : Discovery η ω} {message : HeartbeatMessage} :
    (handleHeartbeatStart state.now message state.manager).2 = false ↔
      state.registry.Matches message.nodeId message.infoId := by
  rw [handleHeartbeatStart, Bool.not_eq_false', checkInfo_eq_true]
  rfl

/-- The version of an unknown node is taken for minus one. -/
theorem matches_of_unknown {registry : Registry} {nodeId : HashIdentifier} {infoId : Int}
    (unknown : nodeId ∉ registry.nodesInfoId) :
    registry.Matches nodeId infoId ↔ infoId = -1 := by
  rw [Registry.Matches, AList.lookup_eq_none.2 unknown]
  exact eq_comm

/-- In every reachable state, a datagram that is not fetched is justified if and only if it
does not carry the version minus one for an unknown node. -/
theorem skipJustified_iff [DecidableEq η] (call : Call η ω) (localName localIp nodeID : Text)
    (outside : ω) (now : ℚ) {state : Discovery η ω}
    (reachable : (machine call (init localName localIp nodeID outside now)).Reachable state)
    (data : Bytes) :
    SkipJustified data state ↔
      ∀ message, decodeHeartbeatMessage data = some message → message.infoId = -1 →
        message.nodeId ∈ state.manager.nodesInfo := by
  have wellFormed := wellFormed_of_reachable (wellFormed_init _ _ _ _ _) reachable
  constructor
  · intro justified message decoded sentinel
    by_contra unknown
    have unversioned : message.nodeId ∉ state.registry.nodesInfoId :=
      mt (wellFormed.sameKeys message.nodeId).2 unknown
    have skipped := handleHeartbeatStart_eq_false.2 ((matches_of_unknown unversioned).2 sentinel)
    rcases justified message decoded skipped with ⟨info, found, _⟩
    exact unknown (Dict.mem_of_lookup found)
  · intro condition message decoded skipped
    have same := handleHeartbeatStart_eq_false.1 skipped
    have known : message.nodeId ∈ state.registry.nodesInfo := by
      by_contra unknown
      have unversioned := mt (wellFormed.sameKeys message.nodeId).2 unknown
      exact unknown (condition message decoded ((matches_of_unknown unversioned).1 same))
    rcases Dict.mem_iff_lookup.1 known with ⟨info, found⟩
    refine ⟨info, found, ?_⟩
    rw [Registry.Matches, wellFormed.versioned message.nodeId info found] at same
    exact same

/-- A datagram of 56 bytes: version 0.0.0, an identifier of one letter, a version of the
description, port 5555 and no group name. -/
def shortDatagram (letter : UInt8) (infoId : Bytes) : Bytes :=
  List.replicate 12 0 ++ [letter] ++ List.replicate 35 0 ++ infoId ++ [0, 0, 21, 179]

/-- The heartbeat that such a datagram of node "b" carries. -/
def shortHeartbeat (infoId : Int) : HeartbeatMessage where
  zlcVersion := (0, 0, 0)
  nodeId := "b"
  infoId := infoId
  servicePort := 5555
  groupName := ""

/-- Node "b" is heard and its description fetched. -/
def describedRun : List (DiscoveryEvent Empty) :=
  [.heartbeat (shortHeartbeat 1) "10.0.0.2",
    .fetchEnds 0 (.value {
      nodeID := "b", infoID := 1, name := "arm", ip := "10.0.0.2", topics := [], services := [] })]

/-- The heartbeat of a described node is repeated: it is not fetched, which is justified. -/
theorem skipJustified_of_repeated :
    ∃ state : Discovery Empty Unit,
      (machine nofun (init "viewer" "10.0.0.1" "a" () 0)).exec describedRun = some state ∧
      decodeHeartbeatMessage (shortDatagram 98 [0, 0, 0, 1]) = some (shortHeartbeat 1) ∧
      (handleHeartbeatStart state.now (shortHeartbeat 1) state.manager).2 = false ∧
      SkipJustified (shortDatagram 98 [0, 0, 0, 1]) state := by
  have decodes : decodeHeartbeatMessage (shortDatagram 98 [0, 0, 0, 1]) =
      some (shortHeartbeat 1) := by
    decide +kernel
  refine ⟨_, rfl, decodes, by decide +kernel, ?_⟩
  apply (skipJustified_iff nofun "viewer" "10.0.0.1" "a" () 0 ⟨describedRun, rfl⟩ _).2
  intro message decoded sentinel
  cases decodes.symm.trans decoded
  cases sentinel

/-- A node that nobody has described announces the version minus one. -/
theorem skip_not_justified :
    ¬ SkipJustified (shortDatagram 98 [255, 255, 255, 255])
      (init "viewer" "10.0.0.1" "a" () 0 : Discovery Empty Unit) := by
  intro justified
  have decoded : decodeHeartbeatMessage (shortDatagram 98 [255, 255, 255, 255]) =
      some (shortHeartbeat (-1)) := by
    decide +kernel
  rcases justified _ decoded (by decide +kernel) with ⟨info, found, _⟩
  cases found

/-! ## Replies of another node -/

/-- The node whose heartbeat an event belongs to. -/
def heartbeatOf (state : Discovery η ω) : DiscoveryEvent η → Option HashIdentifier
  | .heartbeat message _ => some message.nodeId
  | .fetchEnds index _ => state.pending[index]?.map fun request => request.1.nodeId
  | _ => none

/-- What a heartbeat's step does, it does to the entries of the heartbeat's node. -/
def TouchesOwnNode [DecidableEq η] (call : Call η ω) (state : Discovery η ω)
    (event : DiscoveryEvent η) : Prop :=
  ∀ nodeId next, state.heartbeatOf event = some nodeId → state.step call event = some next →
    state.registry.SameBeside nodeId next.registry

/-- One store of a description: whose heartbeat it was fetched on, unless a caller gave it,
and the node it was stored under. -/
structure Store where
  fetchedFor : Option HashIdentifier
  storedUnder : HashIdentifier
  deriving DecidableEq

/-- A description whose version is not the recorded one is stored. -/
def recordStore (state : Discovery η ω) (event : DiscoveryEvent η) (stores : List Store) :
    List Store :=
  match state.delivered event with
  | some info =>
      if state.registry.Matches info.nodeID info.infoID then stores
      else { fetchedFor := state.heartbeatOf event, storedUnder := info.nodeID } :: stores
  | none => stores

/-- Every entry was stored, and what was fetched was stored under the node it was fetched for. -/
structure OwnReplies (state : Discovery η ω × List Store) : Prop where
  stored : ∀ nodeId, nodeId ∈ state.1.registry.nodesInfo →
    ∃ store ∈ state.2, store.storedUnder = nodeId
  own : ∀ store ∈ state.2, ∀ nodeId, store.fetchedFor = some nodeId →
    store.storedUnder = nodeId

/-- A reply names the node it was fetched for, or a node whose recorded version and last
heartbeat are the ones it brings. -/
def AnswersItself (state : Discovery η ω) (event : DiscoveryEvent η) : Prop :=
  ∀ nodeId info, state.heartbeatOf event = some nodeId → state.delivered event = some info →
    info.nodeID = nodeId ∨ (state.registry.Matches info.nodeID info.infoID ∧
      state.registry.nodesHeartbeat.lookup info.nodeID = some state.now)

instance (state : Discovery η ω) (event : DiscoveryEvent η) :
    Decidable (state.AnswersItself event) :=
  decidable_of_iff
    (∀ nodeId ∈ state.heartbeatOf event, ∀ info ∈ state.delivered event,
      info.nodeID = nodeId ∨ (state.registry.Matches info.nodeID info.infoID ∧
        state.registry.nodesHeartbeat.lookup info.nodeID = some state.now))
    ⟨fun holds nodeId info here delivers => holds nodeId here info delivers,
      fun holds nodeId here info delivers => holds nodeId info here delivers⟩

section Runs

variable {call : Call η ω} {state next : Discovery η ω} {event : DiscoveryEvent η}
  {stores : List Store}

/-- A step whose reply answers for its own node stores under the node it fetched for. -/
theorem own_step (own : ∀ store ∈ stores, ∀ nodeId, store.fetchedFor = some nodeId →
      store.storedUnder = nodeId)
    (answers : state.AnswersItself event) :
    ∀ store ∈ state.recordStore event stores, ∀ nodeId, store.fetchedFor = some nodeId →
      store.storedUnder = nodeId := by
  unfold recordStore
  split
  next info delivers =>
    split
    next => exact own
    next news =>
      intro store member nodeId here
      rcases List.mem_cons.1 member with rfl | before
      · rcases answers nodeId info here delivers with same | ⟨recorded, _⟩
        · exact same
        · exact absurd recorded news
      · exact own store before nodeId here
  next => exact own

/-- The end of a fetch leaves the other nodes alone exactly when the reply answers for
its own node. -/
theorem sameBeside_fetchEnds_iff (call : Call η ω) {index : Nat} {result : FetchResult}
    {message : HeartbeatMessage} {nodeIp : Text}
    (waiting : state.pending[index]? = some (message, nodeIp)) :
    state.registry.SameBeside message.nodeId ((handleHeartbeatResume call state.now message nodeIp
        result).after state.world).1.registry ↔
      state.AnswersItself (.fetchEnds index result) := by
  have fetched : state.heartbeatOf (.fetchEnds index result) = some message.nodeId := by
    simp only [heartbeatOf, waiting, Option.map_some]
  have left := registry_handleHeartbeatResume call state.now message nodeIp result state.world
  cases result with
  | raised | none =>
      rw [left]
      apply iff_of_true
      · exact Registry.sameBeside_refl _ _
      · intro nodeId info _ delivers
        cases delivers
  | value info =>
      rw [left]
      have delivers : state.delivered (.fetchEnds index (.value info)) =
          some { info with ip := nodeIp } := by
        simp only [delivered, waiting, Option.map_some]
      apply Registry.sameBeside_record_iff.trans
      constructor
      · intro answers nodeId given here gives
        cases fetched.symm.trans here
        cases delivers.symm.trans gives
        exact answers
      · intro answers
        exact answers _ _ fetched delivers

variable [DecidableEq η]

/-- A step of a heartbeat leaves the other nodes alone exactly when the reply it may
process answers for its own node. -/
theorem touchesOwnNode_iff (stepped : state.step call event = some next) :
    TouchesOwnNode call state event ↔ state.AnswersItself event := by
  cases stepCase_of_step stepped with
  | heard message nodeIp _ | fetches message nodeIp _ =>
      apply iff_of_true
      · intro nodeId reached here taken
        cases here
        cases stepped.symm.trans taken
        exact Registry.sameBeside_hear state.now message.nodeId state.registry
      · intro nodeId info _ delivers
        cases delivers
  | fetchEnds index result message nodeIp waiting =>
      apply Iff.trans _ (sameBeside_fetchEnds_iff call waiting)
      constructor
      · intro touches
        apply touches _ _ _ stepped
        simp only [heartbeatOf, waiting, Option.map_some]
      · intro same nodeId reached here taken
        simp only [heartbeatOf, waiting, Option.map_some, Option.some.injEq] at here
        cases stepped.symm.trans taken
        rw [← here]
        exact same
  | advance | sweeps | sweepRaises | monitorEnds | cancelMonitor | stopRunning | updateNode
  | removeNode | registerLocalService | registerLocalPublisher | registerNodeUpdateHandler
  | unregisterNodeUpdateHandler =>
      apply iff_of_true
      · intro nodeId reached here _
        cases here
      · intro nodeId info here _
        cases here

/-- Every entry of a step's outcome was stored by it or before it. -/
theorem stored_step (wellFormed : state.registry.WellFormed)
    (stored : ∀ nodeId, nodeId ∈ state.registry.nodesInfo →
      ∃ store ∈ stores, store.storedUnder = nodeId)
    (stepped : state.step call event = some next) :
    ∀ nodeId, nodeId ∈ next.registry.nodesInfo →
      ∃ store ∈ state.recordStore event stores, store.storedUnder = nodeId := by
  intro nodeId known
  rcases Dict.mem_iff_lookup.1 known with ⟨info, found⟩
  -- nothing is ever taken off the record
  have earlier : nodeId ∈ state.registry.nodesInfo →
      ∃ store ∈ state.recordStore event stores, store.storedUnder = nodeId := by
    intro before
    rcases stored nodeId before with ⟨store, member, here⟩
    refine ⟨store, ?_, here⟩
    unfold recordStore
    split
    next =>
      split
      next => exact member
      next => exact List.mem_cons_of_mem _ member
    next => exact member
  cases registryStep_of_step wellFormed stepped with
  | unchanged _ left | heard _ _ _ left =>
      rw [left] at found
      exact earlier (Dict.mem_of_lookup found)
  | recorded given delivers left =>
      rw [left] at found
      by_cases same : state.registry.Matches given.nodeID given.infoID
      · rw [Registry.record, if_pos same] at found
        exact earlier (Dict.mem_of_lookup found)
      · rcases Registry.lookup_record found with before | ⟨here, _⟩
        · exact earlier (Dict.mem_of_lookup before)
        · simp only [recordStore, delivers, if_neg same]
          exact ⟨_, List.mem_cons_self, here.symm⟩
  | dropped nodeIds _ left =>
      rw [left, Registry.lookup_dropAll] at found
      split at found
      next => cases found
      next => exact earlier (Dict.mem_of_lookup found)

variable (call) in
/-- Discovery of a node, with the stores of its run. -/
abbrev storing (start : Discovery η ω) : Machine (Discovery η ω × List Store) (DiscoveryEvent η) :=
  (machine call start).recording [] recordStore

/-- Along every run of a node, heartbeats change no entry of another node and every reply
is stored under the node it was fetched for, if and only if each reply names that node, or
one whose recorded version and last heartbeat are the ones it brings. -/
theorem ownReplies_iff (call : Call η ω) (localName localIp nodeID : Text) (outside : ω)
    (now : ℚ) {trace : List (DiscoveryEvent η)} {state : Discovery η ω × List Store}
    (run : (storing call (init localName localIp nodeID outside now)).exec trace = some state) :
    ((storing call (init localName localIp nodeID outside now)).StatesAlong OwnReplies trace ∧
      (storing call (init localName localIp nodeID outside now)).StepsAlong
        (fun state event => TouchesOwnNode call state.1 event) trace) ↔
      (storing call (init localName localIp nodeID outside now)).StepsAlong
        (fun state event => state.1.AnswersItself event) trace := by
  apply Machine.statesAlong_and_stepsAlong_iff _ _ run
  · constructor
    · intro nodeId known
      cases known
    · intro store member
      cases member
  · intro before event after reachable holds stepped
    have wellFormed := wellFormed_of_reachable
      (wellFormed_init localName localIp nodeID outside now)
      (Machine.reachable_of_recording reachable)
    rcases Machine.recording_step.1 stepped with ⟨taken, recorded⟩
    constructor
    · intro met
      exact (touchesOwnNode_iff taken).1 met.2
    · intro answers
      refine ⟨?_, (touchesOwnNode_iff taken).2 answers⟩
      constructor
      · rw [recorded]
        exact stored_step wellFormed holds.stored taken
      · rw [recorded]
        exact own_step holds.own answers

end Runs

/-- No handler is ever registered. -/
def noHandlers : Call Empty Unit := nofun

/-- A heartbeat of a node, and the description that is fetched on it. -/
def fetchOf (nodeId nodeIp : Text) (info : NodeInfo) : List (DiscoveryEvent Empty) :=
  [.heartbeat
      { zlcVersion := (0, 1, 0), nodeId := nodeId, infoId := info.infoID, servicePort := 7000,
        groupName := "zlc_default_group_name" } nodeIp,
    .fetchEnds 0 (.value info)]

/-- A node with one topic. -/
def talker (nodeId : Text) (infoID : Int) : NodeInfo where
  nodeID := nodeId
  infoID := infoID
  name := "talker"
  ip := ""
  topics := [{ name := "chatter", ip := "", port := 6000 }]
  services := []

theorem ownReplies_of_fetch :
    (storing noHandlers (init "viewer" "10.0.0.1" "a" () 0)).StatesAlong OwnReplies
        (fetchOf "c" "10.0.0.3" (talker "c" 1)) ∧
      (storing noHandlers (init "viewer" "10.0.0.1" "a" () 0)).StepsAlong
        (fun state event => TouchesOwnNode noHandlers state.1 event)
        (fetchOf "c" "10.0.0.3" (talker "c" 1)) := by
  have runs : ((storing noHandlers (init "viewer" "10.0.0.1" "a" () 0)).exec
      (fetchOf "c" "10.0.0.3" (talker "c" 1))).isSome = true := by
    decide +kernel
  rcases Option.isSome_iff_exists.1 runs with ⟨state, run⟩
  apply (ownReplies_iff noHandlers "viewer" "10.0.0.1" "a" () 0 run).2
  apply Machine.stepsAlong_of_stepsFrom
  decide +kernel

/-- Two nodes are heard, and the port of the second is listened on by the first. -/
def strangerRun : List (DiscoveryEvent Empty) :=
  fetchOf "c" "10.0.0.3" (talker "c" 1) ++ fetchOf "b" "10.0.0.2" (talker "c" 2)

theorem stranger_overwrites :
    ((machine noHandlers (init "viewer" "10.0.0.1" "a" () 0)).exec strangerRun).map
        (fun state => (state.registry.nodesInfo.lookup ("c" : Text)).map NodeInfo.ip) =
      some (some ("10.0.0.2" : Text)) ∧
    ¬ ((storing noHandlers (init "viewer" "10.0.0.1" "a" () 0)).StatesAlong OwnReplies strangerRun ∧
      (storing noHandlers (init "viewer" "10.0.0.1" "a" () 0)).StepsAlong
        (fun state event => TouchesOwnNode noHandlers state.1 event) strangerRun) := by
  constructor
  · decide +kernel
  · intro holds
    have fetched : ((storing noHandlers (init "viewer" "10.0.0.1" "a" () 0)).exec strangerRun).map
        Prod.snd = some [⟨some "b", "c"⟩, ⟨some "c", "c"⟩] := by
      decide +kernel
    rcases Option.map_eq_some_iff.1 fetched with ⟨state, run, stores⟩
    have own := (holds.1.last run).own ⟨some "b", "c"⟩
    rw [stores] at own
    exact absurd (own List.mem_cons_self "b" rfl) (by decide)

end Discovery

end Pyzlc
