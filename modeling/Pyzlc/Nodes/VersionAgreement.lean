import Pyzlc.Foundation.Versioned
import Pyzlc.Nodes.Pair

/-!
# Agreement between a node and its observers

The registering node changes its lists before it raises their version, and an answer
takes the version before the lists, so what an answer says under a version is what the
lists were under it.  The observer stores answers whole.  Hence an observer that finds
the current version recorded has nothing to fetch.
-/

namespace Pyzlc

open Foundation

/-- What a socket is known by besides its address. -/
def SocketInfo.advertised (socket : SocketInfo) : Text × Int := (socket.name, socket.port)

/-- The topics and services of a node, in order, by names and ports. -/
def advertisedOf (sockets : List SocketInfo × List SocketInfo) :
    List (Text × Int) × List (Text × Int) :=
  (sockets.1.map SocketInfo.advertised, sockets.2.map SocketInfo.advertised)

def NodeInfo.advertised (info : NodeInfo) : List (Text × Int) × List (Text × Int) :=
  advertisedOf (info.topics, info.services)

/-- Rewriting the addresses of a description changes nothing it advertises. -/
@[simp] theorem NodeInfo.advertised_bindSockets (info : NodeInfo) :
    info.bindSockets.advertised = info.advertised := by
  simp [advertised, advertisedOf, bindSockets, SocketInfo.advertised, Function.comp_def]

namespace Pair

open NodesInfoManager Discovery

variable {η ω : Type}

/-! ## What the answers know -/

/-- The lists of the registering node, under its version. -/
def published (pair : Pair η ω) : Versioned (List SocketInfo × List SocketInfo) where
  data := (pair.info.topics, pair.info.services)
  version := pair.info.infoID
  changing := pair.registering.isSome

/-- What a reading under way has seen. -/
def SnapshotGenuine (published : Versioned (List SocketInfo × List SocketInfo)) :
    Snapshot → Prop
  | .infoIdRead infoId => infoId ≤ published.version
  | .topicsRead infoId topics => published.Observed Prod.fst infoId topics

/-- A description says what the lists were under its version. -/
def Genuine (published : Versioned (List SocketInfo × List SocketInfo)) (info : NodeInfo) : Prop :=
  published.Observed advertisedOf info.infoID info.advertised

/-- Every reading, every answer and the observer's description are genuine. -/
structure Agreed (nodeId : HashIdentifier) (pair : Pair η ω) : Prop where
  writerFormed : pair.writer.registry.WellFormed
  observerFormed : pair.observer.registry.WellFormed
  identity : pair.info.nodeID = nodeId
  version_nonneg : 0 ≤ pair.info.infoID
  snapshots : ∀ snapshot ∈ pair.snapshots, SnapshotGenuine pair.published snapshot
  replies : ∀ reply ∈ pair.replies, Genuine pair.published reply
  stored : ∀ info, pair.observer.registry.nodesInfo.lookup nodeId = some info →
    Genuine pair.published info

/-- The three ways a step can change the lists and their version. -/
inductive PublishedStep (pair next : Pair η ω) : Prop where
  | unchanged (left : next.published = pair.published)
  | change (data : List SocketInfo × List SocketInfo)
      (left : next.published = pair.published.change data)
  | publish (left : next.published = pair.published.publish)

/-- Observations survive every change of the lists and their version. -/
theorem PublishedStep.observed {pair next : Pair η ω} (change : PublishedStep pair next)
    {β : Type} {read : List SocketInfo × List SocketInfo → β} {version : Int} {value : β}
    (observed : pair.published.Observed read version value) :
    next.published.Observed read version value := by
  cases change with
  | unchanged left =>
      rw [left]
      exact observed
  | change data left =>
      rw [left]
      exact observed.change data
  | publish left =>
      rw [left]
      exact observed.publish

theorem PublishedStep.version_le {pair next : Pair η ω} (change : PublishedStep pair next) :
    pair.published.version ≤ next.published.version := by
  cases change with
  | unchanged left => rw [left]
  | change data left =>
      rw [left]
      exact le_rfl
  | publish left =>
      rw [left]
      exact Int.le_add_one le_rfl

theorem PublishedStep.snapshotGenuine {pair next : Pair η ω} (change : PublishedStep pair next)
    {snapshot : Snapshot} (genuine : SnapshotGenuine pair.published snapshot) :
    SnapshotGenuine next.published snapshot := by
  cases snapshot with
  | infoIdRead infoId => exact le_trans genuine change.version_le
  | topicsRead infoId topics => exact change.observed genuine

/-- A step of the registering node that changes its lists in one of the three ways. -/
theorem Agreed.writer_moves {nodeId : HashIdentifier} {pair next : Pair η ω}
    (agreed : Agreed nodeId pair) (change : PublishedStep pair next)
    (writerFormed : next.writer.registry.WellFormed)
    (identity : next.info.nodeID = pair.info.nodeID)
    (snapshots : next.snapshots = pair.snapshots) (replies : next.replies = pair.replies)
    (observer : next.observer = pair.observer) : Agreed nodeId next where
  writerFormed := writerFormed
  observerFormed := by
    rw [observer]
    exact agreed.observerFormed
  identity := identity.trans agreed.identity
  version_nonneg := agreed.version_nonneg.trans change.version_le
  snapshots := by
    rw [snapshots]
    intro snapshot member
    exact change.snapshotGenuine (agreed.snapshots snapshot member)
  replies := by
    rw [replies]
    intro reply member
    exact change.observed (agreed.replies reply member)
  stored := by
    rw [observer]
    intro info found
    exact change.observed (agreed.stored info found)

/-! ## What each step preserves -/

theorem Agreed.beginService {nodeId : HashIdentifier} {pair : Pair η ω}
    (agreed : Agreed nodeId pair) (serviceName : Text) (port : Int) :
    Agreed nodeId (pair.beginService serviceName port) := by
  unfold Pair.beginService
  simp only
  split
  next => exact agreed
  next =>
    refine agreed.writer_moves ?_ agreed.writerFormed rfl rfl rfl rfl
    exact PublishedStep.change (pair.info.topics, pair.info.services ++
      [{ name := serviceName, ip := pair.info.ip, port := port }]) rfl

theorem Agreed.beginPublisher {nodeId : HashIdentifier} {pair : Pair η ω}
    (agreed : Agreed nodeId pair) (topicName : Text) (port : Int) :
    Agreed nodeId (pair.beginPublisher topicName port) := by
  refine agreed.writer_moves ?_ agreed.writerFormed rfl rfl rfl rfl
  exact PublishedStep.change (pair.info.topics ++
    [{ name := topicName, ip := pair.info.ip, port := port }], pair.info.services) rfl

/-- Finishing a publisher raises the version and then only runs handlers. -/
theorem after_finishPublisher (call : Call η ω) (world : World η ω) :
    EventsOnly (bumpInfoId world.1, world.2) ((finishPublisher call).after world) := by
  unfold finishPublisher
  rw [Action.after_bind_of_ok (run_onManager_modify _ world)]
  apply Action.guarantees_bind eventsOnly_trans
  · exact Action.guarantees_get eventsOnly_refl
  · intro current
    exact guarantees_emitUpdate call "*" current.1.localNodeInfo

theorem Agreed.finishRegistration {nodeId : HashIdentifier} {pair : Pair η ω}
    (agreed : Agreed nodeId pair) (call : Call η ω) (registration : Registration) :
    Agreed nodeId (pair.finishRegistration call registration) := by
  cases registration with
  | service =>
      refine agreed.writer_moves ?_ agreed.writerFormed rfl rfl rfl rfl
      exact PublishedStep.publish rfl
  | publisher =>
      have onlyEvents := after_finishPublisher call pair.writer.world
      have description := onlyEvents.localNodeInfo
      refine agreed.writer_moves ?_ ?_ ?_ rfl rfl rfl
      · apply PublishedStep.publish
        simp only [published, info, Pair.finishRegistration, manager, description]
        rfl
      · have same := onlyEvents.registry
        rw [show (pair.finishRegistration call .publisher).writer.registry =
          ((finishPublisher call).after pair.writer.world).1.registry from rfl, same]
        exact agreed.writerFormed
      · rw [show (pair.finishRegistration call .publisher).info =
          ((finishPublisher call).after pair.writer.world).1.localNodeInfo from rfl, description]
        rfl

/-- A step of the registering node other than a registration leaves its lists alone. -/
theorem Agreed.writerStep [DecidableEq η] {nodeId : HashIdentifier} {pair : Pair η ω}
    (agreed : Agreed nodeId pair) {call : Call η ω} {event : DiscoveryEvent η}
    {writer : Discovery η ω} (quiet : registers event = false)
    (stepped : pair.writer.step call event = some writer) :
    Agreed nodeId { pair with writer := writer } := by
  have description := localNodeInfo_step agreed.writerFormed quiet stepped
  refine agreed.writer_moves ?_ ?_ ?_ rfl rfl rfl
  · apply PublishedStep.unchanged
    simp only [published, info, description]
  · exact (registryStep_of_step agreed.writerFormed stepped).wellFormed agreed.writerFormed
  · exact congrArg NodeInfo.nodeID description

theorem Agreed.readInfoId {nodeId : HashIdentifier} {pair : Pair η ω}
    (agreed : Agreed nodeId pair) :
    Agreed nodeId { pair with
      snapshots := pair.snapshots ++ [.infoIdRead pair.info.infoID] } where
  writerFormed := agreed.writerFormed
  observerFormed := agreed.observerFormed
  identity := agreed.identity
  version_nonneg := agreed.version_nonneg
  snapshots := by
    intro snapshot member
    rcases List.mem_append.1 member with before | last
    · exact agreed.snapshots snapshot before
    · rw [List.mem_singleton.1 last]
      exact le_rfl
  replies := agreed.replies
  stored := agreed.stored

theorem Agreed.readTopics {nodeId : HashIdentifier} {pair : Pair η ω}
    (agreed : Agreed nodeId pair) {index : Nat} {infoId : Int}
    (reading : pair.snapshots[index]? = some (.infoIdRead infoId)) :
    Agreed nodeId { pair with
      snapshots := pair.snapshots.set index (.topicsRead infoId pair.info.topics) } where
  writerFormed := agreed.writerFormed
  observerFormed := agreed.observerFormed
  identity := agreed.identity
  version_nonneg := agreed.version_nonneg
  snapshots := by
    intro snapshot member
    rcases List.mem_or_eq_of_mem_set member with before | here
    · exact agreed.snapshots snapshot before
    · rw [here]
      exact Versioned.observed_read Prod.fst
        (agreed.snapshots _ (List.mem_of_getElem? reading))
  replies := agreed.replies
  stored := agreed.stored

theorem Agreed.readServices {nodeId : HashIdentifier} {pair : Pair η ω}
    (agreed : Agreed nodeId pair) {index : Nat} {infoId : Int} {topics : List SocketInfo}
    (reading : pair.snapshots[index]? = some (.topicsRead infoId topics)) :
    Agreed nodeId { pair with
      snapshots := pair.snapshots.eraseIdx index
      replies := pair.replies ++ [{ pair.info with infoID := infoId, topics := topics }] } where
  writerFormed := agreed.writerFormed
  observerFormed := agreed.observerFormed
  identity := agreed.identity
  version_nonneg := agreed.version_nonneg
  snapshots := by
    intro snapshot member
    exact agreed.snapshots snapshot (List.mem_of_mem_eraseIdx member)
  replies := by
    intro reply member
    rcases List.mem_append.1 member with before | last
    · exact agreed.replies reply before
    · rw [List.mem_singleton.1 last]
      have topicsRead : pair.published.Observed Prod.fst infoId topics :=
        agreed.snapshots _ (List.mem_of_getElem? reading)
      have servicesRead := Versioned.observed_read Prod.snd topicsRead.past
      exact (topicsRead.prod servicesRead).map advertisedOf
  stored := agreed.stored

/-- What the network delivers about the registering node is genuine. -/
theorem Agreed.genuine_of_delivered {nodeId : HashIdentifier} {pair : Pair η ω}
    (agreed : Agreed nodeId pair) {event : DiscoveryEvent η} {given : NodeInfo}
    (network : pair.fromNetwork event = true)
    (delivers : pair.observer.delivered event = some given) (same : given.nodeID = nodeId) :
    Genuine pair.published given := by
  cases event with
  | fetchEnds index result =>
      cases result with
      | value reply =>
          rcases Option.map_eq_some_iff.1 delivers with ⟨request, _, rewritten⟩
          have sameReply : reply.nodeID = nodeId := by
            rw [← same, ← rewritten]
          simp only [fromNetwork, Bool.or_eq_true, decide_eq_true_eq] at network
          rcases network with foreign | known
          · exact absurd (sameReply.trans agreed.identity.symm) foreign
          · rw [← rewritten]
            exact agreed.replies reply known
      | none => cases delivers
      | raised => cases delivers
  | updateNode info =>
      cases delivers
      simp only [fromNetwork, decide_eq_true_eq] at network
      exact absurd (same.trans agreed.identity.symm) network
  | heartbeat | advance | sweep | cancelMonitor | stopRunning | removeNode
  | registerLocalService | registerLocalPublisher | registerNodeUpdateHandler
  | unregisterNodeUpdateHandler => cases delivers

theorem Agreed.observerStep [DecidableEq η] {nodeId : HashIdentifier} {pair : Pair η ω}
    (agreed : Agreed nodeId pair) {call : Call η ω} {event : DiscoveryEvent η}
    {observer : Discovery η ω} (network : pair.fromNetwork event = true)
    (stepped : pair.observer.step call event = some observer) :
    Agreed nodeId { pair with observer := observer } where
  writerFormed := agreed.writerFormed
  observerFormed :=
    (registryStep_of_step agreed.observerFormed stepped).wellFormed agreed.observerFormed
  identity := agreed.identity
  version_nonneg := agreed.version_nonneg
  snapshots := agreed.snapshots
  replies := agreed.replies
  stored := by
    intro info found
    cases registryStep_of_step agreed.observerFormed stepped with
    | unchanged _ left =>
        rw [left] at found
        exact agreed.stored info found
    | heard _ _ _ left =>
        rw [left] at found
        exact agreed.stored info found
    | recorded given delivers left =>
        rw [left] at found
        rcases Registry.lookup_record found with old | ⟨here, arrived⟩
        · exact agreed.stored info old
        · have genuine := agreed.genuine_of_delivered network delivers here.symm
          rw [Genuine, arrived, NodeInfo.advertised_bindSockets]
          exact genuine
    | dropped nodeIds _ left =>
        rw [left, Registry.lookup_dropAll] at found
        split at found
        next => cases found
        next => exact agreed.stored info found

/-- The step lemma of the agreement. -/
theorem Agreed.step [DecidableEq η] {nodeId : HashIdentifier} {call : Call η ω}
    {pair next : Pair η ω} {event : PairEvent η} (agreed : Agreed nodeId pair)
    (stepped : pair.step call event = some next) : Agreed nodeId next := by
  cases event with
  | beginService serviceName port =>
      simp only [Pair.step] at stepped
      split at stepped
      next =>
        cases stepped
        exact agreed.beginService serviceName port
      next => cases stepped
  | beginPublisher topicName port =>
      simp only [Pair.step] at stepped
      split at stepped
      next =>
        cases stepped
        exact agreed.beginPublisher topicName port
      next => cases stepped
  | finishRegistration =>
      rcases Option.map_eq_some_iff.1 stepped with ⟨registration, _, rfl⟩
      exact agreed.finishRegistration call registration
  | readInfoId =>
      cases stepped
      exact agreed.readInfoId
  | readTopics index =>
      simp only [Pair.step] at stepped
      split at stepped
      next reading =>
        cases stepped
        exact agreed.readTopics reading
      next => cases stepped
  | readServices index =>
      simp only [Pair.step] at stepped
      split at stepped
      next reading =>
        cases stepped
        exact agreed.readServices reading
      next => cases stepped
  | writerStep event =>
      simp only [Pair.step] at stepped
      split at stepped
      next quiet =>
        rcases Option.map_eq_some_iff.1 stepped with ⟨writer, moved, rfl⟩
        exact agreed.writerStep quiet moved
      next => cases stepped
  | observerStep event =>
      simp only [Pair.step] at stepped
      split at stepped
      next network =>
        rcases Option.map_eq_some_iff.1 stepped with ⟨observer, moved, rfl⟩
        exact agreed.observerStep network moved
      next => cases stepped

/-- Two fresh nodes agree. -/
theorem agreed_start [DecidableEq η] (call : Call η ω) (writerName writerIp writerId : Text)
    (writerOutside : ω) (writerNow : ℚ) (observerName observerIp observerId : Text)
    (observerOutside : ω) (observerNow : ℚ) :
    Agreed writerId (machine call (init writerName writerIp writerId writerOutside writerNow)
      (init observerName observerIp observerId observerOutside observerNow)).start where
  writerFormed := wellFormed_init writerName writerIp writerId writerOutside writerNow
  observerFormed := wellFormed_init observerName observerIp observerId observerOutside observerNow
  identity := rfl
  version_nonneg := le_rfl
  snapshots := by
    intro snapshot member
    cases member
  replies := by
    intro reply member
    cases member
  stored := by
    intro info found
    cases found

/-- If the observer's version is the current one and no registration is half done, the
observer knows exactly the topics and services registered so far. -/
theorem checkInfo_agrees [DecidableEq η] (call : Call η ω)
    (writerName writerIp writerId : Text) (writerOutside : ω) (writerNow : ℚ)
    (observerName observerIp observerId : Text) (observerOutside : ω) (observerNow : ℚ)
    (trace : List (PairEvent η)) (pair : Pair η ω)
    (run : (machine call (init writerName writerIp writerId writerOutside writerNow)
      (init observerName observerIp observerId observerOutside observerNow)).exec trace =
        some pair)
    (settled : pair.registering = none)
    (matching : pair.observer.manager.checkInfo writerId pair.info.infoID = true) :
    ∃ info, pair.observer.manager.nodesInfo.lookup writerId = some info ∧
      info.topics.map SocketInfo.advertised = pair.info.topics.map SocketInfo.advertised ∧
      info.services.map SocketInfo.advertised = pair.info.services.map SocketInfo.advertised := by
  have agreed : Agreed writerId pair := by
    apply Machine.Reachable.invariant _ _ (Machine.reachable_of_exec run)
    · exact agreed_start call writerName writerIp writerId writerOutside writerNow
        observerName observerIp observerId observerOutside observerNow
    · intro before event after _ holds stepped
      exact holds.step stepped
  have known : pair.observer.registry.nodesInfoId.lookup writerId = some pair.info.infoID := by
    have version := checkInfo_eq_true.1 matching
    have nonneg := agreed.version_nonneg
    rw [Registry.Matches] at version
    cases found : pair.observer.registry.nodesInfoId.lookup writerId with
    | none =>
        rw [show pair.observer.manager.registry = pair.observer.registry from rfl, found] at version
        rw [← version] at nonneg
        exact absurd nonneg (by decide)
    | some recorded =>
        rw [show pair.observer.manager.registry = pair.observer.registry from rfl, found] at version
        exact congrArg some version
  have present := (agreed.observerFormed.sameKeys writerId).2 (Dict.mem_of_lookup known)
  rcases Dict.mem_iff_lookup.1 present with ⟨info, found⟩
  have versioned := agreed.observerFormed.versioned writerId info found
  have sameVersion : info.infoID = pair.published.version :=
    Option.some.inj (versioned.symm.trans known)
  have same := (agreed.stored info found).current sameVersion (by rw [published, settled]; rfl)
  exact ⟨info, found, congrArg Prod.fst same, congrArg Prod.snd same⟩

/-- A publisher is registered, the description read, and the answer delivered. -/
def announcedRun : List (PairEvent Empty) :=
  [.beginPublisher "image" 7001, .finishRegistration, .readInfoId, .readTopics 0, .readServices 0,
    .observerStep (.heartbeat
      { zlcVersion := (0, 1, 0), nodeId := "w", infoId := 1, servicePort := 7000,
        groupName := "zlc_default_group_name" } "10.0.0.2"),
    .observerStep (.fetchEnds 0 (.value {
      nodeID := "w", infoID := 1, name := "camera", ip := "10.0.0.2", services := []
      topics := [{ name := "image", ip := "10.0.0.2", port := 7001 }] }))]

theorem checkInfo_agrees_announcedRun :
    ∃ pair, (machine nofun (init "camera" "10.0.0.2" "w" () 0)
        (init "viewer" "10.0.0.1" "o" () 0)).exec announcedRun = some pair ∧
      ∃ info : NodeInfo, pair.observer.manager.nodesInfo.lookup (Text.ofString "w") = some info ∧
        info.topics.map SocketInfo.advertised = [(Text.ofString "image", 7001)] := by
  refine ⟨_, rfl, ?_⟩
  rcases checkInfo_agrees nofun "camera" "10.0.0.2" "w" () 0 "viewer" "10.0.0.1" "o" () 0
    announcedRun _ rfl rfl (by decide) with ⟨info, found, topics, _⟩
  exact ⟨info, found, topics⟩

end Pair

end Pyzlc
