import Pyzlc.Sockets.Subscriptions

/-!
# Subscribers and publishers that are gone

A subscriber takes every message of the addresses it is connected to, whatever their topic.
It never lets go of an address, while updates and removals take publishers out of the
registry; its addresses stay those of publishers of its topic exactly as long as no
operation takes out the last publisher of a topic at an address that is held.
-/

namespace Pyzlc

open Foundation

namespace SubscriberManager

open NodesInfoManager

/-- A URL is the address of a publisher, for some answer of the file system. -/
def AddressOf (manager : SubscriberManager) (info : SocketInfo) (url : Text) : Prop :=
  ∃ pathExists, url = manager.getConnectUrl (.accepting pathExists) info

/-- Every address of a subscriber is that of a known publisher of its topic. -/
def Isolated (node : Node) : Prop :=
  ∀ topicName subscriber, node.2.subscriberDict.lookup topicName = some subscriber →
    ∀ url ∈ subscriber.subUrls,
      ∃ info ∈ node.1.getPublisherInfo topicName, AddressOf node.2 info url

/-- A publisher of a topic that is known from other sources than the description of one
node. -/
def KnownBeside (manager : NodesInfoManager UpdateHandler) (nodeId : HashIdentifier)
    (topicName : TopicName) (info : SocketInfo) : Prop :=
  info.name = topicName ∧
    (info ∈ manager.localNodeInfo.topics ∨
      ∃ other stored, other ≠ nodeId ∧ manager.nodesInfo.lookup other = some stored ∧
        info ∈ stored.topics)

/-- Every address that is held survives the replacement of the sockets of a node: it belongs
to a publisher of the topic known from elsewhere, or among the new sockets. -/
def Survives (node : Node) (nodeId : HashIdentifier) (sockets : List SocketInfo) : Prop :=
  ∀ topicName subscriber, node.2.subscriberDict.lookup topicName = some subscriber →
    ∀ url ∈ subscriber.subUrls, ∃ info,
      (KnownBeside node.1 nodeId topicName info ∨ info.name = topicName ∧ info ∈ sockets) ∧
        AddressOf node.2 info url

/-- The announced sockets of subscribed topics have addresses of known publishers. -/
def AnnouncesKnown (node : Node) (pathExists : Text → Bool) (sockets : List SocketInfo) : Prop :=
  ∀ topic ∈ sockets, topic.name ∈ node.2.subscriberDict →
    ∃ info ∈ node.1.getPublisherInfo topic.name,
      AddressOf node.2 info (node.2.getConnectUrl (.accepting pathExists) topic)

/-- The operation leaves every address that is held to a known publisher of the topic.  An
update whose version is recorded stores nothing, and is announced all the same. -/
def KeepsPublishers (node : Node) : SubscriptionEvent → Prop
  | .updateNode _ info pathExists =>
      (node.1.checkInfo info.nodeID info.infoID = true →
        AnnouncesKnown node pathExists info.bindSockets.topics) ∧
      (node.1.checkInfo info.nodeID info.infoID = false →
        Survives node info.nodeID info.bindSockets.topics)
  | .removeNode nodeId => Survives node nodeId []
  | _ => True

/-! ## The publishers an operation leaves -/

theorem nodesInfo_after_removeNode (manager : NodesInfoManager UpdateHandler)
    (nodeId other : HashIdentifier) :
    ((removeNode nodeId).after manager).nodesInfo.lookup other =
      if other = nodeId then none else manager.nodesInfo.lookup other := by
  by_cases known : nodeId ∈ manager.nodesInfo
  · -- the two later pops leave the descriptions alone, whether they raise or not
    have trans : ∀ first second third : NodesInfoManager UpdateHandler,
        second.nodesInfo = first.nodesInfo → third.nodesInfo = second.nodesInfo →
        third.nodesInfo = first.nodesInfo := fun _ _ _ left right => right.trans left
    have pops : Action.Guarantees
        (fun before after : NodesInfoManager UpdateHandler => after.nodesInfo = before.nodesInfo)
        (do
          Action.zoom nodesInfoId (fun dict manager => { manager with nodesInfoId := dict })
            (popKey nodeId)
          Action.zoom nodesHeartbeat
            (fun dict manager => { manager with nodesHeartbeat := dict }) (popKey nodeId)) := by
      apply Action.guarantees_bind trans
      · exact Action.guarantees_zoom (guarantees_popKey nodeId) fun _ _ _ => rfl
      · intro _
        exact Action.guarantees_zoom (guarantees_popKey nodeId) fun _ _ _ => rfl
    unfold removeNode
    rw [Action.after_bind_of_ok (Action.run_zoom_of_ok (popKey_of_mem known)), pops,
      Dict.lookup_erase]
  · rw [Action.after_of_error (removeNode_of_unknown known)]
    by_cases same : other = nodeId
    · rw [if_pos same, same]
      exact AList.lookup_eq_none.2 known
    · rw [if_neg same]

/-- The publishers of a topic after a description has been replaced. -/
theorem mem_getPublisherInfo_of_replaced {before after : NodesInfoManager UpdateHandler}
    {nodeId : HashIdentifier} {replacement : Option NodeInfo}
    (localInfo : after.localNodeInfo = before.localNodeInfo)
    (nodes : ∀ other, after.nodesInfo.lookup other =
      if other = nodeId then replacement else before.nodesInfo.lookup other)
    {topicName : TopicName} {info : SocketInfo} :
    info ∈ after.getPublisherInfo topicName ↔
      KnownBeside before nodeId topicName info ∨
        info.name = topicName ∧ ∃ stored, replacement = some stored ∧ info ∈ stored.topics := by
  rw [mem_getPublisherInfo, localInfo]
  constructor
  · intro known
    rcases known with ⟨named, other, stored, found, member⟩ | ⟨named, member⟩
    · rw [nodes] at found
      by_cases same : other = nodeId
      · rw [if_pos same] at found
        exact Or.inr ⟨named, stored, found, member⟩
      · rw [if_neg same] at found
        exact Or.inl ⟨named, Or.inr ⟨other, stored, same, found, member⟩⟩
    · exact Or.inl ⟨named, Or.inl member⟩
  · intro known
    rcases known with ⟨named, member | ⟨other, stored, different, found, member⟩⟩ |
      ⟨named, stored, found, member⟩
    · exact Or.inr ⟨named, member⟩
    · refine Or.inl ⟨named, other, stored, ?_, member⟩
      rw [nodes, if_neg different]
      exact found
    · refine Or.inl ⟨named, nodeId, stored, ?_, member⟩
      rw [nodes, if_pos rfl]
      exact found

theorem mem_getPublisherInfo_removeNode {manager : NodesInfoManager UpdateHandler}
    {nodeId : HashIdentifier} {topicName : TopicName} {info : SocketInfo} :
    info ∈ (registering manager (.removeNode nodeId)).getPublisherInfo topicName ↔
      KnownBeside manager nodeId topicName info ∨ info.name = topicName ∧ info ∈ [] := by
  have localInfo := (forgets_removeNode nodeId manager).2.1
  rw [registering,
    mem_getPublisherInfo_of_replaced localInfo (nodesInfo_after_removeNode manager nodeId)]
  simp

theorem mem_getPublisherInfo_updateNode {manager : NodesInfoManager UpdateHandler} {now : ℚ}
    {update : NodeInfo} {pathExists : Text → Bool}
    (news : manager.checkInfo update.nodeID update.infoID = false) {topicName : TopicName}
    {info : SocketInfo} :
    info ∈ (registering manager (.updateNode now update pathExists)).getPublisherInfo topicName ↔
      KnownBeside manager update.nodeID topicName info ∨
        info.name = topicName ∧ info ∈ update.bindSockets.topics := by
  have stored : (registering manager (.updateNode now update pathExists)).nodesInfo =
      Dict.set manager.nodesInfo update.nodeID update.bindSockets := by
    simp [registering, recordUpdate, news]
  have localInfo : (registering manager (.updateNode now update pathExists)).localNodeInfo =
      manager.localNodeInfo := by
    simp [registering, recordUpdate, news]
  have nodes : ∀ other,
      (registering manager (.updateNode now update pathExists)).nodesInfo.lookup other =
        if other = update.nodeID then some update.bindSockets
        else manager.nodesInfo.lookup other := by
    intro other
    rw [stored, Dict.lookup_set]
  rw [mem_getPublisherInfo_of_replaced localInfo nodes]
  simp

theorem getPublisherInfo_updateNode_of_recorded {manager : NodesInfoManager UpdateHandler}
    {now : ℚ} {update : NodeInfo} {pathExists : Text → Bool}
    (recorded : manager.checkInfo update.nodeID update.infoID = true) (topicName : TopicName) :
    (registering manager (.updateNode now update pathExists)).getPublisherInfo topicName =
      manager.getPublisherInfo topicName := by
  simp [registering, recordUpdate, recorded, getPublisherInfo]

/-- A local publisher adds to the known ones. -/
theorem mem_getPublisherInfo_registerLocalPublisher {manager : NodesInfoManager UpdateHandler}
    {registered topicName : TopicName} {port : Int} {pathExists : Text → Bool} {info : SocketInfo}
    (known : info ∈ manager.getPublisherInfo topicName) :
    info ∈ (registering manager
      (.registerLocalPublisher registered port pathExists)).getPublisherInfo topicName := by
  rcases mem_getPublisherInfo.1 known with remote | ⟨named, member⟩
  · exact mem_getPublisherInfo.2 (Or.inl remote)
  · exact mem_getPublisherInfo.2 (Or.inr ⟨named, List.mem_append_left _ member⟩)

/-! ## One operation -/

theorem addressOf_iff_of_step {node next : Node} {event : SubscriptionEvent}
    (stepped : NodeStep node event next) {info : SocketInfo} {url : Text} :
    AddressOf next.2 info url ↔ AddressOf node.2 info url := by
  simp only [AddressOf, stepped.getConnectUrl]

/-- Isolation after an operation, in terms of the subscribers and addresses before it. -/
theorem isolated_next_iff {node next : Node} {event : SubscriptionEvent}
    (stepped : NodeStep node event next) :
    Isolated next ↔ ∀ topicName origin, startingFrom node topicName event = some origin →
      ∀ url, ConnectUrl (.accepting event.pathExists) (lookedUp node.1 topicName event) node.2
          topicName url ∨ url ∈ origin.subUrls →
        ∃ info ∈ (registering node.1 event).getPublisherInfo topicName,
          AddressOf node.2 info url := by
  constructor
  · intro isolated topicName origin starting url held
    rcases stepped.connected starting with ⟨subscriber, reached, gains⟩
    rcases isolated topicName subscriber reached url ((gains.urls url).2 held) with
      ⟨info, known, address⟩
    rw [stepped.manager] at known
    exact ⟨info, known, (addressOf_iff_of_step stepped).1 address⟩
  · intro held topicName subscriber found url member
    rcases stepped.origin found with ⟨origin, starting, gains⟩
    rcases held topicName origin starting url ((gains.urls url).1 member) with
      ⟨info, known, address⟩
    rw [← stepped.manager] at known
    exact ⟨info, known, (addressOf_iff_of_step stepped).2 address⟩

/-- An address connected for a known publisher is that of a known publisher. -/
theorem address_of_connectUrl {host : Text → Bool} {sockets known : List SocketInfo}
    {manager : SubscriberManager} {topicName : TopicName} {url : Text}
    (connect : ConnectUrl (.accepting host) sockets manager topicName url)
    (within : ∀ info ∈ sockets, info.name = topicName → info ∈ known) :
    ∃ info ∈ known, AddressOf manager info url := by
  rcases connect with ⟨info, member, named, rfl⟩
  exact ⟨info, within info member named, host, rfl⟩

/-- Where the sockets of a node are replaced and the new ones announced, the addresses stay
with known publishers exactly if those that are held survive. -/
theorem survives_iff {node : Node} {nodeId : HashIdentifier} {sockets announced : List SocketInfo}
    {host : Text → Bool} {known : TopicName → List SocketInfo}
    (left : ∀ topicName info, info ∈ known topicName ↔
      KnownBeside node.1 nodeId topicName info ∨ info.name = topicName ∧ info ∈ sockets)
    (within : ∀ info ∈ announced, info ∈ sockets) :
    (∀ topicName origin, node.2.subscriberDict.lookup topicName = some origin →
      ∀ url, ConnectUrl (.accepting host) announced node.2 topicName url ∨ url ∈ origin.subUrls →
        ∃ info ∈ known topicName, AddressOf node.2 info url) ↔
      Survives node nodeId sockets := by
  constructor
  · intro kept topicName subscriber found url member
    rcases kept topicName subscriber found url (Or.inr member) with ⟨info, publisher, address⟩
    exact ⟨info, (left topicName info).1 publisher, address⟩
  · intro survives topicName origin starting url held
    rcases held with connect | member
    · apply address_of_connectUrl connect
      intro info found named
      exact (left topicName info).2 (Or.inr ⟨named, within info found⟩)
    · rcases survives topicName origin starting url member with ⟨info, publisher, address⟩
      exact ⟨info, (left topicName info).2 publisher, address⟩

/-- Addresses stay with publishers over an operation exactly if it leaves them publishers. -/
theorem isolated_step_iff {node next : Node} {event : SubscriptionEvent}
    (stepped : NodeStep node event next) (isolated : Isolated node) :
    Isolated next ↔ KeepsPublishers node event := by
  rw [isolated_next_iff stepped]
  cases event with
  | addSubscriber added pathExists =>
      refine ⟨fun _ => trivial, ?_⟩
      intro _ topicName origin starting url held
      rcases held with connect | member
      · apply address_of_connectUrl connect
        intro info found _
        rw [lookedUp] at found
        by_cases same : topicName = added
        · rw [if_pos same] at found
          exact found
        · rw [if_neg same] at found
          cases found
      · rw [startingFrom] at starting
        by_cases same : topicName = added
        · rw [if_pos same] at starting
          cases starting
          cases member
        · rw [if_neg same] at starting
          exact isolated topicName origin starting url member
  | registerLocalPublisher registered port pathExists =>
      refine ⟨fun _ => trivial, ?_⟩
      intro _ topicName origin starting url held
      rcases held with connect | member
      · apply address_of_connectUrl connect
        intro info found named
        exact mem_getPublisherInfo.2 (Or.inr ⟨named, found⟩)
      · rcases isolated topicName origin starting url member with ⟨info, known, address⟩
        exact ⟨info, mem_getPublisherInfo_registerLocalPublisher known, address⟩
  | updateNode now update pathExists =>
      cases recorded : node.1.checkInfo update.nodeID update.infoID with
      | true =>
          simp only [getPublisherInfo_updateNode_of_recorded recorded, KeepsPublishers, recorded,
            forall_const, reduceCtorEq, IsEmpty.forall_iff, and_true]
          constructor
          · intro kept topic announced subscribed
            rcases Dict.mem_iff_lookup.1 subscribed with ⟨subscriber, found⟩
            exact kept topic.name subscriber found _ (Or.inl ⟨topic, announced, rfl, rfl⟩)
          · intro known topicName origin starting url held
            rcases held with connect | member
            · rcases connect with ⟨topic, announced, rfl, rfl⟩
              exact known topic announced (Dict.mem_of_lookup starting)
            · exact isolated topicName origin starting url member
      | false =>
          simp only [KeepsPublishers, recorded, reduceCtorEq, IsEmpty.forall_iff, true_and,
            forall_const]
          apply survives_iff
          · intro topicName info
            exact mem_getPublisherInfo_updateNode recorded
          · exact fun info announced => announced
  | removeNode nodeId =>
      apply survives_iff
      · intro topicName info
        exact mem_getPublisherInfo_removeNode
      · exact fun info announced => announced

/-! ## Runs -/

/-- Subscribers stay with publishers of their topic along a run if and only if every
operation of it leaves the addresses they hold to such publishers. -/
theorem isolated_iff (localName localIp nodeID groupName : Text)
    (trace : List SubscriptionEvent) :
    (machine localName localIp nodeID groupName).StatesAlong Isolated trace ↔
      (machine localName localIp nodeID groupName).StepsAlong KeepsPublishers trace := by
  rcases exec_machine localName localIp nodeID groupName trace with ⟨last, run⟩
  apply Machine.statesAlong_iff_stepsAlong _ _ run
  · intro topicName subscriber found
    cases found
  · intro node event next reachable isolated stepped
    exact isolated_step_iff (nodeStep_of_machine reachable stepped) isolated

/-- A node that publishes one topic. -/
def publishing (nodeID topicName : Text) : NodeInfo where
  nodeID := nodeID
  infoID := 1
  name := nodeID
  ip := "10.0.0.2"
  topics := [{ name := topicName, ip := "10.0.0.2", port := 5001 }]
  services := []

/-- A publisher goes, and its port is taken over for another topic. -/
def takenOverRun : List SubscriptionEvent :=
  [.addSubscriber "chat" fun _ => false,
    .updateNode 0 (publishing "b" "chat") fun _ => false,
    .removeNode "b",
    .updateNode 5 (publishing "c" "video") fun _ => false]

/-- The subscriber of the one topic is still connected to the port, where by then only the
other topic is published. -/
theorem isolated_fails_along_takenOverRun :
    ¬ (machine "listener" "10.0.0.1" "a" "zlc").StatesAlong Isolated takenOverRun := by
  intro states
  have isolated := states takenOverRun _ List.prefix_rfl rfl
  let subscriber : Subscriber := {
    serial := 0, name := "chat", running := true, connected := true
    subUrls := ["tcp://10.0.0.2:5001"], receiveLoop := .active, socketOpen := true }
  rcases isolated "chat" subscriber (by decide +kernel) _ (List.mem_singleton.2 rfl) with
    ⟨info, known, -⟩
  exact List.ne_nil_of_mem known (by decide +kernel)

end SubscriberManager

end Pyzlc
