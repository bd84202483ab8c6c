import Pyzlc.Sockets.Announcements

/-!
# Runs of a node's subscriptions

The operations that change subscribers, each one atomic: adding a subscriber, a local
publisher, an update and a removal of a node.  Each either enters a subscriber or
announces sockets to the entered ones.
-/

namespace Pyzlc

open Foundation

/-- An operation, with the answers of the file system while it runs. -/
inductive SubscriptionEvent where
  | addSubscriber (topicName : TopicName) (pathExists : Text → Bool)
  | registerLocalPublisher (topicName : TopicName) (port : Int) (pathExists : Text → Bool)
  | updateNode (now : ℚ) (info : NodeInfo) (pathExists : Text → Bool)
  | removeNode (nodeId : HashIdentifier)

def SubscriptionEvent.pathExists : SubscriptionEvent → Text → Bool
  | .addSubscriber _ pathExists => pathExists
  | .registerLocalPublisher _ _ pathExists => pathExists
  | .updateNode _ _ pathExists => pathExists
  | .removeNode _ => fun _ => false

namespace SubscriberManager

open NodesInfoManager

def step (node : Node) : SubscriptionEvent → Node
  | .addSubscriber topicName pathExists =>
      (addSubscriber (.accepting pathExists) topicName).after node
  | .registerLocalPublisher topicName port pathExists =>
      (registerLocalPublisher (call (.accepting pathExists)) topicName port).after node
  | .updateNode now info pathExists =>
      (updateNode (call (.accepting pathExists)) now info).after node
  | .removeNode nodeId => (onManager (removeNode nodeId)).after node

/-- Subscriptions from a fresh node on, in the runs in which no connect raises. -/
def machine (localName localIp nodeID groupName : Text) : Machine Node SubscriptionEvent where
  start := init localName localIp nodeID groupName
  step := fun node event => some (step node event)

/-- What an operation makes of the registry. -/
def registering (manager : NodesInfoManager UpdateHandler) :
    SubscriptionEvent → NodesInfoManager UpdateHandler
  | .addSubscriber _ _ => manager
  | .registerLocalPublisher topicName port _ =>
      bumpInfoId (appendLocalTopic topicName port manager)
  | .updateNode now info _ => recordUpdate now info manager
  | .removeNode nodeId => (removeNode nodeId).after manager

/-- The sockets an operation announces. -/
def announcement (manager : NodesInfoManager UpdateHandler) :
    SubscriptionEvent → List SocketInfo
  | .registerLocalPublisher topicName port _ =>
      (bumpInfoId (appendLocalTopic topicName port manager)).localNodeInfo.topics
  | .updateNode _ info _ => info.bindSockets.topics
  | _ => []

/-- What an operation does: it enters a subscriber, or announces sockets. -/
inductive NodeStep (node : Node) : SubscriptionEvent → Node → Prop where
  | added (topicName : TopicName) (pathExists : Text → Bool) :
      NodeStep node (.addSubscriber topicName pathExists)
        (node.1, node.2.insert (subscribed pathExists topicName node))
  | announced (event : SubscriptionEvent) (subscribers : SubscriberManager)
      (other : ∀ topicName pathExists, event ≠ .addSubscriber topicName pathExists)
      (announced : Announced (.accepting event.pathExists) (announcement node.1 event) node.2
        subscribers) :
      NodeStep node event (registering node.1 event, subscribers)

theorem nodeStep_step {node : Node} (wired : Wired node.1) (event : SubscriptionEvent) :
    NodeStep node event (step node event) := by
  cases event with
  | addSubscriber topicName pathExists =>
      rw [step, after_addSubscriber]
      exact .added topicName pathExists
  | registerLocalPublisher topicName port pathExists =>
      rcases after_registerLocalPublisher_announced pathExists topicName port wired with
        ⟨subscribers, left, announced⟩
      rw [step, left]
      exact .announced (.registerLocalPublisher topicName port pathExists) subscribers
        (fun _ _ same => by cases same) announced
  | updateNode now info pathExists =>
      rcases after_updateNode_announced pathExists now info wired with
        ⟨subscribers, left, announced⟩
      rw [step, left]
      exact .announced (.updateNode now info pathExists) subscribers
        (fun _ _ same => by cases same) announced
  | removeNode nodeId =>
      rw [step, onManager, Action.after_zoom]
      exact .announced (.removeNode nodeId) node.2 (fun _ _ same => by cases same)
        (announced_nil _ _)

/-! ## The registry under an operation -/

/-- Removing a node leaves all other data of the manager, and no new description. -/
def Forgets (before after : NodesInfoManager UpdateHandler) : Prop :=
  after.nodeUpdateEventDict = before.nodeUpdateEventDict ∧
    after.localNodeInfo = before.localNodeInfo ∧
    ∀ nodeId info, after.nodesInfo.lookup nodeId = some info →
      before.nodesInfo.lookup nodeId = some info

theorem guarantees_popKey {ν : Type} (key : Text) :
    Action.Guarantees (fun before after : Dict Text ν =>
      ∀ other value, after.lookup other = some value → before.lookup other = some value)
      (popKey key) := by
  intro dict other value found
  by_cases present : key ∈ dict
  · rw [Action.after_of_ok (popKey_of_mem present), Dict.lookup_erase] at found
    split at found
    next => cases found
    next => exact found
  · rw [Action.after_of_error (popKey_of_not_mem present)] at found
    exact found

theorem forgets_removeNode (nodeId : HashIdentifier) :
    Action.Guarantees Forgets (removeNode (η := UpdateHandler) nodeId) := by
  have trans : ∀ first second third : NodesInfoManager UpdateHandler,
      Forgets first second → Forgets second third → Forgets first third := by
    intro first second third left right
    exact ⟨right.1.trans left.1, right.2.1.trans left.2.1,
      fun other info found => left.2.2 other info (right.2.2 other info found)⟩
  have whole : ∀ manager : NodesInfoManager UpdateHandler, ∀ other info,
      manager.nodesInfo.lookup other = some info → manager.nodesInfo.lookup other = some info :=
    fun _ _ _ found => found
  apply Action.guarantees_bind trans
  · exact Action.guarantees_zoom (guarantees_popKey nodeId) fun _ _ fewer => ⟨rfl, rfl, fewer⟩
  · intro _
    apply Action.guarantees_bind trans
    · exact Action.guarantees_zoom (guarantees_popKey nodeId) fun manager _ _ =>
        ⟨rfl, rfl, whole manager⟩
    · intro _
      exact Action.guarantees_zoom (guarantees_popKey nodeId) fun manager _ _ =>
        ⟨rfl, rfl, whole manager⟩

theorem wired_registering {manager : NodesInfoManager UpdateHandler} (wired : Wired manager)
    (event : SubscriptionEvent) : Wired (registering manager event) := by
  cases event with
  | addSubscriber => exact wired
  | registerLocalPublisher => exact wired
  | updateNode now info => exact wired_recordUpdate wired now info
  | removeNode nodeId => exact (forgets_removeNode nodeId manager).1.trans wired

/-- A publisher of a topic in the description of some remote node. -/
def KnownRemotely (manager : NodesInfoManager UpdateHandler) (topicName : TopicName)
    (topic : SocketInfo) : Prop :=
  topic.name = topicName ∧
    ∃ nodeId info, manager.nodesInfo.lookup nodeId = some info ∧ topic ∈ info.topics

theorem mem_getPublisherInfo {manager : NodesInfoManager UpdateHandler} {topicName : TopicName}
    {topic : SocketInfo} :
    topic ∈ manager.getPublisherInfo topicName ↔ KnownRemotely manager topicName topic ∨
      (topic.name = topicName ∧ topic ∈ manager.localNodeInfo.topics) := by
  simp only [getPublisherInfo, List.mem_append, List.mem_flatMap, List.mem_filter,
    Dict.mem_values_iff, decide_eq_true_eq]
  constructor
  · intro either
    rcases either with ⟨info, ⟨nodeId, found⟩, member, named⟩ | ⟨member, named⟩
    · exact Or.inl ⟨named, nodeId, info, found, member⟩
    · exact Or.inr ⟨named, member⟩
  · intro known
    rcases known with ⟨named, nodeId, info, found, member⟩ | ⟨named, member⟩
    · exact Or.inl ⟨info, ⟨nodeId, found⟩, member, named⟩
    · exact Or.inr ⟨member, named⟩

theorem name_of_mem_getPublisherInfo {manager : NodesInfoManager UpdateHandler}
    {topicName : TopicName} {topic : SocketInfo}
    (known : topic ∈ manager.getPublisherInfo topicName) : topic.name = topicName := by
  rcases mem_getPublisherInfo.1 known with remote | localTopic
  · exact remote.1
  · exact localTopic.1

/-- A remote publisher known after an operation was known before, or is announced by it. -/
theorem knownRemotely_registering {manager : NodesInfoManager UpdateHandler}
    {event : SubscriptionEvent} {topicName : TopicName} {topic : SocketInfo}
    (known : KnownRemotely (registering manager event) topicName topic) :
    KnownRemotely manager topicName topic ∨ topic ∈ announcement manager event := by
  rcases known with ⟨named, nodeId, stored, found, member⟩
  cases event with
  | addSubscriber => exact Or.inl ⟨named, nodeId, stored, found, member⟩
  | registerLocalPublisher => exact Or.inl ⟨named, nodeId, stored, found, member⟩
  | updateNode now info pathExists =>
      simp only [registering, recordUpdate] at found
      split at found
      next => exact Or.inl ⟨named, nodeId, stored, found, member⟩
      next =>
        rw [Dict.lookup_set] at found
        split at found
        next =>
          cases found
          exact Or.inr member
        next => exact Or.inl ⟨named, nodeId, stored, found, member⟩
  | removeNode removed =>
      have before := (forgets_removeNode removed manager).2.2 nodeId stored found
      exact Or.inl ⟨named, nodeId, stored, before, member⟩

/-! ## One topic under an operation -/

/-- The subscriber of a topic before an operation connects anything to it. -/
def startingFrom (node : Node) (topicName : TopicName) : SubscriptionEvent → Option Subscriber
  | .addSubscriber added _ =>
      if topicName = added then some (.create node.2.created topicName)
      else node.2.subscriberDict.lookup topicName
  | _ => node.2.subscriberDict.lookup topicName

/-- The publishers of a topic whose addresses an operation determines. -/
def lookedUp (manager : NodesInfoManager UpdateHandler) (topicName : TopicName) :
    SubscriptionEvent → List SocketInfo
  | .addSubscriber added _ =>
      if topicName = added then manager.getPublisherInfo topicName else []
  | event => announcement manager event

theorem gains_subscribed (pathExists : Text → Bool) (topicName : TopicName) (node : Node) :
    Subscriber.Gains
      (ConnectUrl (.accepting pathExists) (node.1.getPublisherInfo topicName) node.2 topicName)
      (.create node.2.created topicName) (subscribed pathExists topicName node) := by
  apply (Subscriber.gains_withUrls _ _).congr
  intro url
  rw [List.mem_map, ConnectUrl]
  constructor
  · intro mapped
    rcases mapped with ⟨info, known, rfl⟩
    exact ⟨info, known, name_of_mem_getPublisherInfo known, rfl⟩
  · intro connect
    rcases connect with ⟨info, known, _, rfl⟩
    exact ⟨info, known, rfl⟩

/-- Every operation connects the subscriber of a topic to exactly the addresses it
determines for the topic. -/
theorem NodeStep.rel {node next : Node} {event : SubscriptionEvent}
    (stepped : NodeStep node event next) (topicName : TopicName) :
    Option.Rel (Subscriber.Gains (ConnectUrl (.accepting event.pathExists)
        (lookedUp node.1 topicName event) node.2 topicName))
      (startingFrom node topicName event) (next.2.subscriberDict.lookup topicName) := by
  cases stepped with
  | added added pathExists =>
      have named : (subscribed pathExists added node).name = added :=
        (gains_subscribed pathExists added node).name
      simp only [startingFrom, lookedUp, insert, named, Dict.lookup_set]
      by_cases same : topicName = added
      · cases same
        rw [if_pos rfl, if_pos rfl, if_pos rfl]
        exact .some (gains_subscribed pathExists topicName node)
      · rw [if_neg same, if_neg same, if_neg same]
        exact (announced_nil (.accepting pathExists) node.2).rel topicName
  | announced _ subscribers other announced =>
      cases event with
      | addSubscriber topicName pathExists => exact absurd rfl (other topicName pathExists)
      | registerLocalPublisher => exact announced.rel topicName
      | updateNode => exact announced.rel topicName
      | removeNode => exact announced.rel topicName

/-- The subscriber an operation leaves for a topic, and the one it started from. -/
theorem NodeStep.origin {node next : Node} {event : SubscriptionEvent}
    (stepped : NodeStep node event next) {topicName : TopicName} {subscriber : Subscriber}
    (found : next.2.subscriberDict.lookup topicName = some subscriber) :
    ∃ origin, startingFrom node topicName event = some origin ∧
      origin.Gains (ConnectUrl (.accepting event.pathExists)
        (lookedUp node.1 topicName event) node.2 topicName) subscriber := by
  have related := stepped.rel topicName
  rw [found] at related
  generalize startingFrom node topicName event = start at related
  cases related with
  | some gains => exact ⟨_, rfl, gains⟩

/-- The subscriber an operation connects is there after it. -/
theorem NodeStep.connected {node next : Node} {event : SubscriptionEvent}
    (stepped : NodeStep node event next) {topicName : TopicName} {origin : Subscriber}
    (starting : startingFrom node topicName event = some origin) :
    ∃ subscriber, next.2.subscriberDict.lookup topicName = some subscriber ∧
      origin.Gains (ConnectUrl (.accepting event.pathExists)
        (lookedUp node.1 topicName event) node.2 topicName) subscriber := by
  have related := stepped.rel topicName
  rw [starting] at related
  generalize next.2.subscriberDict.lookup topicName = reached at related
  cases related with
  | some gains => exact ⟨_, rfl, gains⟩

/-- No operation changes the addresses. -/
theorem NodeStep.getConnectUrl {node next : Node} {event : SubscriptionEvent}
    (stepped : NodeStep node event next) (host : Host) (info : SocketInfo) :
    next.2.getConnectUrl host info = node.2.getConnectUrl host info := by
  cases stepped with
  | added => rfl
  | announced _ _ _ announced => exact announced.getConnectUrl host info

theorem NodeStep.localIp {node next : Node} {event : SubscriptionEvent}
    (stepped : NodeStep node event next) : next.2.localIp = node.2.localIp := by
  cases stepped with
  | added => rfl
  | announced _ _ _ announced => exact announced.localIp

theorem NodeStep.groupName {node next : Node} {event : SubscriptionEvent}
    (stepped : NodeStep node event next) : next.2.groupName = node.2.groupName := by
  cases stepped with
  | added => rfl
  | announced _ _ _ announced => exact announced.groupName

theorem NodeStep.manager {node next : Node} {event : SubscriptionEvent}
    (stepped : NodeStep node event next) : next.1 = registering node.1 event := by
  cases stepped with
  | added => rfl
  | announced => rfl

variable {localName localIp nodeID groupName : Text}

/-- Operations may follow each other in any order. -/
theorem exec_machine (localName localIp nodeID groupName : Text)
    (trace : List SubscriptionEvent) :
    ∃ node, (machine localName localIp nodeID groupName).exec trace = some node :=
  Machine.exec_of_total (fun node event => ⟨step node event, rfl⟩) trace

theorem wired_of_reachable {node : Node}
    (reachable : (machine localName localIp nodeID groupName).Reachable node) : Wired node.1 := by
  apply Machine.Reachable.invariant _ _ reachable
  · exact wired_init localName localIp nodeID groupName
  · intro node event next _ wired stepped
    cases stepped
    rw [(nodeStep_step wired event).manager]
    exact wired_registering wired event

theorem nodeStep_of_machine {node next : Node} {event : SubscriptionEvent}
    (reachable : (machine localName localIp nodeID groupName).Reachable node)
    (stepped : (machine localName localIp nodeID groupName).step node event = some next) :
    NodeStep node event next := by
  cases stepped
  exact nodeStep_step (wired_of_reachable reachable) event

end SubscriberManager

end Pyzlc
