import Mathlib.Data.List.Infix
import Mathlib.Order.Basic
import Pyzlc.Nodes.VersionAgreement

/-!
# How a description grows

A node changes its own description by registrations only.  Each one puts a socket at the end of
one of the two lists and raises the version by one, so the descriptions a node goes through are
ordered, and within them the version tells which one it is.
-/

namespace Pyzlc

open Foundation

namespace NodeInfo

/-- Registrations lead from one description to the other. -/
structure Precedes (earlier later : NodeInfo) : Prop where
  nodeID : earlier.nodeID = later.nodeID
  name : earlier.name = later.name
  ip : earlier.ip = later.ip
  topics : earlier.topics <+: later.topics
  services : earlier.services <+: later.services
  counted : earlier.infoID + (later.topics.length + later.services.length) =
    later.infoID + (earlier.topics.length + earlier.services.length)

theorem Precedes.refl (info : NodeInfo) : info.Precedes info where
  nodeID := rfl
  name := rfl
  ip := rfl
  topics := List.prefix_rfl
  services := List.prefix_rfl
  counted := rfl

theorem Precedes.trans {first second third : NodeInfo} (before : first.Precedes second)
    (after : second.Precedes third) : first.Precedes third where
  nodeID := before.nodeID.trans after.nodeID
  name := before.name.trans after.name
  ip := before.ip.trans after.ip
  topics := before.topics.trans after.topics
  services := before.services.trans after.services
  counted := by
    have here := before.counted
    have there := after.counted
    omega

theorem Precedes.infoID_le {earlier later : NodeInfo} (precedes : earlier.Precedes later) :
    earlier.infoID ≤ later.infoID := by
  have counted := precedes.counted
  have topics := precedes.topics.length_le
  have services := precedes.services.length_le
  omega

/-- The version tells the descriptions of one node apart. -/
theorem Precedes.eq_of_infoID {earlier later : NodeInfo} (precedes : earlier.Precedes later)
    (same : earlier.infoID = later.infoID) : earlier = later := by
  have counted := precedes.counted
  have topics := precedes.topics.length_le
  have services := precedes.services.length_le
  have sameTopics := precedes.topics.eq_of_length (by omega)
  have sameServices := precedes.services.eq_of_length (by omega)
  cases earlier with
  | mk nodeID infoID name ip topics services =>
      cases precedes.nodeID
      cases precedes.name
      cases precedes.ip
      cases same
      cases sameTopics
      cases sameServices
      rfl

instance : PartialOrder NodeInfo where
  le := Precedes
  le_refl := Precedes.refl
  le_trans := fun _ _ _ => Precedes.trans
  le_antisymm := fun _ _ before after =>
    before.eq_of_infoID (le_antisymm before.infoID_le after.infoID_le)

/-- Nothing that the one description lists is missing in the other. -/
structure PartOf (earlier later : NodeInfo) : Prop where
  nodeID : earlier.nodeID = later.nodeID
  ip : earlier.ip = later.ip
  version : earlier.infoID ≤ later.infoID
  topics : earlier.topics <+: later.topics
  services : earlier.services <+: later.services

theorem PartOf.refl (info : NodeInfo) : info.PartOf info :=
  ⟨rfl, rfl, le_rfl, List.prefix_rfl, List.prefix_rfl⟩

theorem PartOf.trans {first second third : NodeInfo} (before : first.PartOf second)
    (after : second.PartOf third) : first.PartOf third where
  nodeID := before.nodeID.trans after.nodeID
  ip := before.ip.trans after.ip
  version := before.version.trans after.version
  topics := before.topics.trans after.topics
  services := before.services.trans after.services

theorem Precedes.partOf {earlier later : NodeInfo} (precedes : earlier.Precedes later) :
    earlier.PartOf later :=
  ⟨precedes.nodeID, precedes.ip, precedes.infoID_le, precedes.topics, precedes.services⟩

/-- How many sockets a description lists. -/
def sockets (info : NodeInfo) : Int := info.topics.length + info.services.length

/-- A description that lists as many sockets as a part of it lists the same ones. -/
theorem PartOf.lists_eq {earlier later : NodeInfo} (partOf : earlier.PartOf later)
    (as_many : later.sockets ≤ earlier.sockets) :
    earlier.topics = later.topics ∧ earlier.services = later.services := by
  have topics := partOf.topics.length_le
  have services := partOf.services.length_le
  unfold sockets at as_many
  constructor
  · apply partOf.topics.eq_of_length
    omega
  · apply partOf.services.eq_of_length
    omega

/-! ## What is advertised -/

/-- A description advertises what another one did at an earlier moment, whatever its address. -/
structure PastOf (past present : NodeInfo) : Prop where
  nodeID : past.nodeID = present.nodeID
  name : past.name = present.name
  version : past.infoID ≤ present.infoID
  topics : past.advertised.1 <+: present.advertised.1
  services : past.advertised.2 <+: present.advertised.2
  current : past.infoID = present.infoID ↔ past.advertised = present.advertised

/-- The same sockets are advertised under the same version only. -/
theorem infoID_eq_iff {earlier later : NodeInfo} (precedes : earlier ≤ later) :
    earlier.infoID = later.infoID ↔ earlier.advertised = later.advertised := by
  constructor
  · intro same
    rw [precedes.eq_of_infoID same]
  · intro same
    have counted := precedes.counted
    have topics := congrArg (fun lists => lists.1.length) same
    have services := congrArg (fun lists => lists.2.length) same
    simp only [advertised, advertisedOf, List.length_map] at topics services
    omega

theorem pastOf_of_le {earlier later : NodeInfo} (precedes : earlier ≤ later) :
    earlier.PastOf later where
  nodeID := precedes.nodeID
  name := precedes.name
  version := precedes.infoID_le
  topics := precedes.topics.map _
  services := precedes.services.map _
  current := infoID_eq_iff precedes

/-- The address does not count. -/
theorem PastOf.at_left {past present : NodeInfo} (pastOf : past.PastOf present) (nodeIp : Text) :
    { past with ip := nodeIp }.bindSockets.PastOf present where
  nodeID := pastOf.nodeID
  name := pastOf.name
  version := pastOf.version
  topics := by
    rw [advertised_bindSockets]
    exact pastOf.topics
  services := by
    rw [advertised_bindSockets]
    exact pastOf.services
  current := by
    rw [advertised_bindSockets]
    exact pastOf.current

end NodeInfo

/-! ## The description a node has of itself -/

namespace NodesInfoManager

variable {η ω : Type}

theorem precedes_appendLocalService (serviceName : Text) (port : Int)
    (manager : NodesInfoManager η) :
    manager.localNodeInfo ≤
      (bumpInfoId (appendLocalService serviceName port manager)).localNodeInfo where
  nodeID := rfl
  name := rfl
  ip := rfl
  topics := List.prefix_rfl
  services := List.prefix_append _ _
  counted := by
    simp only [bumpInfoId, appendLocalService, List.length_append, List.length_singleton]
    omega

theorem precedes_appendLocalTopic (topicName : Text) (port : Int) (manager : NodesInfoManager η) :
    manager.localNodeInfo ≤
      (bumpInfoId (appendLocalTopic topicName port manager)).localNodeInfo where
  nodeID := rfl
  name := rfl
  ip := rfl
  topics := List.prefix_append _ _
  services := List.prefix_rfl
  counted := by
    simp only [bumpInfoId, appendLocalTopic, List.length_append, List.length_singleton]
    omega

theorem precedes_registerLocalService (serviceName : Text) (port : Int)
    (manager : NodesInfoManager η) :
    manager.localNodeInfo ≤
      ((registerLocalService serviceName port).after manager).localNodeInfo := by
  rw [after_registerLocalService]
  split
  next => exact le_rfl
  next => exact precedes_appendLocalService serviceName port manager

/-- A registration that a handler of the node leaves by an exception counts all the same. -/
theorem precedes_registerLocalPublisher (call : Call η ω) (topicName : Text) (port : Int)
    (world : World η ω) :
    world.1.localNodeInfo ≤
      ((registerLocalPublisher call topicName port).after world).1.localNodeInfo := by
  rw [(after_registerLocalPublisher call topicName port world).localNodeInfo]
  exact precedes_appendLocalTopic topicName port world.1

theorem socketsAtNode_appendLocalService (serviceName : Text) (port : Int)
    {manager : NodesInfoManager η} (atNode : manager.localNodeInfo.SocketsAtNode) :
    (bumpInfoId (appendLocalService serviceName port manager)).localNodeInfo.SocketsAtNode := by
  refine ⟨atNode.1, ?_⟩
  intro service listed
  rcases List.mem_append.1 listed with before | last
  · exact atNode.2 service before
  · rw [List.mem_singleton.1 last]
    rfl

theorem socketsAtNode_appendLocalTopic (topicName : Text) (port : Int)
    {manager : NodesInfoManager η} (atNode : manager.localNodeInfo.SocketsAtNode) :
    (bumpInfoId (appendLocalTopic topicName port manager)).localNodeInfo.SocketsAtNode := by
  refine ⟨?_, atNode.2⟩
  intro topic listed
  rcases List.mem_append.1 listed with before | last
  · exact atNode.1 topic before
  · rw [List.mem_singleton.1 last]
    rfl

theorem socketsAtNode_registerLocalService (serviceName : Text) (port : Int)
    {manager : NodesInfoManager η} (atNode : manager.localNodeInfo.SocketsAtNode) :
    ((registerLocalService serviceName port).after manager).localNodeInfo.SocketsAtNode := by
  rw [after_registerLocalService]
  split
  next => exact atNode
  next => exact socketsAtNode_appendLocalService serviceName port atNode

end NodesInfoManager

namespace Discovery

open NodesInfoManager

variable {η ω : Type} [DecidableEq η]

theorem localNodeInfo_le_step {call : Call η ω} {state next : Discovery η ω}
    {event : DiscoveryEvent η} (wellFormed : state.registry.WellFormed)
    (stepped : state.step call event = some next) :
    state.manager.localNodeInfo ≤ next.manager.localNodeInfo := by
  cases registering : registers event with
  | false => rw [localNodeInfo_step wellFormed registering stepped]
  | true =>
      cases stepCase_of_step stepped with
      | registerLocalService serviceName port =>
          exact precedes_registerLocalService serviceName port state.manager
      | registerLocalPublisher topicName port =>
          exact precedes_registerLocalPublisher call topicName port state.world
      | _ => cases registering

/-- A node writes its own address into every socket it registers. -/
theorem socketsAtNode_step {call : Call η ω} {state next : Discovery η ω}
    {event : DiscoveryEvent η} (wellFormed : state.registry.WellFormed)
    (stepped : state.step call event = some next)
    (atNode : state.manager.localNodeInfo.SocketsAtNode) :
    next.manager.localNodeInfo.SocketsAtNode := by
  cases registering : registers event with
  | false =>
      rw [localNodeInfo_step wellFormed registering stepped]
      exact atNode
  | true =>
      cases stepCase_of_step stepped with
      | registerLocalService serviceName port =>
          exact socketsAtNode_registerLocalService serviceName port atNode
      | registerLocalPublisher topicName port =>
          have left := after_registerLocalPublisher call topicName port state.world
          show ((registerLocalPublisher call topicName port).after
            state.world).1.localNodeInfo.SocketsAtNode
          rw [left.localNodeInfo]
          exact socketsAtNode_appendLocalTopic topicName port atNode
      | _ => cases registering

end Discovery

end Pyzlc
