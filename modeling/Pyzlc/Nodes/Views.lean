import Pyzlc.Nodes.Growth
import Pyzlc.Nodes.RegistryInvariant
import Pyzlc.Nodes.ServiceNames

/-!
# What the nodes of a group know of each other

The descriptions read for answers are moments of the nodes they were read at, and what a node
stores is one of them, at the address some node of the group sends its heartbeats from.  Hence
no lookup finds a socket that was never registered.
-/

namespace Pyzlc

open Foundation

namespace NodesInfoManager

variable {η : Type}

theorem name_of_getServiceInfo {manager : NodesInfoManager η} {serviceName : Text}
    {socket : SocketInfo} (answered : manager.getServiceInfo serviceName = some socket) :
    socket.name = serviceName := by
  rcases Option.or_eq_some_iff.1 answered with remote | ⟨_, here⟩
  · rcases List.exists_of_findSome?_eq_some remote with ⟨info, _, found⟩
    simpa using List.find?_some found
  · simpa using List.find?_some here

end NodesInfoManager

namespace Network

open Discovery NodesInfoManager

variable {η ω : Type}

/-! ## What a step does to one node -/

/-- What the network can hand to a node: heartbeats from where datagrams came from, and the
descriptions that were read for answers. -/
def Handed (network : Network η ω) : DiscoveryEvent η → Prop
  | .heartbeat _ nodeIp => ∃ datagram ∈ network.datagrams, datagram.2 = nodeIp
  | .fetchEnds _ (.value info) => info ∈ network.answers
  | .updateNode _ => False
  | _ => True

/-- The step of one node that an event of the group is. -/
def action (groupName : Text) (network : Network η ω) :
    NetworkEvent η → Option (Nat × DiscoveryEvent η)
  | .receive index datagram => do
      let member ← network.members[index]?
      let sent ← network.datagrams[datagram]?
      let submitted ← (member.worker groupName).discover sent.1 sent.2
      some (index, .heartbeat submitted.1 submitted.2)
  | .fetchReturns index fetch answer => do
      let info ← network.answers[answer]?
      some (index, .fetchEnds fetch (.value info))
  | .fetchFails index fetch raised =>
      some (index, .fetchEnds fetch (if raised then .raised else .none))
  | .own index event => some (index, event)
  | _ => none

/-- What a step does to the nodes: one takes a step of its own or one the network hands it, one is
new, or none does anything. -/
inductive Change [DecidableEq η] (call : Call η ω) (groupName : Text) (network next : Network η ω)
    (event : NetworkEvent η) : Prop where
  | acted (acting : Nat) (own : DiscoveryEvent η)
      (action : network.action groupName event = some (acting, own))
      (handed : network.Handed own) (stepped : network.stepMember call acting own = some next)
  | joined (outside : ω) (localName localIp nodeID : Text) (servicePort : Int)
      (protocolVersion : Int × Int × Int) (now : ℚ)
      (action : network.action groupName event = none)
      (fresh : ∀ member ∈ network.members, member.info.nodeID ≠ nodeID)
      (members : next.members = network.members ++
        [.start outside localName localIp nodeID servicePort protocolVersion now])
  | idle (action : network.action groupName event = none)
      (members : ∀ index : Nat, next.members[index]?.map Member.discovery =
        network.members[index]?.map Member.discovery)

/-- How a node came to be what it is after a step of the group. -/
inductive MemberStep [DecidableEq η] (call : Call η ω) (network : Network η ω) (index : Nat)
    (after : Member η ω) : Prop where
  | joined (outside : ω) (localName localIp nodeID : Text) (servicePort : Int)
      (protocolVersion : Int × Int × Int) (now : ℚ) (last : index = network.members.length)
      (fresh : ∀ member ∈ network.members, member.info.nodeID ≠ nodeID)
      (same : after =
        .start outside localName localIp nodeID servicePort protocolVersion now)
  | kept (member : Member η ω) (found : network.members[index]? = some member)
      (same : after.discovery = member.discovery)
  | stepped (member : Member η ω) (event : DiscoveryEvent η)
      (found : network.members[index]? = some member) (handed : network.Handed event)
      (stepped : member.discovery.step call event = some after.discovery)

/-- What a step does to the mail: one datagram is sent from the address of a node, the current
description of one is read for an answer, or neither. -/
inductive MailStep (network next : Network η ω) (event : NetworkEvent η) : Prop where
  | silent (datagrams : next.datagrams = network.datagrams)
      (answers : next.answers = network.answers)
  | sent (member : Member η ω) (bytes : Bytes) (listed : member ∈ network.members)
      (datagrams : next.datagrams = network.datagrams ++ [(bytes, member.info.ip)])
      (answers : next.answers = network.answers)
  | read (member : Member η ω) (listed : member ∈ network.members)
      (datagrams : next.datagrams = network.datagrams)
      (answers : next.answers = network.answers ++ [member.info])
      (asked : ∃ index, event = .answer index)

section Steps

variable [DecidableEq η] {call : Call η ω} {groupName : Text} {outside : ω}
  {network next : Network η ω} {event : NetworkEvent η}

theorem change_of_step (stepped : network.step call groupName outside event = some next) :
    Change call groupName network next event := by
  cases event with
  | join localName localIp nodeID servicePort protocolVersion now =>
      rcases Option.ite_none_right_eq_some.1 stepped with ⟨fresh, same⟩
      cases same
      exact .joined outside localName localIp nodeID servicePort protocolVersion now rfl fresh rfl
  | leave leaving =>
      rcases Option.bind_eq_some_iff.1 stepped with ⟨member, found, same⟩
      cases same
      apply Change.idle rfl
      intro index
      rw [Serials.getElem?_update found]
      split
      next here => rw [here, found]; rfl
      next => rfl
  | multicast sending =>
      rcases Option.bind_eq_some_iff.1 stepped with ⟨member, _, rest⟩
      rcases Option.ite_none_right_eq_some.1 rest with ⟨_, sent⟩
      cases datagram : (member.worker groupName).multicastDatagram with
      | ok bytes | error error =>
          rw [datagram] at sent
          cases sent
          exact .idle rfl fun _ => rfl
  | receive receiving datagram =>
      rcases Option.bind_eq_some_iff.1 stepped with ⟨member, found, rest⟩
      rcases Option.bind_eq_some_iff.1 rest with ⟨sent, foundSent, outcome⟩
      cases accepted : (member.worker groupName).discover sent.1 sent.2 with
      | none =>
          rw [accepted] at outcome
          cases outcome
          apply Change.idle _ fun _ => rfl
          simp [action, found, foundSent, accepted]
      | some submitted =>
          rw [accepted] at outcome
          rcases MulticastWorker.handleDatagram_eq_some.1 accepted with ⟨_, _, _, _, address⟩
          apply Change.acted receiving (.heartbeat submitted.1 submitted.2) _ _ outcome
          · simp [action, found, foundSent, accepted]
          · exact ⟨sent, List.mem_of_getElem? foundSent, address.symm⟩
  | answer answering =>
      rcases Option.bind_eq_some_iff.1 stepped with ⟨member, _, rest⟩
      rcases Option.ite_none_right_eq_some.1 rest with ⟨_, same⟩
      cases same
      exact .idle rfl fun _ => rfl
  | fetchReturns fetching fetch answer =>
      rcases Option.bind_eq_some_iff.1 stepped with ⟨info, read, outcome⟩
      apply Change.acted fetching (.fetchEnds fetch (.value info)) _ _ outcome
      · simp [action, read]
      · exact List.mem_of_getElem? read
  | fetchFails fetching fetch raised =>
      apply Change.acted fetching _ rfl _ stepped
      cases raised <;> exact trivial
  | own acting own =>
      rcases Option.ite_none_right_eq_some.1 stepped with ⟨isOwn, outcome⟩
      apply Change.acted acting own rfl _ outcome
      cases own <;> first | exact trivial | cases isOwn

/-- Every node after a step is a new one, one that was left alone, or one that took a step. -/
theorem memberStep_of_step {index : Nat} {after : Member η ω}
    (stepped : network.step call groupName outside event = some next)
    (found : next.members[index]? = some after) : MemberStep call network index after := by
  cases change_of_step stepped with
  | acted acting own _ handed stepped =>
      rcases stepMember_eq_some stepped with ⟨actor, discovery, foundActor, memberStepped, members⟩
      rw [members] at found
      rcases Serials.found_of_update foundActor found with ⟨rfl, rfl⟩ | ⟨_, before⟩
      · exact .stepped actor own foundActor handed memberStepped
      · exact .kept after before rfl
  | joined outside localName localIp nodeID servicePort protocolVersion now _ fresh members =>
      rw [members] at found
      rcases Serials.found_of_add found with ⟨_, before⟩ | ⟨last, same⟩
      · exact .kept after before rfl
      · exact .joined outside localName localIp nodeID servicePort protocolVersion now last fresh
          same
  | idle _ members =>
      have same := members index
      rw [found] at same
      rcases Option.map_eq_some_iff.1 same.symm with ⟨member, before, kept⟩
      exact .kept member before kept.symm

/-- Nobody is taken out, and a node that no event is about is left alone. -/
theorem member_step {index : Nat} {member : Member η ω}
    (found : network.members[index]? = some member)
    (stepped : network.step call groupName outside event = some next) :
    ∃ later, next.members[index]? = some later ∧
      ((∃ own, network.action groupName event = some (index, own) ∧
          member.discovery.step call own = some later.discovery) ∨
        (∀ own, network.action groupName event ≠ some (index, own)) ∧
          later.discovery = member.discovery) := by
  cases change_of_step stepped with
  | acted acting own action _ stepped =>
      rcases stepMember_eq_some stepped with ⟨actor, discovery, foundActor, memberStepped, members⟩
      rw [members, Serials.getElem?_update foundActor, action]
      split
      next here =>
        rw [here, foundActor] at found
        cases found
        exact ⟨_, rfl, Or.inl ⟨own, by rw [here], memberStepped⟩⟩
      next elsewhere =>
        refine ⟨member, found, Or.inr ⟨?_, rfl⟩⟩
        intro other same
        cases same
        exact elsewhere rfl
  | joined _ _ _ _ _ _ _ action _ members =>
      have within : index < network.members.length := (List.getElem?_eq_some_iff.1 found).1
      rw [members, List.getElem?_append_left within, action]
      exact ⟨member, found, Or.inr ⟨nofun, rfl⟩⟩
  | idle action members =>
      have same := members index
      rw [found] at same
      rcases Option.map_eq_some_iff.1 same with ⟨later, after, kept⟩
      rw [action]
      exact ⟨later, after, Or.inr ⟨nofun, kept⟩⟩

/-- No description loses anything. -/
theorem members_step {index : Nat} {member : Member η ω} (wellFormed : network.WellFormed)
    (found : network.members[index]? = some member)
    (stepped : network.step call groupName outside event = some next) :
    ∃ later, next.members[index]? = some later ∧ member.info ≤ later.info := by
  rcases member_step found stepped with ⟨later, after, ⟨own, _, memberStepped⟩ | ⟨_, same⟩⟩
  · exact ⟨later, after, localNodeInfo_le_step (wellFormed index member found) memberStepped⟩
  · refine ⟨later, after, ?_⟩
    rw [Member.info, Member.info, Member.manager, Member.manager, same]

theorem mail_of_stepMember {index : Nat} {delivery : DiscoveryEvent η}
    (stepped : network.stepMember call index delivery = some next) :
    next.datagrams = network.datagrams ∧ next.answers = network.answers := by
  rcases Option.bind_eq_some_iff.1 stepped with ⟨member, _, rest⟩
  rcases Option.bind_eq_some_iff.1 rest with ⟨discovery, _, same⟩
  cases same
  exact ⟨rfl, rfl⟩

theorem mailStep_of_step (stepped : network.step call groupName outside event = some next) :
    MailStep network next event := by
  cases event with
  | join localName localIp nodeID servicePort protocolVersion now =>
      rcases Option.ite_none_right_eq_some.1 stepped with ⟨_, same⟩
      cases same
      exact .silent rfl rfl
  | leave leaving =>
      rcases Option.bind_eq_some_iff.1 stepped with ⟨member, _, same⟩
      cases same
      exact .silent rfl rfl
  | multicast sending =>
      rcases Option.bind_eq_some_iff.1 stepped with ⟨member, found, rest⟩
      rcases Option.ite_none_right_eq_some.1 rest with ⟨_, sent⟩
      cases datagram : (member.worker groupName).multicastDatagram with
      | ok bytes =>
          rw [datagram] at sent
          cases sent
          exact .sent member bytes (List.mem_of_getElem? found) rfl rfl
      | error error =>
          rw [datagram] at sent
          cases sent
          exact .silent rfl rfl
  | receive receiving datagram =>
      rcases Option.bind_eq_some_iff.1 stepped with ⟨member, _, rest⟩
      rcases Option.bind_eq_some_iff.1 rest with ⟨sent, _, outcome⟩
      cases accepted : (member.worker groupName).discover sent.1 sent.2 with
      | none =>
          rw [accepted] at outcome
          cases outcome
          exact .silent rfl rfl
      | some submitted =>
          rw [accepted] at outcome
          rcases mail_of_stepMember outcome with ⟨datagrams, answers⟩
          exact .silent datagrams answers
  | answer answering =>
      rcases Option.bind_eq_some_iff.1 stepped with ⟨member, found, rest⟩
      rcases Option.ite_none_right_eq_some.1 rest with ⟨_, same⟩
      cases same
      exact .read member (List.mem_of_getElem? found) rfl rfl ⟨answering, rfl⟩
  | fetchReturns fetching fetch answer =>
      rcases Option.bind_eq_some_iff.1 stepped with ⟨info, _, outcome⟩
      rcases mail_of_stepMember outcome with ⟨datagrams, answers⟩
      exact .silent datagrams answers
  | fetchFails fetching fetch raised =>
      rcases mail_of_stepMember stepped with ⟨datagrams, answers⟩
      exact .silent datagrams answers
  | own acting own =>
      rcases Option.ite_none_right_eq_some.1 stepped with ⟨_, outcome⟩
      rcases mail_of_stepMember outcome with ⟨datagrams, answers⟩
      exact .silent datagrams answers

end Steps

/-! ## What the group knows -/

/-- A node of the group sends its heartbeats from this address. -/
def HasAddress (network : Network η ω) (nodeIp : Text) : Prop :=
  ∃ sender ∈ network.members, sender.info.ip = nodeIp

/-- A description is one that was read for an answer, at the address of a node of the group. -/
def Snapshot (network : Network η ω) (info : NodeInfo) : Prop :=
  ∃ answer ∈ network.answers, ∃ nodeIp, network.HasAddress nodeIp ∧
    info = { answer with ip := nodeIp }.bindSockets

/-- The identifiers are different, and what is stored was read, and is stored at the address of a
node. -/
structure Sourced (network : Network η ω) : Prop where
  wellFormed : network.WellFormed
  distinct : ∀ (first second : Nat) (member other : Member η ω),
    network.members[first]? = some member → network.members[second]? = some other →
    member.info.nodeID = other.info.nodeID → first = second
  datagrams : ∀ datagram ∈ network.datagrams, network.HasAddress datagram.2
  pending : ∀ member ∈ network.members, ∀ request ∈ member.discovery.pending,
    network.HasAddress request.2
  stored : ∀ member ∈ network.members, ∀ nodeId info,
    member.discovery.registry.nodesInfo.lookup nodeId = some info → network.Snapshot info

/-- Besides, what was read off a node is a moment of it. -/
structure Genuine (network : Network η ω) : Prop extends Sourced network where
  atNode : ∀ member ∈ network.members, member.info.SocketsAtNode
  counted : ∀ member ∈ network.members, 0 ≤ member.info.infoID
  answers : ∀ answer ∈ network.answers, ∃ owner ∈ network.members, answer ≤ owner.info

theorem nodeID_start (outside : ω) (localName localIp nodeID : Text) (servicePort : Int)
    (protocolVersion : Int × Int × Int) (now : ℚ) :
    (Member.start outside localName localIp nodeID servicePort protocolVersion now :
      Member η ω).info.nodeID = nodeID :=
  (precedes_registerLocalService Member.builtIn servicePort
    (.init localName localIp nodeID : NodesInfoManager η)).nodeID.symm

theorem socketsAtNode_start (outside : ω) (localName localIp nodeID : Text) (servicePort : Int)
    (protocolVersion : Int × Int × Int) (now : ℚ) :
    (Member.start outside localName localIp nodeID servicePort protocolVersion now :
      Member η ω).info.SocketsAtNode := by
  let fresh : NodesInfoManager η := .init localName localIp nodeID
  have atNode : fresh.localNodeInfo.SocketsAtNode := ⟨nofun, nofun⟩
  exact socketsAtNode_registerLocalService Member.builtIn servicePort atNode

theorem infoID_start (outside : ω) (localName localIp nodeID : Text) (servicePort : Int)
    (protocolVersion : Int × Int × Int) (now : ℚ) :
    0 ≤ (Member.start outside localName localIp nodeID servicePort protocolVersion now :
      Member η ω).info.infoID :=
  (precedes_registerLocalService Member.builtIn servicePort
    (.init localName localIp nodeID : NodesInfoManager η)).infoID_le

/-- A node of the group lists a socket of this name and port, of the kind given by the list, and
the socket is at the address of a node of the group. -/
def Registered (network : Network η ω) (sockets : NodeInfo → List SocketInfo)
    (socket : SocketInfo) : Prop :=
  (∃ owner ∈ network.members, socket.advertised ∈ (sockets owner.info).map SocketInfo.advertised) ∧
    network.HasAddress socket.ip

section Invariant

variable {network : Network η ω}

theorem Sourced.owner_eq (sourced : network.Sourced) {member other : Member η ω}
    (listed : member ∈ network.members) (listedOther : other ∈ network.members)
    (same : member.info.nodeID = other.info.nodeID) : member = other := by
  rcases List.getElem?_of_mem listed with ⟨first, found⟩
  rcases List.getElem?_of_mem listedOther with ⟨second, foundOther⟩
  cases sourced.distinct first second member other found foundOther same
  exact Option.some.inj (found.symm.trans foundOther)

/-- What a step of a node delivers was read for an answer. -/
theorem Sourced.delivered (sourced : network.Sourced) {member : Member η ω}
    (listed : member ∈ network.members) {own : DiscoveryEvent η} (handed : network.Handed own)
    {info : NodeInfo} (delivers : member.discovery.delivered own = some info) :
    network.Snapshot info.bindSockets := by
  cases own with
  | fetchEnds index result =>
      cases result with
      | value reply =>
          rcases Option.map_eq_some_iff.1 delivers with ⟨request, waiting, same⟩
          have hasAddress := sourced.pending member listed request (List.mem_of_getElem? waiting)
          exact ⟨reply, handed, request.2, hasAddress, by rw [same]⟩
      | none | raised => cases delivers
  | updateNode info => exact handed.elim
  | _ => cases delivers

theorem Sourced.identified (sourced : network.Sourced) {member : Member η ω}
    (listed : member ∈ network.members) {nodeId : HashIdentifier} {info : NodeInfo}
    (known : member.discovery.registry.nodesInfo.lookup nodeId = some info) :
    info.nodeID = nodeId := by
  rcases List.getElem?_of_mem listed with ⟨index, found⟩
  exact (sourced.wellFormed index member found).identified nodeId info known

theorem Genuine.past_of_owner (genuine : network.Genuine) {member : Member η ω}
    (listed : member ∈ network.members) {nodeId : HashIdentifier} {info : NodeInfo}
    (known : member.discovery.registry.nodesInfo.lookup nodeId = some info) :
    ∃ owner ∈ network.members,
      owner.info.nodeID = nodeId ∧ info.PastOf owner.info ∧ network.HasAddress info.ip := by
  have identity := genuine.identified listed known
  rcases genuine.stored member listed nodeId info known with
    ⟨answer, read, nodeIp, hasAddress, rfl⟩
  rcases genuine.answers answer read with ⟨owner, listedOwner, precedes⟩
  refine ⟨owner, listedOwner, precedes.nodeID.symm.trans identity, ?_, hasAddress⟩
  exact (NodeInfo.pastOf_of_le precedes).at_left nodeIp

/-- What a node knows of another one was registered, and carries the address it is known at. -/
theorem Genuine.registered_of_atKnownNode (genuine : network.Genuine) {member : Member η ω}
    (listed : member ∈ network.members) {socket : SocketInfo} :
    (member.manager.AtKnownNode NodeInfo.topics socket →
      network.Registered NodeInfo.topics socket) ∧
    (member.manager.AtKnownNode NodeInfo.services socket →
      network.Registered NodeInfo.services socket) := by
  constructor
  · rintro ⟨nodeId, info, known, within, address⟩
    rcases genuine.past_of_owner listed known with ⟨owner, listedOwner, _, pastOf, hasAddress⟩
    refine ⟨⟨owner, listedOwner, ?_⟩, address ▸ hasAddress⟩
    exact pastOf.topics.subset (List.mem_map_of_mem within)
  · rintro ⟨nodeId, info, known, within, address⟩
    rcases genuine.past_of_owner listed known with ⟨owner, listedOwner, _, pastOf, hasAddress⟩
    refine ⟨⟨owner, listedOwner, ?_⟩, address ▸ hasAddress⟩
    exact pastOf.services.subset (List.mem_map_of_mem within)

theorem Genuine.registered_here (genuine : network.Genuine) {member : Member η ω}
    (listed : member ∈ network.members) {socket : SocketInfo} :
    (socket ∈ member.info.topics → network.Registered NodeInfo.topics socket) ∧
    (socket ∈ member.info.services → network.Registered NodeInfo.services socket) := by
  have atNode := genuine.atNode member listed
  constructor
  · intro within
    refine ⟨⟨member, listed, List.mem_map_of_mem within⟩, member, listed, ?_⟩
    exact (atNode.1 socket within).symm
  · intro within
    refine ⟨⟨member, listed, List.mem_map_of_mem within⟩, member, listed, ?_⟩
    exact (atNode.2 socket within).symm

variable [DecidableEq η] {call : Call η ω} {groupName : Text} {outside : ω}
  {next : Network η ω} {event : NetworkEvent η}

theorem later_of_mem {member : Member η ω} (wellFormed : network.WellFormed)
    (listed : member ∈ network.members)
    (stepped : network.step call groupName outside event = some next) :
    ∃ later ∈ next.members, member.info ≤ later.info := by
  rcases List.getElem?_of_mem listed with ⟨index, found⟩
  rcases members_step wellFormed found stepped with ⟨later, foundLater, grown⟩
  exact ⟨later, List.mem_of_getElem? foundLater, grown⟩

theorem HasAddress.step {nodeIp : Text} (hasAddress : network.HasAddress nodeIp)
    (wellFormed : network.WellFormed)
    (stepped : network.step call groupName outside event = some next) :
    next.HasAddress nodeIp := by
  rcases hasAddress with ⟨sender, listed, address⟩
  rcases later_of_mem wellFormed listed stepped with ⟨later, listedLater, grown⟩
  exact ⟨later, listedLater, grown.ip.symm.trans address⟩

theorem mem_answers_step {answer : NodeInfo} (listed : answer ∈ network.answers)
    (stepped : network.step call groupName outside event = some next) :
    answer ∈ next.answers := by
  cases mailStep_of_step stepped with
  | silent _ answers | sent _ _ _ _ answers =>
      rw [answers]
      exact listed
  | read _ _ _ answers =>
      rw [answers]
      exact List.mem_append_left _ listed

theorem Snapshot.step {info : NodeInfo} (snapshot : network.Snapshot info)
    (wellFormed : network.WellFormed)
    (stepped : network.step call groupName outside event = some next) : next.Snapshot info := by
  rcases snapshot with ⟨answer, listed, nodeIp, hasAddress, same⟩
  exact ⟨answer, mem_answers_step listed stepped, nodeIp, hasAddress.step wellFormed stepped, same⟩

/-- Where the description of a node after a step comes from. -/
theorem info_of_memberStep {index : Nat} {after : Member η ω} (wellFormed : network.WellFormed)
    (change : MemberStep call network index after) :
    (index = network.members.length ∧
        ∀ member ∈ network.members, member.info.nodeID ≠ after.info.nodeID) ∨
      ∃ member, network.members[index]? = some member ∧ member.info ≤ after.info := by
  cases change with
  | joined outside localName localIp nodeID servicePort protocolVersion now last fresh same =>
      left
      refine ⟨last, ?_⟩
      rw [same, nodeID_start]
      exact fresh
  | kept member found same =>
      right
      refine ⟨member, found, ?_⟩
      rw [Member.info, Member.info, Member.manager, Member.manager, same]
  | stepped member event found handed stepped =>
      right
      exact ⟨member, found, localNodeInfo_le_step (wellFormed index member found) stepped⟩

theorem Sourced.distinct_step (sourced : network.Sourced)
    (stepped : network.step call groupName outside event = some next)
    (first second : Nat) (member other : Member η ω)
    (found : next.members[first]? = some member) (foundOther : next.members[second]? = some other)
    (same : member.info.nodeID = other.info.nodeID) : first = second := by
  rcases info_of_memberStep sourced.wellFormed (memberStep_of_step stepped found) with
    ⟨last, fresh⟩ | ⟨before, foundBefore, grown⟩
  · rcases info_of_memberStep sourced.wellFormed (memberStep_of_step stepped foundOther) with
      ⟨lastToo, _⟩ | ⟨otherBefore, foundOtherBefore, otherGrown⟩
    · exact last.trans lastToo.symm
    · have taken := fresh otherBefore (List.mem_of_getElem? foundOtherBefore)
      exact absurd (otherGrown.nodeID.trans same.symm) taken
  · rcases info_of_memberStep sourced.wellFormed (memberStep_of_step stepped foundOther) with
      ⟨_, fresh⟩ | ⟨otherBefore, foundOtherBefore, otherGrown⟩
    · have taken := fresh before (List.mem_of_getElem? foundBefore)
      exact absurd (grown.nodeID.trans same) taken
    · apply sourced.distinct first second before otherBefore foundBefore foundOtherBefore
      exact grown.nodeID.trans (same.trans otherGrown.nodeID.symm)

theorem Genuine.atNode_step (genuine : network.Genuine)
    (stepped : network.step call groupName outside event = some next)
    (after : Member η ω) (listed : after ∈ next.members) : after.info.SocketsAtNode := by
  rcases List.getElem?_of_mem listed with ⟨index, found⟩
  cases memberStep_of_step stepped found with
  | joined outside localName localIp nodeID servicePort protocolVersion now _ _ same =>
      rw [same]
      exact socketsAtNode_start outside localName localIp nodeID servicePort protocolVersion now
  | kept member foundMember same =>
      rw [Member.info, Member.manager, same]
      exact genuine.atNode member (List.mem_of_getElem? foundMember)
  | stepped member own foundMember _ memberStepped =>
      exact socketsAtNode_step (genuine.wellFormed index member foundMember) memberStepped
        (genuine.atNode member (List.mem_of_getElem? foundMember))

theorem Genuine.counted_step (genuine : network.Genuine)
    (stepped : network.step call groupName outside event = some next)
    (after : Member η ω) (listed : after ∈ next.members) : 0 ≤ after.info.infoID := by
  rcases List.getElem?_of_mem listed with ⟨index, found⟩
  cases memberStep_of_step stepped found with
  | joined outside localName localIp nodeID servicePort protocolVersion now _ _ same =>
      rw [same]
      exact infoID_start outside localName localIp nodeID servicePort protocolVersion now
  | kept member foundMember same =>
      rw [Member.info, Member.manager, same]
      exact genuine.counted member (List.mem_of_getElem? foundMember)
  | stepped member own foundMember _ memberStepped =>
      have grown := localNodeInfo_le_step (genuine.wellFormed index member foundMember)
        memberStepped
      exact (genuine.counted member (List.mem_of_getElem? foundMember)).trans grown.infoID_le

theorem Genuine.answers_step (genuine : network.Genuine)
    (stepped : network.step call groupName outside event = some next) :
    ∀ answer ∈ next.answers, ∃ owner ∈ next.members, answer ≤ owner.info := by
  have kept : ∀ answer ∈ network.answers, ∃ owner ∈ next.members, answer ≤ owner.info := by
    intro answer read
    rcases genuine.answers answer read with ⟨owner, listed, precedes⟩
    rcases later_of_mem genuine.wellFormed listed stepped with ⟨later, listedLater, grown⟩
    exact ⟨later, listedLater, precedes.trans grown⟩
  intro answer read
  cases mailStep_of_step stepped with
  | silent _ answers | sent _ _ _ _ answers =>
      rw [answers] at read
      exact kept answer read
  | read member listed _ answers =>
      rw [answers] at read
      rcases List.mem_append.1 read with before | last
      · exact kept answer before
      · rw [List.mem_singleton.1 last]
        exact later_of_mem genuine.wellFormed listed stepped

theorem Sourced.datagrams_step (sourced : network.Sourced)
    (stepped : network.step call groupName outside event = some next) :
    ∀ datagram ∈ next.datagrams, next.HasAddress datagram.2 := by
  intro datagram there
  cases mailStep_of_step stepped with
  | silent datagrams | read _ _ datagrams =>
      rw [datagrams] at there
      exact (sourced.datagrams datagram there).step sourced.wellFormed stepped
  | sent member bytes listed datagrams =>
      rw [datagrams] at there
      rcases List.mem_append.1 there with before | last
      · exact (sourced.datagrams datagram before).step sourced.wellFormed stepped
      · rw [List.mem_singleton.1 last]
        exact HasAddress.step ⟨member, listed, rfl⟩ sourced.wellFormed stepped

theorem Sourced.pending_step (sourced : network.Sourced)
    (stepped : network.step call groupName outside event = some next)
    (after : Member η ω) (listed : after ∈ next.members)
    (request : HeartbeatMessage × Text) (waits : request ∈ after.discovery.pending) :
    next.HasAddress request.2 := by
  rcases List.getElem?_of_mem listed with ⟨index, found⟩
  cases memberStep_of_step stepped found with
  | joined _ _ _ _ _ _ _ _ _ same =>
      rw [same] at waits
      cases waits
  | kept member foundMember same =>
      rw [same] at waits
      exact (sourced.pending member (List.mem_of_getElem? foundMember) request waits).step
        sourced.wellFormed stepped
  | stepped member own foundMember handed memberStepped =>
      rcases Discovery.pending_step memberStepped waits with before | arrives
      · exact (sourced.pending member (List.mem_of_getElem? foundMember) request before).step
          sourced.wellFormed stepped
      · rw [arrives] at handed
        rcases handed with ⟨datagram, there, address⟩
        rw [← address]
        exact (sourced.datagrams datagram there).step sourced.wellFormed stepped

theorem Sourced.stored_step (sourced : network.Sourced)
    (stepped : network.step call groupName outside event = some next)
    (after : Member η ω) (listed : after ∈ next.members) (nodeId : HashIdentifier)
    (info : NodeInfo)
    (known : after.discovery.registry.nodesInfo.lookup nodeId = some info) :
    next.Snapshot info := by
  rcases List.getElem?_of_mem listed with ⟨index, found⟩
  cases memberStep_of_step stepped found with
  | joined outside localName localIp nodeID servicePort protocolVersion now _ _ same =>
      have empty : after.discovery.registry.nodesInfo = ∅ := by
        rw [same]
        exact congrArg Registry.nodesInfo (registry_registerLocalService Member.builtIn servicePort
          (.init localName localIp nodeID : NodesInfoManager η))
      rw [empty] at known
      cases known
  | kept member foundMember same =>
      rw [same] at known
      exact (sourced.stored member (List.mem_of_getElem? foundMember) nodeId info known).step
        sourced.wellFormed stepped
  | stepped member own foundMember handed memberStepped =>
      have listedMember := List.mem_of_getElem? foundMember
      have earlier : member.discovery.registry.nodesInfo.lookup nodeId = some info →
          next.Snapshot info := by
        intro before
        exact (sourced.stored member listedMember nodeId info before).step sourced.wellFormed
          stepped
      cases registryStep_of_step (sourced.wellFormed index member foundMember) memberStepped with
      | unchanged _ left | heard _ _ _ left =>
          rw [left] at known
          exact earlier known
      | recorded given delivers left =>
          rw [left] at known
          rcases Registry.lookup_record known with before | ⟨_, arrived⟩
          · exact earlier before
          · rw [arrived]
            exact (sourced.delivered listedMember handed delivers).step sourced.wellFormed stepped
      | dropped nodeIds _ left =>
          rw [left, Registry.lookup_dropAll] at known
          split at known
          next => cases known
          next => exact earlier known

theorem Sourced.step (sourced : network.Sourced)
    (stepped : network.step call groupName outside event = some next) : next.Sourced where
  wellFormed := wellFormed_step sourced.wellFormed (stepCase_of_step stepped)
  distinct := sourced.distinct_step stepped
  datagrams := sourced.datagrams_step stepped
  pending := sourced.pending_step stepped
  stored := sourced.stored_step stepped

omit [DecidableEq η] in
/-- Before its first node a group knows nothing. -/
theorem sourced_of_empty (members : network.members = []) (datagrams : network.datagrams = []) :
    network.Sourced := by
  constructor
  · intro index member found
    rw [members] at found
    cases found
  · intro first second member other found
    rw [members] at found
    cases found
  · intro datagram there
    rw [datagrams] at there
    cases there
  · intro member listed
    rw [members] at listed
    cases listed
  · intro member listed
    rw [members] at listed
    cases listed

theorem Genuine.step (genuine : network.Genuine)
    (stepped : network.step call groupName outside event = some next) : next.Genuine where
  toSourced := genuine.toSourced.step stepped
  atNode := genuine.atNode_step stepped
  counted := genuine.counted_step stepped
  answers := genuine.answers_step stepped

theorem genuine_of_reachable (reachable : (machine call groupName outside).Reachable network) :
    network.Genuine := by
  apply reachable.invariant
  · constructor
    · exact sourced_of_empty rfl rfl
    · intro member listed
      cases listed
    · intro member listed
      cases listed
    · intro answer read
      cases read
  · intro state event next _ genuine stepped
    exact genuine.step stepped

/-! ## What lookups find -/

end Invariant

/-! ## A node that two others know at different moments -/

/-- A node is discovered, registers a publisher, and is discovered again by a third node. -/
def spreadRun : List (NetworkEvent Empty) :=
  [.join "a" "192.168.1.10" "123e4567-e89b-12d3-a456-426614174000" 7000 (0, 1, 0) 0,
    .join "b" "192.168.1.11" "123e4567-e89b-12d3-a456-426614174001" 7001 (0, 1, 0) 0,
    .join "c" "192.168.1.12" "123e4567-e89b-12d3-a456-426614174002" 7002 (0, 1, 0) 0,
    .multicast 0, .receive 1 0, .answer 0, .fetchReturns 1 0 0,
    .own 0 (.registerLocalPublisher "image" 7100),
    .multicast 0, .receive 2 1, .answer 0, .fetchReturns 2 0 1]

/-- The group after this run. -/
def spreadGroup : Option (Network Empty Unit) :=
  (machine noHandlers "zlc_default_group_name" ()).exec spreadRun

end Network

end Pyzlc
