import Pyzlc.Nodes.Discovery
import Pyzlc.Nodes.Multicast

/-!
# The nodes of a group

Any number of nodes that join and leave, each with its discovery.  A datagram that was sent
and a description that was read for an answer stay for good, so they may arrive late, in any
order, repeatedly or never; a fetch ends with any answer that was ever read, or fails.  A node
registers in one step, and a description is read in one step.
-/

namespace Pyzlc

open Foundation

/-- A node of the group; one that has left is not live. -/
structure Member (η ω : Type) where
  discovery : Discovery η ω
  servicePort : Int
  protocolVersion : Int × Int × Int
  live : Bool

structure Network (η ω : Type) where
  members : List (Member η ω)
  datagrams : List (Bytes × Text)
  answers : List NodeInfo

inductive NetworkEvent (η : Type) where
  | join (localName localIp nodeID : Text) (servicePort : Int) (protocolVersion : Int × Int × Int)
      (now : ℚ)
  | leave (index : Nat)
  /-- One round of `_multicast_loop`. -/
  | multicast (index : Nat)
  /-- A datagram reaches `_discovery_loop`. -/
  | receive (index datagram : Nat)
  /-- `_get_node_info_handler`. -/
  | answer (index : Nat)
  | fetchReturns (index fetch answer : Nat)
  | fetchFails (index fetch : Nat) (raised : Bool)
  /-- What a node does without the network. -/
  | own (index : Nat) (event : DiscoveryEvent η)

namespace Member

variable {η ω : Type}

def manager (member : Member η ω) : NodesInfoManager η := member.discovery.manager

def info (member : Member η ω) : NodeInfo := member.manager.localNodeInfo

/-- The node's multicast worker. -/
def worker (groupName : Text) (member : Member η ω) : MulticastWorker where
  localInfo := member.info
  servicePort := member.servicePort
  groupName := groupName
  protocolVersion := member.protocolVersion

/-- The service that every node registers when it is initialized. -/
def builtIn : Text := "get_node_info"

/-- A node right after `pyzlc.init`. -/
def start (outside : ω) (localName localIp nodeID : Text) (servicePort : Int)
    (protocolVersion : Int × Int × Int) (now : ℚ) : Member η ω :=
  let fresh : Discovery η ω := .init localName localIp nodeID outside now
  { discovery := fresh.withManager
      ((NodesInfoManager.registerLocalService builtIn servicePort).after fresh.manager)
    servicePort := servicePort
    protocolVersion := protocolVersion
    live := true }

end Member

namespace Network

open Discovery

variable {η ω : Type} [DecidableEq η]

/-- One node takes a step of its discovery. -/
def stepMember (call : NodesInfoManager.Call η ω) (index : Nat) (event : DiscoveryEvent η)
    (network : Network η ω) : Option (Network η ω) := do
  let member ← network.members[index]?
  let discovery ← member.discovery.step call event
  some { network with members := network.members.set index { member with discovery := discovery } }

/-- The events of a node that do not come from the network. -/
def isOwn : DiscoveryEvent η → Bool
  | .heartbeat _ _ | .fetchEnds _ _ | .updateNode _ => false
  | _ => true

def step (call : NodesInfoManager.Call η ω) (groupName : Text) (outside : ω)
    (network : Network η ω) : NetworkEvent η → Option (Network η ω)
  | .join localName localIp nodeID servicePort protocolVersion now =>
      if ∀ member ∈ network.members, member.info.nodeID ≠ nodeID then
        some { network with
          members := network.members ++
            [.start outside localName localIp nodeID servicePort protocolVersion now] }
      else none
  | .leave index => do
      let member ← network.members[index]?
      some { network with members := network.members.set index { member with live := false } }
  | .multicast index => do
      let member ← network.members[index]?
      if member.live then
        match (member.worker groupName).multicastDatagram with
        | .ok datagram => some { network with
            datagrams := network.datagrams ++ [(datagram, member.info.ip)] }
        | .error _ => some network
      else none
  | .receive index datagram => do
      let member ← network.members[index]?
      let sent ← network.datagrams[datagram]?
      match (member.worker groupName).discover sent.1 sent.2 with
      | some (message, nodeIp) => network.stepMember call index (.heartbeat message nodeIp)
      | none => some network
  | .answer index => do
      let member ← network.members[index]?
      if member.live then some { network with answers := network.answers ++ [member.info] }
      else none
  | .fetchReturns index fetch answer => do
      let info ← network.answers[answer]?
      network.stepMember call index (.fetchEnds fetch (.value info))
  | .fetchFails index fetch raised =>
      network.stepMember call index (.fetchEnds fetch (if raised then .raised else .none))
  | .own index event => if isOwn event then network.stepMember call index event else none

/-- The runs of a group, from before its first node. -/
def machine (call : NodesInfoManager.Call η ω) (groupName : Text) (outside : ω) :
    Machine (Network η ω) (NetworkEvent η) where
  start := { members := [], datagrams := [], answers := [] }
  step := step call groupName outside

/-! ## What a step can do -/

/-- What an event does to the members: one more, one gone, a step of one, or nothing. -/
inductive StepCase (call : NodesInfoManager.Call η ω) (outside : ω) (network : Network η ω) :
    NetworkEvent η → List (Member η ω) → Prop where
  | joined (localName localIp nodeID : Text) (servicePort : Int)
      (protocolVersion : Int × Int × Int) (now : ℚ) :
      StepCase call outside network
        (.join localName localIp nodeID servicePort protocolVersion now)
        (network.members ++
          [.start outside localName localIp nodeID servicePort protocolVersion now])
  | left (index : Nat) (member : Member η ω) (found : network.members[index]? = some member) :
      StepCase call outside network (.leave index)
        (network.members.set index { member with live := false })
  | exchanged (event : NetworkEvent η) (quiet : ∀ index own, event ≠ .own index own) :
      StepCase call outside network event network.members
  | delivered (event : NetworkEvent η) (index : Nat) (member : Member η ω)
      (delivery : DiscoveryEvent η) (discovery : Discovery η ω)
      (quiet : ∀ index own, event ≠ .own index own) (notOwn : registers delivery = false)
      (found : network.members[index]? = some member)
      (stepped : member.discovery.step call delivery = some discovery) :
      StepCase call outside network event
        (network.members.set index { member with discovery := discovery })
  | acted (index : Nat) (member : Member η ω) (event : DiscoveryEvent η)
      (discovery : Discovery η ω) (found : network.members[index]? = some member)
      (stepped : member.discovery.step call event = some discovery) :
      StepCase call outside network (.own index event)
        (network.members.set index { member with discovery := discovery })

theorem stepMember_eq_some {call : NodesInfoManager.Call η ω} {index : Nat}
    {event : DiscoveryEvent η} {network next : Network η ω}
    (stepped : network.stepMember call index event = some next) :
    ∃ member discovery, network.members[index]? = some member ∧
      member.discovery.step call event = some discovery ∧
      next.members = network.members.set index { member with discovery := discovery } := by
  rcases Option.bind_eq_some_iff.1 stepped with ⟨member, found, rest⟩
  rcases Option.bind_eq_some_iff.1 rest with ⟨discovery, memberStepped, same⟩
  cases same
  exact ⟨member, discovery, found, memberStepped, rfl⟩

theorem stepCase_of_step {call : NodesInfoManager.Call η ω} {groupName : Text} {outside : ω}
    {network next : Network η ω} {event : NetworkEvent η}
    (stepped : network.step call groupName outside event = some next) :
    StepCase call outside network event next.members := by
  cases event with
  | join localName localIp nodeID servicePort protocolVersion now =>
      rcases Option.ite_none_right_eq_some.1 stepped with ⟨-, same⟩
      cases same
      exact .joined localName localIp nodeID servicePort protocolVersion now
  | leave index =>
      rcases Option.bind_eq_some_iff.1 stepped with ⟨member, found, same⟩
      cases same
      exact .left index member found
  | multicast index =>
      rcases Option.bind_eq_some_iff.1 stepped with ⟨member, found, rest⟩
      rcases Option.ite_none_right_eq_some.1 rest with ⟨-, sent⟩
      cases datagram : (member.worker groupName).multicastDatagram with
      | ok bytes =>
          rw [datagram] at sent
          cases sent
          exact .exchanged _ nofun
      | error error =>
          rw [datagram] at sent
          cases sent
          exact .exchanged _ nofun
  | receive index datagram =>
      rcases Option.bind_eq_some_iff.1 stepped with ⟨member, found, rest⟩
      rcases Option.bind_eq_some_iff.1 rest with ⟨sent, foundSent, outcome⟩
      cases accepted : (member.worker groupName).discover sent.1 sent.2 with
      | none =>
          rw [accepted] at outcome
          cases outcome
          exact .exchanged _ nofun
      | some submitted =>
          rw [accepted] at outcome
          rcases stepMember_eq_some outcome with ⟨receiver, discovery, foundReceiver, heard, same⟩
          rw [same]
          exact .delivered _ index receiver _ discovery nofun rfl foundReceiver heard
  | answer index =>
      rcases Option.bind_eq_some_iff.1 stepped with ⟨member, found, rest⟩
      rcases Option.ite_none_right_eq_some.1 rest with ⟨-, same⟩
      cases same
      exact .exchanged _ nofun
  | fetchReturns index fetch answer =>
      rcases Option.bind_eq_some_iff.1 stepped with ⟨info, read, outcome⟩
      rcases stepMember_eq_some outcome with ⟨member, discovery, found, ended, same⟩
      rw [same]
      exact .delivered _ index member _ discovery nofun rfl found ended
  | fetchFails index fetch raised =>
      rcases stepMember_eq_some stepped with ⟨member, discovery, found, ended, same⟩
      rw [same]
      exact .delivered _ index member _ discovery nofun rfl found ended
  | own index event =>
      rcases Option.ite_none_right_eq_some.1 stepped with ⟨-, outcome⟩
      rcases stepMember_eq_some outcome with ⟨member, discovery, found, acted, same⟩
      rw [same]
      exact .acted index member event discovery found acted

end Network

end Pyzlc
