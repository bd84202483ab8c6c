import Mathlib.Logic.Function.Basic
import Pyzlc.Foundation.Simulation
import Pyzlc.Nodes.Views

/-!
# A group whose registrations and answers take several steps

A node appends a socket to its description and then raises the version, one registration at a
time, and a worker thread packs the description for an answer meanwhile, the version first, then
the topics, then the services.  Everything else is as in the group whose nodes do either at once.
-/

namespace Pyzlc

open Foundation NodesInfoManager

/-- A group, the registrations whose version is not raised yet, and the answers that are read
off its nodes. -/
structure FineNetwork (η ω : Type) where
  network : Network η ω
  registering : Nat → Option Registration
  readings : List (Nat × Snapshot)

inductive FineEvent (η : Type) where
  | beginService (index : Nat) (serviceName : Text) (port : Int)
  | beginPublisher (index : Nat) (topicName : Text) (port : Int)
  | finishRegistration (index : Nat)
  | readInfoId (index : Nat)
  | readTopics (reading : Nat)
  | readServices (reading : Nat)
  /-- Whatever is one step of a group still. -/
  | whole (event : NetworkEvent η)

/-- The rest of a registration after its append. -/
def Discovery.finishRegistration {η ω : Type} (call : Call η ω) (registration : Registration)
    (state : Discovery η ω) : Discovery η ω :=
  match registration with
  | .service => state.withManager (bumpInfoId state.manager)
  | .publisher => { state with world := (Pair.finishPublisher call).after state.world }

namespace FineNetwork

variable {η ω : Type}

/-- The registration of a node gets on. -/
def register (index : Nat) (member : Member η ω) (discovery : Discovery η ω)
    (registration : Option Registration) (group : FineNetwork η ω) : FineNetwork η ω :=
  { group with
    network := { group.network with
      members := group.network.members.set index { member with discovery := discovery } }
    registering := Function.update group.registering index registration }

/-- `register_local_service` up to and including its append. -/
def beginService (index : Nat) (member : Member η ω) (serviceName : Text) (port : Int)
    (group : FineNetwork η ω) : FineNetwork η ω :=
  if member.manager.checkLocalService serviceName = true ∨
      (member.manager.getServiceInfo serviceName).isSome = true then group
  else group.register index member
    (member.discovery.withManager (appendLocalService serviceName port member.manager))
    (some .service)

/-- `register_local_publisher` up to and including its append. -/
def beginPublisher (index : Nat) (member : Member η ω) (topicName : Text) (port : Int)
    (group : FineNetwork η ω) : FineNetwork η ω :=
  group.register index member
    (member.discovery.withManager (appendLocalTopic topicName port member.manager))
    (some .publisher)

/-- The events of a group that take one step here, too. -/
def isWhole : NetworkEvent η → Bool
  | .answer _ => false
  | .own _ event => ! Discovery.registers event
  | _ => true

def step [DecidableEq η] (call : Call η ω) (groupName : Text) (outside : ω)
    (group : FineNetwork η ω) : FineEvent η → Option (FineNetwork η ω)
  | .beginService index serviceName port => do
      let member ← group.network.members[index]?
      if group.registering index = none then
        some (group.beginService index member serviceName port)
      else none
  | .beginPublisher index topicName port => do
      let member ← group.network.members[index]?
      if group.registering index = none then
        some (group.beginPublisher index member topicName port)
      else none
  | .finishRegistration index => do
      let member ← group.network.members[index]?
      let registration ← group.registering index
      some (group.register index member
        (member.discovery.finishRegistration call registration) none)
  | .readInfoId index => do
      let member ← group.network.members[index]?
      if member.live then
        some { group with
          readings := group.readings ++ [(index, .infoIdRead member.info.infoID)] }
      else none
  | .readTopics reading =>
      match group.readings[reading]? with
      | some (index, .infoIdRead infoId) => do
          let member ← group.network.members[index]?
          some { group with
            readings := group.readings.set reading
              (index, .topicsRead infoId member.info.topics) }
      | _ => none
  | .readServices reading =>
      match group.readings[reading]? with
      | some (index, .topicsRead infoId topics) => do
          let member ← group.network.members[index]?
          some { group with
            network := { group.network with
              answers := group.network.answers ++
                [{ member.info with infoID := infoId, topics := topics }] }
            readings := group.readings.eraseIdx reading }
      | _ => none
  | .whole event =>
      if isWhole event then
        (group.network.step call groupName outside event).map fun network =>
          { group with network := network }
      else none

/-- The runs of such a group, from before its first node. -/
def machine [DecidableEq η] (call : Call η ω) (groupName : Text) (outside : ω) :
    Machine (FineNetwork η ω) (FineEvent η) where
  start := {
    network := (Network.machine call groupName outside).start
    registering := fun _ => none
    readings := [] }
  step := step call groupName outside

/-! ## What a step can do -/

/-- A registration that is not finished has appended a socket that its version does not count. -/
def unraised (registration : Option Registration) : Int := if registration.isSome then 1 else 0

/-- One step of a registration changes the node's own description only, and loses none of it. -/
structure Registers (before after : Option Registration) (state next : Discovery η ω) :
    Prop where
  registry : next.registry = state.registry
  pending : next.pending = state.pending
  grown : state.manager.localNodeInfo.PartOf next.manager.localNodeInfo
  counted : next.manager.localNodeInfo.sockets - next.manager.localNodeInfo.infoID -
      unraised after =
    state.manager.localNodeInfo.sockets - state.manager.localNodeInfo.infoID - unraised before

theorem registers_appendLocalService (serviceName : Text) (port : Int) (state : Discovery η ω) :
    Registers none (some .service) state
      (state.withManager (appendLocalService serviceName port state.manager)) where
  registry := rfl
  pending := rfl
  grown := ⟨rfl, rfl, le_rfl, List.prefix_rfl, List.prefix_append _ _⟩
  counted := by
    simp only [NodeInfo.sockets, Discovery.withManager, Discovery.manager, appendLocalService,
      List.length_append, List.length_singleton, unraised, Option.isSome, Nat.cast_add,
      Nat.cast_one, if_true]
    simp only [Bool.false_eq_true, if_false]
    omega

theorem registers_appendLocalTopic (topicName : Text) (port : Int) (state : Discovery η ω) :
    Registers none (some .publisher) state
      (state.withManager (appendLocalTopic topicName port state.manager)) where
  registry := rfl
  pending := rfl
  grown := ⟨rfl, rfl, le_rfl, List.prefix_append _ _, List.prefix_rfl⟩
  counted := by
    simp only [NodeInfo.sockets, Discovery.withManager, Discovery.manager, appendLocalTopic,
      List.length_append, List.length_singleton, unraised, Option.isSome, Nat.cast_add,
      Nat.cast_one, if_true]
    simp only [Bool.false_eq_true, if_false]
    omega

/-- Whatever is left of a registration, its description is what raising the version makes of it. -/
theorem localNodeInfo_finishRegistration (call : Call η ω) (registration : Registration)
    (state : Discovery η ω) :
    (state.finishRegistration call registration).manager.localNodeInfo =
        (bumpInfoId state.manager).localNodeInfo ∧
      (state.finishRegistration call registration).registry = state.registry ∧
      (state.finishRegistration call registration).pending = state.pending := by
  cases registration with
  | service => exact ⟨rfl, rfl, rfl⟩
  | publisher =>
      have onlyEvents := Pair.after_finishPublisher call state.world
      exact ⟨onlyEvents.localNodeInfo, onlyEvents.registry, rfl⟩

theorem registers_finishRegistration (call : Call η ω) (registration : Registration)
    (state : Discovery η ω) :
    Registers (some registration) none state (state.finishRegistration call registration) := by
  rcases localNodeInfo_finishRegistration call registration state with
    ⟨description, registry, pending⟩
  constructor
  · exact registry
  · exact pending
  · rw [description]
    exact ⟨rfl, rfl, Int.le_add_one le_rfl, List.prefix_rfl, List.prefix_rfl⟩
  · rw [description]
    simp only [NodeInfo.sockets, bumpInfoId, unraised, Option.isSome, if_true]
    simp only [Bool.false_eq_true, if_false]
    omega

/-- A registration gets on, an answer is read one field further, a group takes a step, or a name
is refused. -/
inductive StepCase [DecidableEq η] (call : Call η ω) (groupName : Text) (outside : ω)
    (group : FineNetwork η ω) : FineNetwork η ω → Prop where
  | refused : StepCase call groupName outside group group
  | registered (index : Nat) (member : Member η ω) (discovery : Discovery η ω)
      (registration : Option Registration)
      (found : group.network.members[index]? = some member)
      (registers : Registers (group.registering index) registration member.discovery discovery) :
      StepCase call groupName outside group (group.register index member discovery registration)
  | infoIdRead (index : Nat) (member : Member η ω)
      (found : group.network.members[index]? = some member) :
      StepCase call groupName outside group { group with
        readings := group.readings ++ [(index, .infoIdRead member.info.infoID)] }
  | topicsRead (reading index : Nat) (infoId : Int) (member : Member η ω)
      (reads : group.readings[reading]? = some (index, .infoIdRead infoId))
      (found : group.network.members[index]? = some member) :
      StepCase call groupName outside group { group with
        readings := group.readings.set reading (index, .topicsRead infoId member.info.topics) }
  | servicesRead (reading index : Nat) (infoId : Int) (topics : List SocketInfo)
      (member : Member η ω)
      (reads : group.readings[reading]? = some (index, .topicsRead infoId topics))
      (found : group.network.members[index]? = some member) :
      StepCase call groupName outside group { group with
        network := { group.network with
          answers := group.network.answers ++
            [{ member.info with infoID := infoId, topics := topics }] }
        readings := group.readings.eraseIdx reading }
  | whole (event : NetworkEvent η) (network : Network η ω) (isWhole : isWhole event = true)
      (stepped : group.network.step call groupName outside event = some network) :
      StepCase call groupName outside group { group with network := network }

section Steps

variable [DecidableEq η] {call : Call η ω} {groupName : Text} {outside : ω}
  {group next : FineNetwork η ω} {event : FineEvent η}

theorem stepCase_of_step (stepped : group.step call groupName outside event = some next) :
    StepCase call groupName outside group next := by
  cases event with
  | beginService index serviceName port =>
      rcases Option.bind_eq_some_iff.1 stepped with ⟨member, found, rest⟩
      rcases Option.ite_none_right_eq_some.1 rest with ⟨idle, same⟩
      cases same
      unfold beginService
      split
      next => exact .refused
      next =>
        apply StepCase.registered index member _ _ found
        rw [idle]
        exact registers_appendLocalService serviceName port member.discovery
  | beginPublisher index topicName port =>
      rcases Option.bind_eq_some_iff.1 stepped with ⟨member, found, rest⟩
      rcases Option.ite_none_right_eq_some.1 rest with ⟨idle, same⟩
      cases same
      apply StepCase.registered index member _ _ found
      rw [idle]
      exact registers_appendLocalTopic topicName port member.discovery
  | finishRegistration index =>
      rcases Option.bind_eq_some_iff.1 stepped with ⟨member, found, rest⟩
      rcases Option.bind_eq_some_iff.1 rest with ⟨registration, underWay, same⟩
      cases same
      apply StepCase.registered index member _ _ found
      rw [underWay]
      exact registers_finishRegistration call registration member.discovery
  | readInfoId index =>
      rcases Option.bind_eq_some_iff.1 stepped with ⟨member, found, rest⟩
      rcases Option.ite_none_right_eq_some.1 rest with ⟨_, same⟩
      cases same
      exact .infoIdRead index member found
  | readTopics reading =>
      simp only [step] at stepped
      split at stepped
      next index infoId reads =>
        rcases Option.bind_eq_some_iff.1 stepped with ⟨member, found, same⟩
        cases same
        exact .topicsRead reading index infoId member reads found
      next => cases stepped
  | readServices reading =>
      simp only [step] at stepped
      split at stepped
      next index infoId topics reads =>
        rcases Option.bind_eq_some_iff.1 stepped with ⟨member, found, same⟩
        cases same
        exact .servicesRead reading index infoId topics member reads found
      next => cases stepped
  | whole event =>
      rcases Option.ite_none_right_eq_some.1 stepped with ⟨isWhole, rest⟩
      rcases Option.map_eq_some_iff.1 rest with ⟨network, taken, same⟩
      cases same
      exact .whole event network isWhole taken

/-! ## Steps in a row -/

/-- The steps that a step of a group whose nodes register and answer at once is made of. -/
def fineEvents (network : Network η ω) : NetworkEvent η → List (FineEvent η)
  | .answer index => [.readInfoId index, .readTopics 0, .readServices 0]
  | .own index (.registerLocalService serviceName port) =>
      if (network.members[index]?).any fun member =>
          member.manager.checkLocalService serviceName ||
            (member.manager.getServiceInfo serviceName).isSome then
        [.beginService index serviceName port]
      else [.beginService index serviceName port, .finishRegistration index]
  | .own index (.registerLocalPublisher topicName port) =>
      [.beginPublisher index topicName port, .finishRegistration index]
  | event => [.whole event]

/-- A group with nothing under way. -/
def settled (network : Network η ω) : FineNetwork η ω :=
  { network := network, registering := fun _ => none, readings := [] }

/-- The one group is the other with nothing under way. -/
def Settles (network : Network η ω) (group : FineNetwork η ω) : Prop := group = settled network

theorem execFrom_whole {network later : Network η ω} {event : NetworkEvent η}
    (alone : fineEvents network event = [.whole event]) (isWhole : isWhole event = true)
    (stepped : network.step call groupName outside event = some later) :
    (machine call groupName outside).execFrom (settled network) (fineEvents network event) =
      some (settled later) := by
  rw [alone, Machine.execFrom_singleton]
  show (settled network).step call groupName outside (.whole event) = _
  simp only [step, isWhole, if_true, settled, stepped, Option.map_some]

omit [DecidableEq η] in
theorem register_settled {network : Network η ω} {index : Nat} {member : Member η ω}
    (discovery : Discovery η ω) :
    (settled network).register index member discovery none =
      settled { network with
        members := network.members.set index { member with discovery := discovery } } := by
  simp only [register, settled]
  congr 1
  exact Function.update_eq_self_iff.2 rfl

/-- A registration that is finished at once. -/
theorem step_finishRegistration {network : Network η ω} {index : Nat} {member : Member η ω}
    (found : network.members[index]? = some member) (discovery : Discovery η ω)
    (registration : Registration) :
    (machine call groupName outside).step
        ((settled network).register index member discovery (some registration))
        (.finishRegistration index) =
      some (settled { network with
        members := network.members.set index
          { member with discovery := discovery.finishRegistration call registration } }) := by
  have there : (network.members.set index { member with discovery := discovery })[index]? =
      some { member with discovery := discovery } := by
    rw [Serials.getElem?_update found, if_pos rfl]
  rw [← register_settled]
  simp only [machine, step, register, settled, there, Function.update_self, Option.bind_eq_bind,
    Option.bind_some, List.set_set, Function.update_idem]

theorem execFrom_registerLocalService {network : Network η ω} {index : Nat}
    {member : Member η ω} (found : network.members[index]? = some member) (serviceName : Text)
    (port : Int) :
    (machine call groupName outside).execFrom (settled network)
        (fineEvents network (.own index (.registerLocalService serviceName port))) =
      some (settled { network with
        members := network.members.set index { member with
          discovery := member.discovery.withManager
            ((registerLocalService serviceName port).after member.manager) } }) := by
  have begun : (machine call groupName outside).step (settled network)
      (.beginService index serviceName port) =
        some ((settled network).beginService index member serviceName port) := by
    simp only [machine, step, settled, found, Option.bind_eq_bind, Option.bind_some, if_true]
  have taken_iff : (network.members[index]?).any (fun member =>
      member.manager.checkLocalService serviceName ||
        (member.manager.getServiceInfo serviceName).isSome) = true ↔
      member.manager.checkLocalService serviceName = true ∨
        (member.manager.getServiceInfo serviceName).isSome = true := by
    rw [found, Option.any_some, Bool.or_eq_true]
  rw [after_registerLocalService]
  simp only [fineEvents, taken_iff]
  split
  next taken =>
    rw [Machine.execFrom_singleton, begun, beginService, if_pos taken]
    have same : network.members.set index member = network.members := by
      apply List.ext_getElem?
      intro other
      rw [Serials.getElem?_update found]
      split
      next here => rw [here, found]
      next => rfl
    exact congrArg (fun members => some (settled { network with members := members })) same.symm
  next free =>
    rw [Machine.execFrom_cons_of_step begun, Machine.execFrom_singleton, beginService, if_neg free]
    exact step_finishRegistration found _ .service

theorem execFrom_registerLocalPublisher {network : Network η ω} {index : Nat}
    {member : Member η ω} (found : network.members[index]? = some member) (topicName : Text)
    (port : Int) :
    (machine call groupName outside).execFrom (settled network)
        (fineEvents network (.own index (.registerLocalPublisher topicName port))) =
      some (settled { network with
        members := network.members.set index { member with
          discovery := { member.discovery with
            world := (registerLocalPublisher call topicName port).after
              member.discovery.world } } }) := by
  have begun : (machine call groupName outside).step (settled network)
      (.beginPublisher index topicName port) =
        some ((settled network).beginPublisher index member topicName port) := by
    simp only [machine, step, settled, found, Option.bind_eq_bind, Option.bind_some, if_true]
  have method : (member.discovery.withManager
      (appendLocalTopic topicName port member.discovery.manager)).finishRegistration call
        .publisher =
      { member.discovery with
        world := (registerLocalPublisher call topicName port).after member.discovery.world } := by
    unfold registerLocalPublisher
    rw [Action.after_bind_of_ok (run_onManager_modify _ member.discovery.world)]
    rfl
  rw [fineEvents, Machine.execFrom_cons_of_step begun, Machine.execFrom_singleton, ← method]
  exact step_finishRegistration found _ .publisher

/-- Every run of a group whose nodes register and answer at once is a run of one whose nodes take
several steps for it, with the steps in a row. -/
theorem exec_of_network {trace : List (NetworkEvent η)} {network : Network η ω}
    (run : (Network.machine call groupName outside).exec trace = some network) :
    (machine call groupName outside).exec
        ((Network.machine call groupName outside).actionsAlong fineEvents
          (Network.machine call groupName outside).start trace) =
      some (settled network) := by
  have simulated : ∀ (network : Network η ω) (event : NetworkEvent η) (later : Network η ω)
      (group : FineNetwork η ω), Settles network group →
      network.step call groupName outside event = some later →
      ∃ after, (machine call groupName outside).execFrom group (fineEvents network event) =
        some after ∧ Settles later after := by
    rintro network event later _ rfl stepped
    refine ⟨settled later, ?_, rfl⟩
    cases event with
    | answer index =>
        rcases Option.bind_eq_some_iff.1 stepped with ⟨member, found, rest⟩
        rcases Option.ite_none_right_eq_some.1 rest with ⟨live, same⟩
        cases same
        simp [fineEvents, machine, Machine.execFrom, step, settled, found, live]
    | own index event =>
        rcases Option.ite_none_right_eq_some.1 stepped with ⟨isOwn, rest⟩
        rcases Option.bind_eq_some_iff.1 rest with ⟨member, found, acts⟩
        cases event with
        | registerLocalService serviceName port =>
            cases acts
            exact execFrom_registerLocalService found serviceName port
        | registerLocalPublisher topicName port =>
            cases acts
            exact execFrom_registerLocalPublisher found topicName port
        | heartbeat | fetchEnds | updateNode => cases isOwn
        | advance | sweep | cancelMonitor | stopRunning | removeNode | registerNodeUpdateHandler
        | unregisterNodeUpdateHandler => exact execFrom_whole rfl rfl stepped
    | join | leave | multicast | receive | fetchReturns | fetchFails =>
        exact execFrom_whole rfl rfl stepped
  have start : Settles (Network.machine call groupName outside).start
      (machine call groupName outside).start := rfl
  rcases Machine.exec_of_simulated start simulated run with ⟨last, ran, same⟩
  rw [ran, show last = settled network from same]

end Steps

end FineNetwork

end Pyzlc
