import Pyzlc.Foundation.Serials
import Pyzlc.Nodes.Network

/-!
# Service names in a group

`register_local_service` refuses a name that the node lists itself or that a description in
its own `nodes_info` lists.  Another node that lists the name without being known under it is
not noticed, so a group keeps its names apart exactly as long as every registration of a
taken name is made by a node that knows the name.
-/

namespace Pyzlc

open Foundation

/-! ## Whether a node lists a name, and whether it knows it -/

namespace NodesInfoManager

variable {η ω : Type}

/-- A description in `nodes_info` lists a service of this name. -/
def KnowsService (manager : NodesInfoManager η) (serviceName : Text) : Prop :=
  ∃ info ∈ manager.nodesInfo.values, ∃ service ∈ info.services, service.name = serviceName

instance (manager : NodesInfoManager η) (serviceName : Text) :
    Decidable (manager.KnowsService serviceName) :=
  inferInstanceAs (Decidable (∃ info ∈ manager.nodesInfo.values, ∃ service ∈ info.services,
    service.name = serviceName))

theorem checkLocalService_iff {manager : NodesInfoManager η} {serviceName : Text} :
    manager.checkLocalService serviceName = true ↔
      ∃ service ∈ manager.localNodeInfo.services, service.name = serviceName := by
  simp only [checkLocalService, List.any_eq_true, decide_eq_true_eq]

theorem getServiceInfo_isSome_iff {manager : NodesInfoManager η} {serviceName : Text} :
    (manager.getServiceInfo serviceName).isSome = true ↔
      manager.KnowsService serviceName ∨ manager.checkLocalService serviceName = true := by
  simp only [getServiceInfo, Option.isSome_or, Bool.or_eq_true, List.findSome?_isSome_iff,
    List.find?_isSome, decide_eq_true_eq, KnowsService, checkLocalService_iff]

theorem checkLocalService_appendLocalService {manager : NodesInfoManager η}
    {registered serviceName : Text} {port : Int} :
    (bumpInfoId (appendLocalService registered port manager)).checkLocalService serviceName = true ↔
      manager.checkLocalService serviceName = true ∨ registered = serviceName := by
  simp only [checkLocalService_iff, bumpInfoId, appendLocalService, List.mem_append,
    List.mem_singleton, or_and_right, exists_or, exists_eq_left]

/-- A registration adds its name unless another node is known to list it. -/
theorem checkLocalService_registerLocalService {manager : NodesInfoManager η}
    {registered serviceName : Text} {port : Int} :
    ((registerLocalService registered port).after manager).checkLocalService serviceName = true ↔
      manager.checkLocalService serviceName = true ∨
        registered = serviceName ∧ ¬ manager.KnowsService registered := by
  rw [after_registerLocalService]
  split
  next refused =>
    rw [getServiceInfo_isSome_iff] at refused
    constructor
    · exact Or.inl
    · intro listed
      rcases listed with before | ⟨same, unknown⟩
      · exact before
      · rcases refused with here | known | here
        · exact same ▸ here
        · exact absurd known unknown
        · exact same ▸ here
  next free =>
    rw [getServiceInfo_isSome_iff] at free
    have unknown : ¬ manager.KnowsService registered := fun known => free (Or.inr (Or.inl known))
    rw [checkLocalService_appendLocalService, and_iff_left unknown]

theorem checkLocalService_registerLocalPublisher (call : Call η ω) (topicName : Text) (port : Int)
    (world : World η ω) (serviceName : Text) :
    ((registerLocalPublisher call topicName port).after world).1.checkLocalService serviceName =
      world.1.checkLocalService serviceName := by
  have kept := (after_registerLocalPublisher call topicName port world).localNodeInfo
  rw [checkLocalService, kept]
  rfl

end NodesInfoManager

namespace Discovery

open NodesInfoManager

variable {η ω : Type} [DecidableEq η]

/-- A step of a node lists a new name only by a registration it does not refuse. -/
theorem checkLocalService_step {call : Call η ω} {state next : Discovery η ω}
    {event : DiscoveryEvent η} (wellFormed : state.registry.WellFormed)
    (stepped : state.step call event = some next) (serviceName : Text) :
    next.manager.checkLocalService serviceName = true ↔
      state.manager.checkLocalService serviceName = true ∨
        (∃ port, event = .registerLocalService serviceName port) ∧
          ¬ state.manager.KnowsService serviceName := by
  cases registering : registers event with
  | false =>
      have other : ¬ ((∃ port, event = .registerLocalService serviceName port) ∧
          ¬ state.manager.KnowsService serviceName) := by
        rintro ⟨⟨port, same⟩, _⟩
        rw [same] at registering
        cases registering
      rw [or_iff_left other, checkLocalService, localNodeInfo_step wellFormed registering stepped]
      exact Iff.rfl
  | true =>
      cases stepCase_of_step stepped with
      | registerLocalService registered port =>
          apply checkLocalService_registerLocalService.trans
          apply or_congr_right
          constructor
          · rintro ⟨rfl, unknown⟩
            exact ⟨⟨port, rfl⟩, unknown⟩
          · rintro ⟨⟨_, same⟩, unknown⟩
            cases same
            exact ⟨rfl, unknown⟩
      | registerLocalPublisher topicName port =>
          have kept := checkLocalService_registerLocalPublisher call topicName port state.world
            serviceName
          rw [manager, kept, or_iff_left]
          · exact Iff.rfl
          · rintro ⟨⟨_, same⟩, _⟩
            cases same
      | _ => cases registering

end Discovery

/-! ## Who owns a name -/

/-- The node and the name of a call of `register_local_service`. -/
def NetworkEvent.registration {η : Type} : NetworkEvent η → Option (Nat × Text)
  | .own index (.registerLocalService serviceName _) => some (index, serviceName)
  | _ => none

namespace Network

open Discovery NodesInfoManager

variable {η ω : Type}

/-- A live node lists a service of this name. -/
def Owns (network : Network η ω) (index : Nat) (serviceName : Text) : Prop :=
  ∃ member ∈ network.members[index]?, member.live = true ∧
    member.manager.checkLocalService serviceName = true

instance (network : Network η ω) (index : Nat) (serviceName : Text) :
    Decidable (network.Owns index serviceName) :=
  inferInstanceAs (Decidable (∃ member ∈ network.members[index]?, member.live = true ∧
    member.manager.checkLocalService serviceName = true))

/-- Every name but the built-in one has at most one owner. -/
def Unique (network : Network η ω) : Prop :=
  ∀ serviceName, serviceName ≠ Member.builtIn → ∀ first second,
    network.Owns first serviceName → network.Owns second serviceName → first = second

def OwnedElsewhere (network : Network η ω) (index : Nat) (serviceName : Text) : Prop :=
  ∃ other ∈ List.range network.members.length, other ≠ index ∧ network.Owns other serviceName

instance (network : Network η ω) (index : Nat) (serviceName : Text) :
    Decidable (network.OwnedElsewhere index serviceName) :=
  inferInstanceAs (Decidable (∃ other ∈ List.range network.members.length,
    other ≠ index ∧ network.Owns other serviceName))

/-- A live node that registers a name another live node owns knows a service of that name. -/
def Informed (network : Network η ω) (event : NetworkEvent η) : Prop :=
  ∀ request ∈ event.registration, request.2 ≠ Member.builtIn →
    ∀ member ∈ network.members[request.1]?, member.live = true →
      network.OwnedElsewhere request.1 request.2 → member.manager.KnowsService request.2

instance (network : Network η ω) : DecidablePred network.Informed := fun event =>
  inferInstanceAs (Decidable (∀ request ∈ event.registration, request.2 ≠ Member.builtIn →
    ∀ member ∈ network.members[request.1]?, member.live = true →
      network.OwnedElsewhere request.1 request.2 → member.manager.KnowsService request.2))

/-- A live node registers a name that it does not know of another node. -/
def Takes (network : Network η ω) (event : NetworkEvent η) (index : Nat) (serviceName : Text) :
    Prop :=
  (index, serviceName) ∈ event.registration ∧
    ∃ member ∈ network.members[index]?, member.live = true ∧
      ¬ member.manager.KnowsService serviceName

/-- The registry of every node is well formed. -/
def WellFormed (network : Network η ω) : Prop :=
  ∀ (index : Nat) (member : Member η ω), network.members[index]? = some member →
    member.discovery.registry.WellFormed

theorem ownedElsewhere_of_owns {network : Network η ω} {index other : Nat} {serviceName : Text}
    (owns : network.Owns other serviceName) (different : other ≠ index) :
    network.OwnedElsewhere index serviceName := by
  have owner := owns
  rcases owner with ⟨member, found, _⟩
  have within : other < network.members.length := (List.getElem?_eq_some_iff.1 found).1
  exact ⟨other, List.mem_range.2 within, different, owns⟩

/-- Under the condition, a name that is taken has no other owner. -/
theorem eq_of_takes {network : Network η ω} {event : NetworkEvent η} {first second : Nat}
    {serviceName : Text} (informed : network.Informed event)
    (custom : serviceName ≠ Member.builtIn) (takes : network.Takes event first serviceName)
    (owns : network.Owns second serviceName) : second = first := by
  rcases takes with ⟨asks, member, found, live, unknown⟩
  by_contra different
  apply unknown
  exact informed _ asks custom member found live (ownedElsewhere_of_owns owns different)

/-! ## What a step does to the owners -/

theorem checkLocalService_start {outside : ω} {localName localIp nodeID serviceName : Text}
    {servicePort : Int} {protocolVersion : Int × Int × Int} {now : ℚ}
    (listed : (Member.start outside localName localIp nodeID servicePort protocolVersion now :
      Member η ω).manager.checkLocalService serviceName = true) :
    serviceName = Member.builtIn := by
  let fresh : NodesInfoManager η := .init localName localIp nodeID
  have registered : ((registerLocalService Member.builtIn servicePort).after
      fresh).checkLocalService serviceName = true ↔ _ := checkLocalService_registerLocalService
  rcases registered.1 listed with before | ⟨same, _⟩
  · cases before
  · exact same.symm

theorem wellFormed_start (outside : ω) (localName localIp nodeID : Text) (servicePort : Int)
    (protocolVersion : Int × Int × Int) (now : ℚ) :
    (Member.start outside localName localIp nodeID servicePort protocolVersion now :
      Member η ω).discovery.registry.WellFormed := by
  show Registry.WellFormed (((registerLocalService Member.builtIn servicePort).after
    (NodesInfoManager.init localName localIp nodeID : NodesInfoManager η)).registry)
  rw [registry_registerLocalService]
  exact wellFormed_init (η := η) localName localIp nodeID outside now

variable [DecidableEq η] {call : NodesInfoManager.Call η ω} {outside : ω}
  {network next : Network η ω} {event : NetworkEvent η}

theorem wellFormed_step (wellFormed : network.WellFormed)
    (stepped : StepCase call outside network event next.members) : next.WellFormed := by
  intro index member found
  generalize grown : next.members = members at stepped
  rw [grown] at found
  cases stepped with
  | joined localName localIp nodeID servicePort protocolVersion now =>
      rcases Serials.found_of_add found with ⟨_, before⟩ | ⟨_, last⟩
      · exact wellFormed index member before
      · rw [last]
        exact wellFormed_start outside localName localIp nodeID servicePort protocolVersion now
  | left leaving gone foundLeaving =>
      rcases Serials.found_of_update foundLeaving found with ⟨_, rfl⟩ | ⟨_, before⟩
      · exact wellFormed leaving gone foundLeaving
      · exact wellFormed index member before
  | exchanged => exact wellFormed index member found
  | delivered _ acting actor _ discovery _ _ foundActor memberStepped
  | acted acting actor _ discovery foundActor memberStepped =>
      rcases Serials.found_of_update foundActor found with ⟨_, rfl⟩ | ⟨_, before⟩
      · have acted := wellFormed acting actor foundActor
        exact (registryStep_of_step acted memberStepped).wellFormed acted
      · exact wellFormed index member before

/-- A node owns after a step what it owned before and what it took. -/
theorem owns_of_step {index : Nat} {serviceName : Text} (wellFormed : network.WellFormed)
    (custom : serviceName ≠ Member.builtIn)
    (stepped : StepCase call outside network event next.members)
    (owns : next.Owns index serviceName) :
    network.Owns index serviceName ∨ network.Takes event index serviceName := by
  rcases owns with ⟨member, found, live, lists⟩
  generalize grown : next.members = members at stepped
  rw [grown] at found
  cases stepped with
  | joined =>
      rcases Serials.found_of_add found with ⟨_, before⟩ | ⟨_, last⟩
      · exact Or.inl ⟨member, before, live, lists⟩
      · rw [last] at lists
        exact absurd (checkLocalService_start lists) custom
  | left leaving gone foundLeaving =>
      rcases Serials.found_of_update foundLeaving found with ⟨_, rfl⟩ | ⟨_, before⟩
      · cases live
      · exact Or.inl ⟨member, before, live, lists⟩
  | exchanged => exact Or.inl ⟨member, found, live, lists⟩
  | delivered _ acting actor delivery discovery _ notOwn foundActor memberStepped =>
      rcases Serials.found_of_update foundActor found with ⟨rfl, rfl⟩ | ⟨_, before⟩
      · rcases (checkLocalService_step (wellFormed index actor foundActor) memberStepped
          serviceName).1 lists with listed | ⟨⟨_, registers⟩, _⟩
        · exact Or.inl ⟨actor, foundActor, live, listed⟩
        · rw [registers] at notOwn
          cases notOwn
      · exact Or.inl ⟨member, before, live, lists⟩
  | acted acting actor own discovery foundActor memberStepped =>
      rcases Serials.found_of_update foundActor found with ⟨rfl, rfl⟩ | ⟨_, before⟩
      · rcases (checkLocalService_step (wellFormed index actor foundActor) memberStepped
          serviceName).1 lists with listed | ⟨⟨port, registers⟩, unknown⟩
        · exact Or.inl ⟨actor, foundActor, live, listed⟩
        · rw [registers]
          exact Or.inr ⟨rfl, actor, foundActor, live, unknown⟩
      · exact Or.inl ⟨member, before, live, lists⟩

/-- A registration is a step of the node that makes it. -/
theorem acted_of_registration {index : Nat} {serviceName : Text}
    (asks : (index, serviceName) ∈ event.registration)
    (stepped : StepCase call outside network event next.members) :
    ∃ member discovery port, network.members[index]? = some member ∧
      member.discovery.step call (.registerLocalService serviceName port) = some discovery ∧
      next.members = network.members.set index { member with discovery := discovery } := by
  generalize grown : next.members = members at stepped
  cases stepped with
  | acted acting member own discovery found memberStepped =>
      cases own with
      | registerLocalService registered port =>
          cases asks
          exact ⟨member, discovery, port, found, memberStepped, rfl⟩
      | _ => cases asks
  | joined | left => cases asks
  | exchanged _ quiet | delivered _ _ _ _ _ quiet =>
      cases event with
      | own acting own => exact absurd rfl (quiet acting own)
      | _ => cases asks

theorem owns_of_takes {index : Nat} {serviceName : Text} (wellFormed : network.WellFormed)
    (takes : network.Takes event index serviceName)
    (stepped : StepCase call outside network event next.members) : next.Owns index serviceName := by
  rcases takes with ⟨asks, member, found, live, unknown⟩
  rcases acted_of_registration asks stepped with
    ⟨actor, discovery, port, foundActor, memberStepped, grown⟩
  cases foundActor.symm.trans found
  refine ⟨{ member with discovery := discovery }, ?_, live, ?_⟩
  · rw [Option.mem_def, grown, Serials.getElem?_update found, if_pos rfl]
  · apply (checkLocalService_step (wellFormed index member found) memberStepped serviceName).2
    exact Or.inr ⟨⟨port, rfl⟩, unknown⟩

/-- A registration leaves what the other nodes own. -/
theorem owns_of_registration {index other : Nat} {serviceName : Text}
    (asks : (index, serviceName) ∈ event.registration) (different : other ≠ index)
    (stepped : StepCase call outside network event next.members)
    (owns : network.Owns other serviceName) : next.Owns other serviceName := by
  rcases acted_of_registration asks stepped with ⟨actor, discovery, _, foundActor, _, grown⟩
  rcases owns with ⟨member, found, lists⟩
  refine ⟨member, ?_, lists⟩
  rw [Option.mem_def, grown, Serials.getElem?_update foundActor, if_neg different]
  exact found

/-- A step keeps the names apart exactly if a name that is registered is free or known. -/
theorem unique_step_iff (wellFormed : network.WellFormed) (unique : network.Unique)
    (stepped : StepCase call outside network event next.members) :
    next.Unique ↔ network.Informed event := by
  constructor
  · intro nextUnique request asks custom member found live elsewhere
    by_contra unknown
    rcases elsewhere with ⟨other, _, different, owns⟩
    apply different
    exact nextUnique request.2 custom other request.1
      (owns_of_registration asks different stepped owns)
      (owns_of_takes wellFormed ⟨asks, member, found, live, unknown⟩ stepped)
  · intro informed serviceName custom first second ownsFirst ownsSecond
    rcases owns_of_step wellFormed custom stepped ownsFirst with firstBefore | firstTakes
    · rcases owns_of_step wellFormed custom stepped ownsSecond with secondBefore | secondTakes
      · exact unique serviceName custom first second firstBefore secondBefore
      · exact eq_of_takes informed custom secondTakes firstBefore
    · rcases owns_of_step wellFormed custom stepped ownsSecond with secondBefore | secondTakes
      · exact (eq_of_takes informed custom firstTakes secondBefore).symm
      · exact congrArg Prod.fst (Option.some.inj (firstTakes.1.symm.trans secondTakes.1))

/-! ## Runs -/

theorem wellFormed_of_reachable {groupName : Text}
    (reachable : (machine call groupName outside).Reachable network) : network.WellFormed := by
  apply Machine.Reachable.invariant _ _ reachable
  · intro index member found
    cases found
  · intro state event next _ wellFormed stepped
    exact wellFormed_step wellFormed (stepCase_of_step stepped)

/-- Along a run no two live nodes list one service name, if and only if every node that
registers a name of another live node has a description that lists it. -/
theorem unique_iff {groupName : Text} {trace : List (NetworkEvent η)}
    (run : (machine call groupName outside).exec trace = some network) :
    (machine call groupName outside).StatesAlong Unique trace ↔
      (machine call groupName outside).StepsAlong Informed trace := by
  apply Machine.statesAlong_iff_stepsAlong _ _ run
  · intro serviceName _ first second owns
    rcases owns with ⟨member, found, _⟩
    cases found
  · intro state event next reachable unique stepped
    exact unique_step_iff (wellFormed_of_reachable reachable) unique (stepCase_of_step stepped)

/-! ## Two nodes that register one name -/

/-- No node has an update handler. -/
def noHandlers : NodesInfoManager.Call Empty Unit := fun handler => handler.elim

/-- A node registers a name, and another one after it was discovered. -/
def knownRun : List (NetworkEvent Empty) :=
  [.join "a" "192.168.1.10" "123e4567-e89b-12d3-a456-426614174000" 7000 (0, 1, 0) 0,
    .own 0 (.registerLocalService "echo" 7000),
    .join "b" "192.168.1.11" "123e4567-e89b-12d3-a456-426614174001" 7001 (0, 1, 0) 1,
    .multicast 0, .receive 1 0, .answer 0, .fetchReturns 1 0 0,
    .own 1 (.registerLocalService "echo" 7001)]

/-- The second node registers the name before it hears of the first. -/
def unknownRun : List (NetworkEvent Empty) :=
  [.join "a" "192.168.1.10" "123e4567-e89b-12d3-a456-426614174000" 7000 (0, 1, 0) 0,
    .join "b" "192.168.1.11" "123e4567-e89b-12d3-a456-426614174001" 7001 (0, 1, 0) 0,
    .own 0 (.registerLocalService "echo" 7000), .own 1 (.registerLocalService "echo" 7001)]

theorem unique_along_knownRun :
    (machine noHandlers "zlc_default_group_name" ()).StatesAlong Unique knownRun := by
  have ran : ((machine noHandlers "zlc_default_group_name" ()).exec knownRun).isSome = true := by
    decide +kernel
  rcases Option.isSome_iff_exists.1 ran with ⟨network, run⟩
  apply (unique_iff run).2
  apply Machine.stepsAlong_of_stepsFrom
  decide +kernel

theorem unique_fails_along_unknownRun :
    ¬ (machine noHandlers "zlc_default_group_name" ()).StatesAlong Unique unknownRun := by
  intro states
  have unique := states unknownRun _ List.prefix_rfl rfl
  have same := unique "echo" (by decide) 0 1 (by decide +kernel) (by decide +kernel)
  cases same

end Network

end Pyzlc
