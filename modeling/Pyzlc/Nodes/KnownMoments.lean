import Pyzlc.Nodes.FineNetwork
import Pyzlc.Nodes.ReadInParts

/-!
# What is stored was read off its owner

A description that a node stores was read field by field while its owner went on registering, so
its version, its topics and its services come from three moments of the run, one after another.
Since a node loses no socket and counts a socket only after it has appended it, nothing that its
owner had registered under the stored version is missing, and of two descriptions of one node
each list of the one begins with that of the other or the other way round.
-/

namespace Pyzlc

open Foundation Discovery NodesInfoManager

variable {η ω : Type}

namespace Network

/-! ## What does not depend on the order of the steps -/

section Renewed

variable {network next : Network η ω}

/-- The members of two groups correspond, up to their own descriptions. -/
structure Renewed (network next : Network η ω) : Prop where
  datagrams : next.datagrams = network.datagrams
  answers : ∀ answer ∈ network.answers, answer ∈ next.answers
  earlier : ∀ (index : Nat) (member : Member η ω), next.members[index]? = some member →
    ∃ before, network.members[index]? = some before ∧
      member.discovery.registry = before.discovery.registry ∧
      member.discovery.pending = before.discovery.pending ∧
      member.info.nodeID = before.info.nodeID
  later : ∀ (index : Nat) (member : Member η ω), network.members[index]? = some member →
    ∃ after, next.members[index]? = some after ∧ member.info.PartOf after.info

theorem HasAddress.renewed {nodeIp : Text} (hasAddress : network.HasAddress nodeIp)
    (renewed : Renewed network next) : next.HasAddress nodeIp := by
  rcases hasAddress with ⟨sender, listed, address⟩
  rcases List.getElem?_of_mem listed with ⟨index, found⟩
  rcases renewed.later index sender found with ⟨later, foundLater, grown⟩
  exact ⟨later, List.mem_of_getElem? foundLater, grown.ip.symm.trans address⟩

theorem Snapshot.renewed {info : NodeInfo} (snapshot : network.Snapshot info)
    (renewed : Renewed network next) : next.Snapshot info := by
  rcases snapshot with ⟨answer, read, nodeIp, hasAddress, same⟩
  exact ⟨answer, renewed.answers answer read, nodeIp, hasAddress.renewed renewed, same⟩

theorem Sourced.renewed (sourced : network.Sourced) (renewed : Renewed network next) :
    next.Sourced where
  wellFormed := by
    intro index member found
    rcases renewed.earlier index member found with ⟨before, foundBefore, registry, _⟩
    rw [registry]
    exact sourced.wellFormed index before foundBefore
  distinct := by
    intro first second member other found foundOther same
    rcases renewed.earlier first member found with ⟨before, foundBefore, _, _, identity⟩
    rcases renewed.earlier second other foundOther with
      ⟨otherBefore, foundOtherBefore, _, _, otherIdentity⟩
    apply sourced.distinct first second before otherBefore foundBefore foundOtherBefore
    exact identity.symm.trans (same.trans otherIdentity)
  datagrams := by
    rw [renewed.datagrams]
    intro datagram sent
    exact (sourced.datagrams datagram sent).renewed renewed
  pending := by
    intro member listed request waits
    rcases List.getElem?_of_mem listed with ⟨index, found⟩
    rcases renewed.earlier index member found with ⟨before, foundBefore, _, pending, _⟩
    rw [pending] at waits
    exact (sourced.pending before (List.mem_of_getElem? foundBefore) request waits).renewed renewed
  stored := by
    intro member listed nodeId info known
    rcases List.getElem?_of_mem listed with ⟨index, found⟩
    rcases renewed.earlier index member found with ⟨before, foundBefore, registry, _⟩
    rw [registry] at known
    exact (sourced.stored before (List.mem_of_getElem? foundBefore) nodeId info known).renewed
      renewed

end Renewed

end Network

namespace FineNetwork

section Steps

variable [DecidableEq η] {call : Call η ω} {groupName : Text} {outside : ω}
  {group next : FineNetwork η ω}

omit [DecidableEq η] in
theorem renewed_register {index : Nat} {member : Member η ω} {discovery : Discovery η ω}
    {registration : Option Registration} (found : group.network.members[index]? = some member)
    (registers : Registers (group.registering index) registration member.discovery discovery) :
    Network.Renewed group.network
      (group.register index member discovery registration).network where
  datagrams := rfl
  answers := fun _ read => read
  earlier := by
    intro other after foundAfter
    rcases Serials.found_of_update found foundAfter with ⟨rfl, rfl⟩ | ⟨_, before⟩
    · exact ⟨member, found, registers.registry, registers.pending, registers.grown.nodeID.symm⟩
    · exact ⟨after, before, rfl, rfl, rfl⟩
  later := by
    intro other before foundBefore
    show ∃ after, (group.network.members.set index
      { member with discovery := discovery })[other]? = some after ∧ _
    rw [Serials.getElem?_update found]
    split
    next here =>
      rw [here, found] at foundBefore
      cases foundBefore
      exact ⟨_, rfl, registers.grown⟩
    next => exact ⟨before, foundBefore, .refl _⟩

omit [DecidableEq η] in
theorem renewed_answered (network : Network η ω) (answer : NodeInfo) :
    Network.Renewed network { network with answers := network.answers ++ [answer] } where
  datagrams := rfl
  answers := fun _ read => List.mem_append_left _ read
  earlier := fun _ member found => ⟨member, found, rfl, rfl, rfl⟩
  later := fun _ member found => ⟨member, found, .refl _⟩

theorem sourced_step (sourced : group.network.Sourced)
    (stepped : StepCase call groupName outside group next) : next.network.Sourced := by
  cases stepped with
  | refused | infoIdRead | topicsRead => exact sourced
  | registered index member discovery registration found registers =>
      exact sourced.renewed (renewed_register found registers)
  | servicesRead => exact sourced.renewed (renewed_answered _ _)
  | whole event network isWhole stepped => exact sourced.step stepped

/-- No node is taken out, and no description loses anything. -/
theorem members_step (wellFormed : group.network.WellFormed)
    (stepped : StepCase call groupName outside group next) {index : Nat} {member : Member η ω}
    (found : group.network.members[index]? = some member) :
    ∃ later, next.network.members[index]? = some later ∧ member.info.PartOf later.info := by
  cases stepped with
  | refused | infoIdRead | topicsRead | servicesRead => exact ⟨member, found, .refl _⟩
  | registered acting actor discovery registration foundActor registers =>
      exact (renewed_register foundActor registers).later index member found
  | whole event network isWhole stepped =>
      rcases Network.members_step wellFormed found stepped with ⟨later, foundLater, grown⟩
      exact ⟨later, foundLater, grown.partOf⟩

/-! ## What a version counts -/

omit [DecidableEq η] in
theorem registers_of_action {network : Network η ω} {event : NetworkEvent η}
    (isWhole : isWhole event = true) {acting : Nat} {own : DiscoveryEvent η}
    (action : network.action groupName event = some (acting, own)) : registers own = false := by
  cases event with
  | own index event =>
      cases action
      simpa [FineNetwork.isWhole] using isWhole
  | receive receiving datagram =>
      rcases Option.bind_eq_some_iff.1 action with ⟨member, _, rest⟩
      rcases Option.bind_eq_some_iff.1 rest with ⟨sent, _, rest⟩
      rcases Option.bind_eq_some_iff.1 rest with ⟨submitted, _, same⟩
      cases same
      rfl
  | fetchReturns fetching fetch answer =>
      rcases Option.bind_eq_some_iff.1 action with ⟨info, _, same⟩
      cases same
      rfl
  | fetchFails =>
      cases action
      rfl
  | join | leave | multicast | answer => cases action

omit [DecidableEq η] in
theorem sockets_start (outside : ω) (localName localIp nodeID : Text) (servicePort : Int)
    (protocolVersion : Int × Int × Int) (now : ℚ) :
    (Member.start outside localName localIp nodeID servicePort protocolVersion now :
      Member η ω).info.sockets =
    (Member.start outside localName localIp nodeID servicePort protocolVersion now :
      Member η ω).info.infoID := by
  let fresh : NodesInfoManager η := .init localName localIp nodeID
  have counted : fresh.localNodeInfo.infoID + _ = _ + (_ + _) :=
    (precedes_registerLocalService Member.builtIn servicePort fresh).counted
  have none : fresh.localNodeInfo.infoID = 0 ∧ fresh.localNodeInfo.topics.length = 0 ∧
      fresh.localNodeInfo.services.length = 0 := ⟨rfl, rfl, rfl⟩
  rw [none.1, none.2.1, none.2.2] at counted
  show NodeInfo.sockets ((registerLocalService Member.builtIn servicePort).after
    fresh).localNodeInfo = _
  unfold NodeInfo.sockets
  show _ = ((registerLocalService Member.builtIn servicePort).after fresh).localNodeInfo.infoID
  omega

/-- A node that is there after a step of the group either is new or had its description before. -/
theorem info_of_whole {network later : Network η ω} {event : NetworkEvent η}
    (wellFormed : network.WellFormed) (isWhole : isWhole event = true)
    (stepped : network.step call groupName outside event = some later) {index : Nat}
    {after : Member η ω} (found : later.members[index]? = some after) :
    (index = network.members.length ∧ after.info.sockets = after.info.infoID) ∨
      ∃ member, network.members[index]? = some member ∧ after.info = member.info := by
  cases Network.change_of_step stepped with
  | acted acting own action _ stepped =>
      rcases Network.stepMember_eq_some stepped with
        ⟨actor, discovery, foundActor, memberStepped, members⟩
      rw [members] at found
      right
      rcases Serials.found_of_update foundActor found with ⟨rfl, rfl⟩ | ⟨_, before⟩
      · refine ⟨actor, foundActor, ?_⟩
        exact localNodeInfo_step (wellFormed index actor foundActor)
          (registers_of_action isWhole action) memberStepped
      · exact ⟨after, before, rfl⟩
  | joined outside localName localIp nodeID servicePort protocolVersion now _ _ members =>
      rw [members] at found
      rcases Serials.found_of_add found with ⟨_, before⟩ | ⟨last, same⟩
      · exact Or.inr ⟨after, before, rfl⟩
      · left
        refine ⟨last, ?_⟩
        rw [same]
        exact sockets_start outside localName localIp nodeID servicePort protocolVersion now
  | idle _ members =>
      right
      have same := members index
      rw [found] at same
      rcases Option.map_eq_some_iff.1 same.symm with ⟨member, before, kept⟩
      refine ⟨member, before, ?_⟩
      rw [Member.info, Member.info, Member.manager, Member.manager, kept]

/-- The version of a node counts its sockets but the one it is about to count. -/
structure Counted (group : FineNetwork η ω) : Prop where
  sockets : ∀ (index : Nat) (member : Member η ω), group.network.members[index]? = some member →
    member.info.sockets = member.info.infoID + unraised (group.registering index)
  idle : ∀ index, group.network.members.length ≤ index → group.registering index = none

theorem counted_step (wellFormed : group.network.WellFormed) (counted : Counted group)
    (stepped : StepCase call groupName outside group next) : Counted next := by
  cases stepped with
  | refused => exact counted
  | infoIdRead | topicsRead | servicesRead => exact ⟨counted.sockets, counted.idle⟩
  | registered acting actor discovery registration found registers =>
      constructor
      · intro index after foundAfter
        show _ = _ + unraised (Function.update group.registering acting registration index)
        rcases Serials.found_of_update found foundAfter with ⟨rfl, rfl⟩ | ⟨different, before⟩
        · rw [Function.update_self]
          have before := counted.sockets index actor found
          have after := registers.counted
          simp only [Member.info, Member.manager] at before ⊢
          omega
        · rw [Function.update_of_ne different]
          exact counted.sockets index after before
      · intro index beyond
        have within : acting < group.network.members.length :=
          (List.getElem?_eq_some_iff.1 found).1
        have length : group.network.members.length ≤ index :=
          List.length_set.symm.trans_le beyond
        show Function.update group.registering acting registration index = none
        rw [Function.update_of_ne (by omega)]
        exact counted.idle index length
  | whole event network isWhole stepped =>
      constructor
      · intro index after found
        rcases info_of_whole wellFormed isWhole stepped found with
          ⟨last, fresh⟩ | ⟨member, there, same⟩
        · show _ = _ + unraised (group.registering index)
          rw [counted.idle index last.ge, fresh]
          exact (Int.add_zero _).symm
        · rw [same]
          exact counted.sockets index member there
      · intro index beyond
        apply counted.idle
        by_contra within
        have there : index < group.network.members.length := not_le.1 within
        rcases Network.members_step wellFormed (List.getElem?_eq_getElem there) stepped with
          ⟨later, found, _⟩
        have inside : index < network.members.length := (List.getElem?_eq_some_iff.1 found).1
        exact absurd beyond (not_le.2 inside)

theorem sourced_of_reachable (reachable : (machine call groupName outside).Reachable group) :
    group.network.Sourced := by
  refine @Machine.Reachable.invariant _ _ _ _ (fun group => group.network.Sourced) ?_ ?_ reachable
  · exact Network.sourced_of_empty rfl rfl
  · intro before event after _ sourced stepped
    exact sourced_step sourced (stepCase_of_step stepped)

theorem counted_of_reachable (reachable : (machine call groupName outside).Reachable group) :
    Counted group := by
  apply Machine.Reachable.invariant _ _ reachable
  · constructor
    · intro index member found
      cases found
    · intro index _
      rfl
  · intro before event after reached counted stepped
    have wellFormed := (sourced_of_reachable reached).wellFormed
    exact counted_step wellFormed counted (stepCase_of_step stepped)

theorem answers_of_whole {network later : Network η ω} {event : NetworkEvent η}
    (isWhole : isWhole event = true)
    (stepped : network.step call groupName outside event = some later) :
    later.answers = network.answers := by
  cases Network.mailStep_of_step stepped with
  | silent _ answers | sent _ _ _ _ answers => exact answers
  | read member listed _ answers asked =>
      rcases asked with ⟨index, rfl⟩
      cases isWhole

end Steps

/-! ## Moments of a run -/

section Moments

variable [DecidableEq η] (call : Call η ω) (groupName : Text) (outside : ω)

/-- Where a trace ends, the node of an index has this description. -/
def DescribedAt (index : Nat) (trace : List (FineEvent η)) (info : NodeInfo) : Prop :=
  ∃ group member, (machine call groupName outside).exec trace = some group ∧
    group.network.members[index]? = some member ∧ member.info = info

/-- Whatever was read, or is being read, was read along the run. -/
structure ReadOff (trace : List (FineEvent η)) (group : FineNetwork η ω) : Prop where
  readings : ∀ reading ∈ group.readings,
    SnapshotAlong (DescribedAt call groupName outside reading.1) [] trace reading.2
  answers : ∀ answer ∈ group.network.answers, ∃ index,
    AnswerAlong (DescribedAt call groupName outside index) [] trace answer

end Moments

section Runs

variable [DecidableEq η] {call : Call η ω} {groupName : Text} {outside : ω}
  {group next : FineNetwork η ω} {trace longer : List (FineEvent η)}

theorem describedAt_of_run {index : Nat} {member : Member η ω}
    (run : (machine call groupName outside).exec trace = some group)
    (found : group.network.members[index]? = some member) :
    DescribedAt call groupName outside index trace member.info :=
  ⟨group, member, run, found, rfl⟩

theorem readOff_step (readOff : ReadOff call groupName outside trace group)
    (run : (machine call groupName outside).exec trace = some group) (event : FineEvent η)
    (stepped : StepCase call groupName outside group next) :
    ReadOff call groupName outside (trace ++ [event]) next := by
  have shorter : trace <+: trace ++ [event] := List.prefix_append _ _
  have readings : ∀ reading ∈ group.readings,
      SnapshotAlong (DescribedAt call groupName outside reading.1) [] (trace ++ [event])
        reading.2 :=
    fun reading reads => (readOff.readings reading reads).later shorter
  have answers : ∀ answer ∈ group.network.answers, ∃ index,
      AnswerAlong (DescribedAt call groupName outside index) [] (trace ++ [event]) answer := by
    intro answer read
    rcases readOff.answers answer read with ⟨index, along⟩
    exact ⟨index, along.later shorter⟩
  cases stepped with
  | refused | registered => exact ⟨readings, answers⟩
  | infoIdRead index member found =>
      refine ⟨?_, answers⟩
      intro reading reads
      rcases List.mem_append.1 reads with before | last
      · exact readings reading before
      · rw [List.mem_singleton.1 last]
        have here := snapshotAlong_infoId List.nil_prefix (describedAt_of_run run found)
        exact here.later shorter
  | topicsRead reading index infoId member reads found =>
      refine ⟨?_, answers⟩
      intro other there
      rcases List.mem_or_eq_of_mem_set there with before | here
      · exact readings other before
      · rw [here]
        have along := readOff.readings _ (List.mem_of_getElem? reads)
        exact (along.readTopics (describedAt_of_run run found)).later shorter
  | servicesRead reading index infoId topics member reads found =>
      constructor
      · intro other there
        exact readings other (List.mem_of_mem_eraseIdx there)
      · intro answer read
        rcases List.mem_append.1 read with before | last
        · exact answers answer before
        · rw [List.mem_singleton.1 last]
          have along := readOff.readings _ (List.mem_of_getElem? reads)
          exact ⟨index, (along.readServices (describedAt_of_run run found)).later shorter⟩
  | whole event network isWhole stepped =>
      refine ⟨readings, ?_⟩
      intro answer read
      have same := answers_of_whole isWhole stepped
      rw [show network.answers = group.network.answers from same] at read
      exact answers answer read

theorem readOff_of_exec (run : (machine call groupName outside).exec trace = some group) :
    ReadOff call groupName outside trace group := by
  refine Machine.exec_induction (motive := ReadOff call groupName outside) ?_ ?_ run
  · exact ⟨nofun, nofun⟩
  · intro trace before event after reached readOff stepped
    exact readOff_step readOff reached event (stepCase_of_step stepped)

/-- Along a run a node only adds to its description. -/
theorem described_later {rest : List (FineEvent η)} {index : Nat} {earlier : NodeInfo}
    (described : DescribedAt call groupName outside index trace earlier)
    (run : (machine call groupName outside).exec (trace ++ rest) = some group) :
    ∃ member, group.network.members[index]? = some member ∧ earlier.PartOf member.info := by
  induction rest using List.reverseRecOn generalizing group with
  | nil =>
      rw [List.append_nil] at run
      rcases described with ⟨same, member, runSame, found, rfl⟩
      cases run.symm.trans runSame
      exact ⟨member, found, .refl _⟩
  | append_singleton rest event ih =>
      rw [← List.append_assoc] at run
      rcases Machine.exec_snoc_eq_some.1 run with ⟨middle, reached, stepped⟩
      rcases ih reached with ⟨member, found, partOf⟩
      have wellFormed := (sourced_of_reachable ⟨_, reached⟩).wellFormed
      rcases members_step wellFormed (stepCase_of_step stepped) found with
        ⟨later, foundLater, grown⟩
      exact ⟨later, foundLater, partOf.trans grown⟩

theorem partOf_of_earlier {first second : List (FineEvent η)} {index : Nat}
    {earlier later : NodeInfo} (isPrefix : first <+: second)
    (describedFirst : DescribedAt call groupName outside index first earlier)
    (describedSecond : DescribedAt call groupName outside index second later) :
    earlier.PartOf later := by
  rcases isPrefix with ⟨rest, rfl⟩
  rcases describedSecond with ⟨group, member, run, found, rfl⟩
  rcases described_later describedFirst run with ⟨same, foundSame, partOf⟩
  cases found.symm.trans foundSame
  exact partOf

/-- Of two moments of a run one was first. -/
theorem partOf_or_partOf {first second : List (FineEvent η)} {index : Nat}
    {info otherInfo : NodeInfo} (within : first <+: trace) (withinToo : second <+: trace)
    (described : DescribedAt call groupName outside index first info)
    (describedToo : DescribedAt call groupName outside index second otherInfo) :
    info.PartOf otherInfo ∨ otherInfo.PartOf info := by
  rcases List.prefix_or_prefix_of_prefix within withinToo with before | after
  · exact Or.inl (partOf_of_earlier before described describedToo)
  · exact Or.inr (partOf_of_earlier after describedToo described)

/-- The node an answer was read off. -/
theorem owner_of_answer {index : Nat} {answer : NodeInfo}
    (along : AnswerAlong (DescribedAt call groupName outside index) [] trace answer)
    (run : (machine call groupName outside).exec trace = some group) :
    ∃ owner, group.network.members[index]? = some owner ∧ owner.info.nodeID = answer.nodeID := by
  rcases along with ⟨_, _, third, _, _, last, _, _, _, within, _, _, described, rfl⟩
  rcases within with ⟨rest, rfl⟩
  rcases described_later described run with ⟨owner, found, partOf⟩
  exact ⟨owner, found, partOf.nodeID.symm⟩

/-- Two answers with one identifier were read off one node. -/
theorem index_eq_of_answers {index other : Nat} {answer otherAnswer : NodeInfo}
    (along : AnswerAlong (DescribedAt call groupName outside index) [] trace answer)
    (alongToo : AnswerAlong (DescribedAt call groupName outside other) [] trace otherAnswer)
    (run : (machine call groupName outside).exec trace = some group)
    (same : answer.nodeID = otherAnswer.nodeID) : index = other := by
  rcases owner_of_answer along run with ⟨owner, found, identity⟩
  rcases owner_of_answer alongToo run with ⟨otherOwner, foundOther, otherIdentity⟩
  apply (sourced_of_reachable ⟨trace, run⟩).distinct index other owner otherOwner found foundOther
  exact identity.trans (same.trans otherIdentity.symm)

/-- Where a trace ends, the node of an index has this description and registers nothing. -/
def SettledAt (call : Call η ω) (groupName : Text) (outside : ω) (trace : List (FineEvent η))
    (index : Nat) (info : NodeInfo) : Prop :=
  ∃ group member, (machine call groupName outside).exec trace = some group ∧
    group.network.members[index]? = some member ∧ member.info = info ∧
    group.registering index = none

/-- An answer lists all that was registered under its version. -/
theorem complete_of_answer {index : Nat} {answer registered : NodeInfo}
    (along : AnswerAlong (DescribedAt call groupName outside index) [] trace answer)
    {moment : List (FineEvent η)} (within : moment <+: trace)
    (settled : SettledAt call groupName outside moment index registered)
    (covered : registered.infoID ≤ answer.infoID) :
    registered.topics <+: answer.topics ∧ registered.services <+: answer.services := by
  rcases along with ⟨first, second, third, versioned, listed, last, _, before, between, inside,
    described, listedAt, lastAt, rfl⟩
  rcases settled with ⟨group, member, run, found, rfl, idle⟩
  have describedMoment := describedAt_of_run run found
  have toListed := partOf_of_earlier before described listedAt
  have toLast := toListed.trans (partOf_of_earlier between listedAt lastAt)
  have beforeTrace : first <+: trace := before.trans (between.trans inside)
  rcases List.prefix_or_prefix_of_prefix within beforeTrace with earlier | later
  · have toFirst := partOf_of_earlier earlier describedMoment described
    exact ⟨(toFirst.trans toListed).topics, (toFirst.trans toLast).services⟩
  · -- the version was not raised in between, so no socket was appended that is registered by then
    have fromFirst := partOf_of_earlier later described describedMoment
    have counted := (counted_of_reachable ⟨moment, run⟩).sockets index member found
    rw [idle] at counted
    rcases described with ⟨start, reader, runFirst, foundFirst, rfl⟩
    have countedFirst := (counted_of_reachable ⟨first, runFirst⟩).sockets index reader foundFirst
    have some_left : 0 ≤ unraised (start.registering index) := by
      unfold unraised
      split <;> decide
    have none_left : unraised none = 0 := rfl
    have at_most : member.info.infoID ≤ reader.info.infoID := covered
    rcases fromFirst.lists_eq (by omega) with ⟨topics, services⟩
    rw [← topics, ← services]
    exact ⟨toListed.topics, toLast.services⟩

/-- The lists of a description begin with those of another one. -/
def BeginsWith (info registered : NodeInfo) : Prop :=
  registered.advertised.1 <+: info.advertised.1 ∧ registered.advertised.2 <+: info.advertised.2

/-! ## What is stored -/

/-- What a node stores is an answer with the identifier, at the address of a node of the group. -/
theorem answer_of_stored (run : (machine call groupName outside).exec trace = some group)
    {member : Member η ω} (listed : member ∈ group.network.members) {nodeId : HashIdentifier}
    {info : NodeInfo}
    (known : member.discovery.registry.nodesInfo.lookup nodeId = some info) :
    ∃ (index : Nat) (answer : NodeInfo) (nodeIp : Text), answer.nodeID = nodeId ∧
      AnswerAlong (DescribedAt call groupName outside index) [] trace answer ∧
      group.network.HasAddress nodeIp ∧ info = { answer with ip := nodeIp }.bindSockets := by
  have sourced := sourced_of_reachable ⟨trace, run⟩
  have identity := sourced.identified listed known
  rcases sourced.stored member listed nodeId info known with ⟨answer, read, nodeIp, hasAddress, rfl⟩
  rcases (readOff_of_exec run).answers answer read with ⟨index, along⟩
  exact ⟨index, answer, nodeIp, identity, along, hasAddress, rfl⟩

/-- Along every run of a group, whatever its nodes register meanwhile and wherever an answer is
read between two steps of a registration: what a node stores under an identifier is, at the
address of a node of the group, an answer that was read off the node of this identifier, with the
version it had in a state of the run, the topics it had in the same state or a later one, and the
services in the same state or a later one still. -/
theorem stored_of_owner (run : (machine call groupName outside).exec trace = some group)
    {member : Member η ω} (listed : member ∈ group.network.members) {nodeId : HashIdentifier}
    {info : NodeInfo}
    (known : member.discovery.registry.nodesInfo.lookup nodeId = some info) :
    ∃ (index : Nat) (owner : Member η ω) (answer : NodeInfo) (nodeIp : Text),
      group.network.members[index]? = some owner ∧ owner.info.nodeID = nodeId ∧
      AnswerAlong (DescribedAt call groupName outside index) [] trace answer ∧
      group.network.HasAddress nodeIp ∧ info = { answer with ip := nodeIp }.bindSockets := by
  rcases answer_of_stored run listed known with
    ⟨index, answer, nodeIp, identity, along, hasAddress, same⟩
  rcases owner_of_answer along run with ⟨owner, found, sameOwner⟩
  exact ⟨index, owner, answer, nodeIp, found, sameOwner.trans identity, along, hasAddress, same⟩

/-- What a node stores lacks nothing that its owner had registered under its version. -/
theorem beginsWith_of_stored (run : (machine call groupName outside).exec trace = some group)
    {member : Member η ω} (listed : member ∈ group.network.members) {nodeId : HashIdentifier}
    {info registered : NodeInfo}
    (known : member.discovery.registry.nodesInfo.lookup nodeId = some info)
    {moment : List (FineEvent η)} {index : Nat} (within : moment <+: trace)
    (settled : SettledAt call groupName outside moment index registered)
    (same : registered.nodeID = nodeId) (covered : registered.infoID ≤ info.infoID) :
    BeginsWith info registered := by
  rcases answer_of_stored run listed known with ⟨owning, answer, nodeIp, identity, along, _, rfl⟩
  rcases owner_of_answer along run with ⟨owner, found, sameOwner⟩
  have there : index = owning := by
    rcases settled with ⟨earlier, node, runEarlier, foundNode, rfl, _⟩
    rcases within with ⟨rest, rfl⟩
    rcases described_later ⟨earlier, node, runEarlier, foundNode, rfl⟩ run with
      ⟨later, foundLater, grown⟩
    apply (sourced_of_reachable ⟨_, run⟩).distinct index owning later owner foundLater found
    exact grown.nodeID.symm.trans (same.trans (sameOwner.trans identity).symm)
  rw [there] at settled
  rcases complete_of_answer along within settled covered with ⟨topics, services⟩
  rw [BeginsWith, NodeInfo.advertised_bindSockets]
  exact ⟨topics.map _, services.map _⟩

/-- Along every run of such a group, what two nodes store about a third one agrees: each list of
the one begins with that of the other or the other way round, and neither description lacks
anything that the third node had registered under a version at most its own. -/
theorem stored_comparable (run : (machine call groupName outside).exec trace = some group)
    {member other : Member η ω} (listed : member ∈ group.network.members)
    (listedOther : other ∈ group.network.members) {nodeId : HashIdentifier}
    {info otherInfo : NodeInfo}
    (known : member.discovery.registry.nodesInfo.lookup nodeId = some info)
    (knownOther : other.discovery.registry.nodesInfo.lookup nodeId = some otherInfo) :
    (info.advertised.1 <+: otherInfo.advertised.1 ∨
      otherInfo.advertised.1 <+: info.advertised.1) ∧
    (info.advertised.2 <+: otherInfo.advertised.2 ∨
      otherInfo.advertised.2 <+: info.advertised.2) ∧
    ∀ moment index registered, moment <+: trace →
      SettledAt call groupName outside moment index registered → registered.nodeID = nodeId →
      (registered.infoID ≤ info.infoID → BeginsWith info registered) ∧
      (registered.infoID ≤ otherInfo.infoID → BeginsWith otherInfo registered) := by
  rcases answer_of_stored run listed known with ⟨index, answer, nodeIp, identity, along, _, same⟩
  rcases answer_of_stored run listedOther knownOther with
    ⟨otherIndex, otherAnswer, otherIp, otherIdentity, alongOther, _, otherSame⟩
  rcases index_eq_of_answers along alongOther run (identity.trans otherIdentity.symm) with rfl
  have lists : info.advertised = answer.advertised := by
    rw [same, NodeInfo.advertised_bindSockets]
    rfl
  have otherLists : otherInfo.advertised = otherAnswer.advertised := by
    rw [otherSame, NodeInfo.advertised_bindSockets]
    rfl
  rcases along with ⟨first, second, third, versioned, topics, services, _, before, between, within,
    _, topicsAt, servicesAt, rfl⟩
  rcases alongOther with ⟨otherFirst, otherSecond, otherThird, otherVersioned, otherTopics,
    otherServices, _, otherBefore, otherBetween, otherWithin, _, otherTopicsAt, otherServicesAt,
    rfl⟩
  rw [lists, otherLists]
  refine ⟨?_, ?_, ?_⟩
  · rcases partOf_or_partOf (between.trans within) (otherBetween.trans otherWithin) topicsAt
      otherTopicsAt with older | newer
    · exact Or.inl (older.topics.map _)
    · exact Or.inr (newer.topics.map _)
  · rcases partOf_or_partOf within otherWithin servicesAt otherServicesAt with older | newer
    · exact Or.inl (older.services.map _)
    · exact Or.inr (newer.services.map _)
  · intro moment index registered inside settled owner
    exact ⟨beginsWith_of_stored run listed known inside settled owner,
      beginsWith_of_stored run listedOther knownOther inside settled owner⟩

end Runs

/-! ## An answer that is read while its owner registers -/

/-- The first answer of the node falls between its registration's two steps: it says the version
before the publisher is counted, and lists the publisher. -/
def tornRun : List (FineEvent Empty) :=
  [.whole (.join "a" "192.168.1.10" "123e4567-e89b-12d3-a456-426614174000" 7000 (0, 1, 0) 0),
    .whole (.join "b" "192.168.1.11" "123e4567-e89b-12d3-a456-426614174001" 7001 (0, 1, 0) 0),
    .whole (.join "c" "192.168.1.12" "123e4567-e89b-12d3-a456-426614174002" 7002 (0, 1, 0) 0),
    .whole (.multicast 0), .whole (.receive 1 0), .readInfoId 0, .beginPublisher 0 "image" 7100,
    .readTopics 0, .finishRegistration 0, .readServices 0, .whole (.fetchReturns 1 0 0),
    .beginPublisher 0 "depth" 7101, .finishRegistration 0, .whole (.multicast 0),
    .whole (.receive 2 1), .readInfoId 0, .readTopics 0, .readServices 0,
    .whole (.fetchReturns 2 0 1)]

/-- The group after this run. -/
def tornGroup : Option (FineNetwork Empty Unit) :=
  (machine Network.noHandlers "zlc_default_group_name" ()).exec tornRun

/-- What a node of a group stores about another one. -/
def storedAt (group : FineNetwork Empty Unit) (index : Nat) (nodeId : HashIdentifier) :
    Option NodeInfo :=
  group.network.members[index]?.bind fun member =>
    member.discovery.registry.nodesInfo.lookup nodeId

theorem storedAt_eq_some {group : FineNetwork Empty Unit} {index : Nat}
    {nodeId : HashIdentifier} {info : NodeInfo}
    (stored : group.storedAt index nodeId = some info) :
    ∃ member ∈ group.network.members,
      member.discovery.registry.nodesInfo.lookup nodeId = some info := by
  rcases Option.bind_eq_some_iff.1 stored with ⟨member, found, known⟩
  exact ⟨member, List.mem_of_getElem? found, known⟩

/-- The identifier of the node that is read twice. -/
def tornId : HashIdentifier := "123e4567-e89b-12d3-a456-426614174000"

theorem tornGroup_stored :
    ∃ group old new, tornGroup = some group ∧ group.storedAt 1 tornId = some old ∧
      group.storedAt 2 tornId = some new ∧ old.infoID = 1 ∧ old.topics.length = 1 ∧
      new.infoID = 3 ∧ new.topics.length = 2 := by
  have ran : tornGroup.map (fun group =>
      ((group.storedAt 1 tornId).map fun info => (info.infoID, info.topics.length),
        (group.storedAt 2 tornId).map fun info => (info.infoID, info.topics.length))) =
      some (some (1, 1), some (3, 2)) := by
    decide +kernel
  rcases Option.map_eq_some_iff.1 ran with ⟨group, run, versions⟩
  rcases Option.map_eq_some_iff.1 (congrArg Prod.fst versions) with ⟨old, stored, version⟩
  rcases Option.map_eq_some_iff.1 (congrArg Prod.snd versions) with ⟨new, storedNew, newVersion⟩
  exact ⟨group, old, new, run, stored, storedNew, congrArg Prod.fst version,
    congrArg Prod.snd version, congrArg Prod.fst newVersion, congrArg Prod.snd newVersion⟩

theorem stored_of_owner_tornRun :
    ∃ group old, tornGroup = some group ∧ group.storedAt 1 tornId = some old ∧
      ∃ (index : Nat) (answer : NodeInfo) (nodeIp : Text),
        AnswerAlong (DescribedAt Network.noHandlers "zlc_default_group_name" () index) [] tornRun
          answer ∧
        group.network.HasAddress nodeIp ∧ old = { answer with ip := nodeIp }.bindSockets := by
  rcases tornGroup_stored with ⟨group, old, _, run, stored, _⟩
  rcases storedAt_eq_some stored with ⟨member, listed, known⟩
  rcases stored_of_owner run listed known with
    ⟨index, _, answer, nodeIp, _, _, along, hasAddress, same⟩
  exact ⟨group, old, run, stored, index, answer, nodeIp, along, hasAddress, same⟩

theorem stored_comparable_tornRun :
    ∃ group old new, tornGroup = some group ∧ group.storedAt 1 tornId = some old ∧
      group.storedAt 2 tornId = some new ∧ old.infoID < new.infoID ∧
      (old.advertised.1 <+: new.advertised.1 ∨ new.advertised.1 <+: old.advertised.1) := by
  rcases tornGroup_stored with ⟨group, old, new, run, stored, storedNew, version, _, newVersion, _⟩
  rcases storedAt_eq_some stored with ⟨member, listed, known⟩
  rcases storedAt_eq_some storedNew with ⟨other, listedOther, knownOther⟩
  refine ⟨group, old, new, run, stored, storedNew, ?_, ?_⟩
  · omega
  · exact (stored_comparable run listed listedOther known knownOther).1

end FineNetwork

end Pyzlc
