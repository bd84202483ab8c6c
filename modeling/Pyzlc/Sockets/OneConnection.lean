import Pyzlc.Sockets.ManagedSubscribers
import Pyzlc.Sockets.Subscriptions

/-!
# One connection to each publisher

The address determined for a publisher of this host depends on whether the socket file of
its topic exists at the moment, and only equal addresses are recognised as a connection that
is there.  A record of the publishers that were once determined to be reached over the
file tells when two addresses of a subscriber lead to the same publisher.
-/

namespace Pyzlc

open Foundation

namespace SubscriberManager

open NodesInfoManager

/-- The publishers for which an operation calls `_get_connect_url`. -/
def determined (node : Node) : SubscriptionEvent → List SocketInfo
  | .addSubscriber topicName _ => node.1.getPublisherInfo topicName
  | event => (announcement node.1 event).filter fun info => info.name ∈ node.2.subscriberDict

/-- Those for which it chooses the socket file of their topic. -/
def overFile (node : Node) (event : SubscriptionEvent) : List SocketInfo :=
  (determined node event).filter fun info =>
    node.2.getConnectUrl (.accepting event.pathExists) info = node.2.ipcUrl info.name

/-- A node and the publishers for which the socket file was chosen so far. -/
abbrev Choosing := Node × List SocketInfo

def recordChosen (node : Node) (event : SubscriptionEvent) (chosen : List SocketInfo) :
    List SocketInfo :=
  chosen ++ overFile node event

/-- Subscriptions with the choices of the file beside them. -/
def choosing (localName localIp nodeID groupName : Text) : Machine Choosing SubscriptionEvent :=
  (machine localName localIp nodeID groupName).recording [] recordChosen

/-- A subscriber holds the TCP address of a publisher and the socket file of its topic. -/
def HoldsBoth (manager : SubscriberManager) (subscriber : Subscriber) (info : SocketInfo) : Prop :=
  tcpUrl info ∈ subscriber.subUrls ∧ manager.ipcUrl info.name ∈ subscriber.subUrls

/-- No subscriber that exists reaches a publisher of its topic over both addresses. -/
def AtMostOnce (state : Choosing) : Prop :=
  ∀ subscriber ∈ state.1.2.everySubscriber, ∀ info ∈ state.2, info.name = subscriber.name →
    ¬ HoldsBoth state.1.2 subscriber info

/-- The operation switches no publisher from one of its addresses to the other.  Where it
chooses the file for a publisher, no subscriber of the topic holds both addresses of that
publisher, and the one it connects holds the TCP address of none that was ever reached over
the file; where it chooses TCP for a publisher once reached over the file, the subscriber
does not hold the file. -/
structure KeepsSingle (state : Choosing) (event : SubscriptionEvent) : Prop where
  others : ∀ info ∈ overFile state.1 event, ∀ subscriber ∈ state.1.2.everySubscriber,
    info.name = subscriber.name → ¬ HoldsBoth state.1.2 subscriber info
  file : ∀ info ∈ overFile state.1 event, ∀ origin,
    startingFrom state.1 info.name event = some origin →
    ∀ chosen ∈ state.2 ++ overFile state.1 event, chosen.name = info.name →
      tcpUrl chosen ∉ origin.subUrls
  tcp : ∀ info ∈ determined state.1 event, info ∉ overFile state.1 event → info ∈ state.2 →
    ∀ origin, startingFrom state.1 info.name event = some origin →
      state.1.2.ipcUrl info.name ∉ origin.subUrls

/-! ## What is chosen -/

theorem getConnectUrl_eq_ipcUrl {manager : SubscriberManager} {host : Host} {info : SocketInfo} :
    manager.getConnectUrl host info = manager.ipcUrl info.name ↔
      info.ip = manager.localIp ∧ host.pathExists (manager.ipcPath info.name) = true := by
  unfold getConnectUrl
  split
  next onFile => exact ⟨fun _ => onFile, fun _ => rfl⟩
  next offFile =>
    exact ⟨fun same => absurd same (tcpUrl_ne_ipcUrl _ _ _), fun onFile => absurd onFile offFile⟩

theorem mem_overFile {node : Node} {event : SubscriptionEvent} {info : SocketInfo} :
    info ∈ overFile node event ↔ info ∈ determined node event ∧ info.ip = node.2.localIp ∧
      event.pathExists (node.2.ipcPath info.name) = true := by
  rw [overFile, List.mem_filter, decide_eq_true_eq, getConnectUrl_eq_ipcUrl]
  rfl

/-- The publishers of a topic whose addresses an operation determines, if it connects a
subscriber of the topic. -/
theorem mem_determined {node : Node} {event : SubscriptionEvent} {topicName : TopicName}
    {origin : Subscriber} (starting : startingFrom node topicName event = some origin)
    {info : SocketInfo} (named : info.name = topicName) :
    info ∈ determined node event ↔ info ∈ lookedUp node.1 topicName event := by
  cases event with
  | addSubscriber added pathExists =>
      rw [determined, lookedUp]
      by_cases same : topicName = added
      · rw [if_pos same, same]
      · rw [if_neg same]
        constructor
        · intro known
          exact absurd (named.symm.trans (name_of_mem_getPublisherInfo known)) same
        · intro none
          cases none
  | _ =>
      have subscribed : info.name ∈ node.2.subscriberDict := by
        rw [named]
        exact Dict.mem_of_lookup starting
      simp [determined, lookedUp, subscribed]

/-- The socket file is held after an operation that chooses it for a publisher of the topic,
or held before. -/
theorem ipcUrl_mem_iff {node : Node} {event : SubscriptionEvent} {topicName : TopicName}
    {origin subscriber : Subscriber} (starting : startingFrom node topicName event = some origin)
    (gains : origin.Gains (ConnectUrl (.accepting event.pathExists)
      (lookedUp node.1 topicName event) node.2 topicName) subscriber) :
    node.2.ipcUrl topicName ∈ subscriber.subUrls ↔
      (∃ info ∈ overFile node event, info.name = topicName) ∨
        node.2.ipcUrl topicName ∈ origin.subUrls := by
  rw [gains.urls]
  apply or_congr_left
  constructor
  · intro connect
    rcases connect with ⟨info, found, named, same⟩
    refine ⟨info, ?_, named⟩
    rw [mem_overFile, mem_determined starting named]
    rw [← named] at same
    exact ⟨found, getConnectUrl_eq_ipcUrl.1 same.symm⟩
  · intro chosen
    rcases chosen with ⟨info, chosen, named⟩
    rcases mem_overFile.1 chosen with ⟨found, onFile⟩
    refine ⟨info, (mem_determined starting named).1 found, named, ?_⟩
    rw [← named]
    exact (getConnectUrl_eq_ipcUrl.2 onFile).symm

/-- The TCP address of a publisher is held after an operation that chooses it for that
publisher, or held before. -/
theorem tcpUrl_mem_iff {node : Node} {event : SubscriptionEvent} {topicName : TopicName}
    {origin subscriber : Subscriber} (starting : startingFrom node topicName event = some origin)
    (gains : origin.Gains (ConnectUrl (.accepting event.pathExists)
      (lookedUp node.1 topicName event) node.2 topicName) subscriber)
    {info : SocketInfo} (named : info.name = topicName) :
    tcpUrl info ∈ subscriber.subUrls ↔
      (info ∈ determined node event ∧ info ∉ overFile node event) ∨
        tcpUrl info ∈ origin.subUrls := by
  rw [gains.urls]
  apply or_congr_left
  constructor
  · intro connect
    rcases connect with ⟨other, found, otherNamed, same⟩
    unfold getConnectUrl at same
    split at same
    next => exact absurd same (tcpUrl_ne_ipcUrl _ _ _)
    next offFile =>
      -- the entry is determined by its TCP address and its topic
      rcases tcpUrl_inj same with ⟨ips, ports⟩
      have equal : info = other := by
        cases info
        cases other
        cases named
        cases otherNamed
        cases ips
        cases ports
        rfl
      subst equal
      exact ⟨(mem_determined starting named).2 found,
        fun chosen => offFile (mem_overFile.1 chosen).2⟩
  · intro chosen
    rcases chosen with ⟨found, offFile⟩
    refine ⟨info, (mem_determined starting named).1 found, named, ?_⟩
    unfold getConnectUrl
    rw [if_neg]
    intro onFile
    exact offFile (mem_overFile.2 ⟨found, onFile⟩)

/-! ## The subscribers an operation leaves -/

/-- Subscribers are entered under their names. -/
def NamedByTopic (manager : SubscriberManager) : Prop :=
  ∀ topicName subscriber, manager.subscriberDict.lookup topicName = some subscriber →
    subscriber.name = topicName

theorem NodeStep.ipcUrl {node next : Node} {event : SubscriptionEvent}
    (stepped : NodeStep node event next) (topicName : TopicName) :
    next.2.ipcUrl topicName = node.2.ipcUrl topicName := by
  cases stepped with
  | added => rfl
  | announced _ _ _ announced => rw [SubscriberManager.ipcUrl, ipcPath, announced.groupName]; rfl

/-- The subscriber an operation starts from is a fresh one, or was entered. -/
theorem startingFrom_eq_some {node : Node} {event : SubscriptionEvent} {topicName : TopicName}
    {origin : Subscriber} (starting : startingFrom node topicName event = some origin) :
    (origin.name = topicName ∧ origin.subUrls = []) ∨
      node.2.subscriberDict.lookup topicName = some origin := by
  cases event with
  | addSubscriber added pathExists =>
      rw [startingFrom] at starting
      by_cases same : topicName = added
      · rw [if_pos same] at starting
        cases starting
        exact Or.inl ⟨rfl, rfl⟩
      · rw [if_neg same] at starting
        exact Or.inr starting
  | _ => exact Or.inr starting

/-- A subscriber found after an operation was there before it, or is the one the operation
connects. -/
theorem mem_everySubscriber_of_step {node next : Node} {event : SubscriptionEvent}
    (stepped : NodeStep node event next) (named : NamedByTopic node.2) {subscriber : Subscriber}
    (member : subscriber ∈ next.2.everySubscriber) :
    subscriber ∈ node.2.everySubscriber ∨
      ∃ origin, startingFrom node subscriber.name event = some origin ∧
        origin.Gains (ConnectUrl (.accepting event.pathExists)
          (lookedUp node.1 subscriber.name event) node.2 subscriber.name) subscriber := by
  rcases mem_everySubscriber.1 member with ⟨topicName, found⟩ | detached
  · rcases stepped.origin found with ⟨origin, starting, gains⟩
    have origins : origin.name = topicName := by
      rcases startingFrom_eq_some starting with fresh | entered
      · exact fresh.1
      · exact named topicName origin entered
    have same : subscriber.name = topicName := gains.name.trans origins
    rw [same]
    exact Or.inr ⟨origin, starting, gains⟩
  · left
    cases stepped with
    | added topicName pathExists =>
        rcases List.mem_append.1 detached with before | overwritten
        · exact mem_everySubscriber.2 (Or.inr before)
        · exact mem_everySubscriber.2 (Or.inl ⟨_, Option.mem_toList.1 overwritten⟩)
    | announced _ subscribers _ announced =>
        rw [announced.detached] at detached
        exact mem_everySubscriber.2 (Or.inr detached)

/-- No operation loses a subscriber or an address. -/
theorem persists_of_step {node next : Node} {event : SubscriptionEvent}
    (stepped : NodeStep node event next) {subscriber : Subscriber}
    (member : subscriber ∈ node.2.everySubscriber) :
    ∃ later ∈ next.2.everySubscriber, later.name = subscriber.name ∧
      ∀ url ∈ subscriber.subUrls, url ∈ later.subUrls := by
  cases stepped with
  | added topicName pathExists =>
      exact ⟨subscriber, mem_everySubscriber_insert.2 (Or.inr member), rfl, fun _ held => held⟩
  | announced _ subscribers _ announced =>
      rcases mem_everySubscriber.1 member with ⟨topicName, found⟩ | detached
      · rcases announced.present topicName subscriber found with ⟨later, foundLater, gains⟩
        exact ⟨later, mem_everySubscriber.2 (Or.inl ⟨topicName, foundLater⟩), gains.name,
          fun url held => (gains.urls url).2 (Or.inr held)⟩
      · refine ⟨subscriber, mem_everySubscriber.2 (Or.inr ?_), rfl, fun _ held => held⟩
        rw [announced.detached]
        exact detached

/-! ## One operation -/

/-- Only publishers of this host are ever reached over a socket file. -/
def ChosenLocally (state : Choosing) : Prop :=
  ∀ info ∈ state.2, info.ip = state.1.2.localIp

theorem chosenLocally_step {state : Choosing} {next : Node} {event : SubscriptionEvent}
    (stepped : NodeStep state.1 event next) (locally : ChosenLocally state) :
    ChosenLocally (next, recordChosen state.1 event state.2) := by
  intro info chosen
  rw [stepped.localIp]
  rcases List.mem_append.1 chosen with before | now
  · exact locally info before
  · exact (mem_overFile.1 now).2.1

/-- What a subscriber holds both addresses of after an operation that keeps publishers to
one. -/
theorem atMostOnce_of_keepsSingle {state : Choosing} {next : Node} {event : SubscriptionEvent}
    (stepped : NodeStep state.1 event next) (named : NamedByTopic state.1.2)
    (locally : ChosenLocally state) (once : AtMostOnce state) (keeps : KeepsSingle state event) :
    AtMostOnce (next, recordChosen state.1 event state.2) := by
  -- a subscriber from before the operation, with the addresses it held then
  have before : ∀ subscriber ∈ state.1.2.everySubscriber,
      ∀ info ∈ recordChosen state.1 event state.2, info.name = subscriber.name →
        ¬ HoldsBoth state.1.2 subscriber info := by
    intro subscriber member info chosen sameTopic
    rcases List.mem_append.1 chosen with early | now
    · exact once subscriber member info early sameTopic
    · exact keeps.others info now subscriber member sameTopic
  intro subscriber member info chosen sameTopic
  have unchanged : HoldsBoth next.2 subscriber info ↔ HoldsBoth state.1.2 subscriber info := by
    rw [HoldsBoth, HoldsBoth, stepped.ipcUrl]
  rw [show HoldsBoth (next, recordChosen state.1 event state.2).1.2 subscriber info ↔ _ from
    unchanged]
  rcases mem_everySubscriber_of_step stepped named member with old | ⟨origin, starting, gains⟩
  · exact before subscriber old info chosen sameTopic
  rw [← sameTopic] at starting gains
  intro both
  rcases both with ⟨overTcp, held⟩
  rcases (ipcUrl_mem_iff starting gains).1 held with ⟨other, now, otherTopic⟩ | heldBefore
  · -- the file exists, so every publisher of this host is sent to it
    have noTcp := keeps.file other now origin (by rw [otherTopic]; exact starting) info chosen
      otherTopic.symm
    rcases (tcpUrl_mem_iff starting gains rfl).1 overTcp with ⟨found, offFile⟩ | early
    · rcases List.mem_append.1 chosen with early | nowToo
      · apply offFile
        refine mem_overFile.2 ⟨found, locally info early, ?_⟩
        rw [← otherTopic]
        exact (mem_overFile.1 now).2.2
      · exact offFile nowToo
    · exact noTcp early
  · rcases (tcpUrl_mem_iff starting gains rfl).1 overTcp with ⟨found, offFile⟩ | early
    · rcases List.mem_append.1 chosen with early | nowToo
      · exact keeps.tcp info found offFile early origin starting heldBefore
      · exact offFile nowToo
    · rcases startingFrom_eq_some starting with ⟨_, fresh⟩ | entered
      · rw [fresh] at early
        cases early
      · have there := mem_everySubscriber.2 (Or.inl ⟨_, entered⟩)
        exact before origin there info chosen (named _ _ entered).symm ⟨early, heldBefore⟩

theorem keepsSingle_of_atMostOnce {state : Choosing} {next : Node} {event : SubscriptionEvent}
    (stepped : NodeStep state.1 event next) (named : NamedByTopic state.1.2)
    (once : AtMostOnce (next, recordChosen state.1 event state.2)) : KeepsSingle state event := by
  -- the subscriber of a topic after the operation
  have connected : ∀ topicName origin, startingFrom state.1 topicName event = some origin →
      ∃ subscriber, origin.Gains (ConnectUrl (.accepting event.pathExists)
          (lookedUp state.1.1 topicName event) state.1.2 topicName) subscriber ∧
        ∀ info ∈ state.2 ++ overFile state.1 event, info.name = topicName →
          ¬ HoldsBoth state.1.2 subscriber info := by
    intro topicName origin starting
    rcases stepped.connected starting with ⟨subscriber, found, gains⟩
    refine ⟨subscriber, gains, ?_⟩
    intro info chosen sameTopic both
    have subscriberNamed : subscriber.name = topicName := by
      rcases startingFrom_eq_some starting with fresh | entered
      · exact gains.name.trans fresh.1
      · exact gains.name.trans (named topicName origin entered)
    apply once subscriber (mem_everySubscriber.2 (Or.inl ⟨topicName, found⟩)) info chosen
      (sameTopic.trans subscriberNamed.symm)
    refine ⟨both.1, ?_⟩
    rw [stepped.ipcUrl]
    exact both.2
  constructor
  case others =>
    intro info now subscriber member sameTopic both
    rcases persists_of_step stepped member with ⟨later, laterMember, laterName, more⟩
    apply once later laterMember info (List.mem_append_right _ now)
      (sameTopic.trans laterName.symm)
    refine ⟨more _ both.1, ?_⟩
    rw [stepped.ipcUrl]
    exact more _ both.2
  case file =>
    intro info now origin starting chosen chosenBy sameTopic overTcp
    rcases connected info.name origin starting with ⟨subscriber, gains, single⟩
    apply single chosen chosenBy sameTopic
    constructor
    · exact (gains.urls _).2 (Or.inr overTcp)
    · rw [sameTopic]
      exact (ipcUrl_mem_iff starting gains).2 (Or.inl ⟨info, now, rfl⟩)
  case tcp =>
    intro info found offFile early origin starting held
    rcases connected info.name origin starting with ⟨subscriber, gains, single⟩
    apply single info (List.mem_append_left _ early) rfl
    constructor
    · exact (tcpUrl_mem_iff starting gains rfl).2 (Or.inl ⟨found, offFile⟩)
    · exact (ipcUrl_mem_iff starting gains).2 (Or.inr held)

/-! ## Runs -/

variable {localName localIp nodeID groupName : Text}

theorem namedByTopic_of_reachable {node : Node}
    (reachable : (machine localName localIp nodeID groupName).Reachable node) :
    NamedByTopic node.2 := by
  rcases reachable with ⟨trace, run⟩
  exact (recorded_of_exec run).named

theorem nodeStep_of_choosing {state next : Choosing} {event : SubscriptionEvent}
    (reachable : (choosing localName localIp nodeID groupName).Reachable state)
    (stepped : (choosing localName localIp nodeID groupName).step state event = some next) :
    NodeStep state.1 event next.1 ∧ next.2 = recordChosen state.1 event state.2 := by
  rcases Machine.recording_step.1 stepped with ⟨nodeStepped, recorded⟩
  exact ⟨nodeStep_of_machine (Machine.reachable_of_recording reachable) nodeStepped, recorded⟩

theorem chosenLocally_of_reachable {state : Choosing}
    (reachable : (choosing localName localIp nodeID groupName).Reachable state) :
    ChosenLocally state := by
  apply Machine.Reachable.invariant _ _ reachable
  · intro info chosen
    cases chosen
  · intro state event next reachable locally stepped
    rcases nodeStep_of_choosing reachable stepped with ⟨nodeStepped, recorded⟩
    have kept := chosenLocally_step nodeStepped locally
    rw [← recorded] at kept
    exact kept

/-- Every publisher is connected at most once along a run if and only if no operation of it
switches one of them to its other address. -/
theorem atMostOnce_iff (localName localIp nodeID groupName : Text)
    (trace : List SubscriptionEvent) :
    (choosing localName localIp nodeID groupName).StatesAlong AtMostOnce trace ↔
      (choosing localName localIp nodeID groupName).StepsAlong KeepsSingle trace := by
  have total : ∃ state, (choosing localName localIp nodeID groupName).exec trace = some state :=
    Machine.exec_of_total (fun state event => ⟨_, rfl⟩) trace
  rcases total with ⟨last, run⟩
  apply Machine.statesAlong_iff_stepsAlong _ _ run
  · intro subscriber _ info chosen
    cases chosen
  · intro state event next reachable once stepped
    rcases nodeStep_of_choosing reachable stepped with ⟨nodeStepped, recorded⟩
    have named := namedByTopic_of_reachable (Machine.reachable_of_recording reachable)
    have same : next = (next.1, recordChosen state.1 event state.2) := by rw [← recorded]
    rw [same]
    exact ⟨keepsSingle_of_atMostOnce nodeStepped named,
      atMostOnce_of_keepsSingle nodeStepped named (chosenLocally_of_reachable reachable) once⟩

/-- A publisher on the host of the listener. -/
def neighbour (infoID : Int) : NodeInfo where
  nodeID := "b"
  infoID := infoID
  name := "neighbour"
  ip := "10.0.0.1"
  topics := [{ name := "chat", ip := "10.0.0.1", port := 5001 }]
  services := []

/-- A publisher whose socket file appears between two of its updates. -/
def appearingRun : List SubscriptionEvent :=
  [.addSubscriber "chat" fun _ => false,
    .updateNode 0 (neighbour 1) fun _ => false,
    .updateNode 1 (neighbour 2) fun _ => true]

/-- The one publisher of `appearingRun` is connected twice. -/
theorem atMostOnce_fails_along_appearingRun :
    ¬ (choosing "listener" "10.0.0.1" "a" "zlc").StatesAlong AtMostOnce appearingRun := by
  intro states
  have once := states appearingRun _ List.prefix_rfl rfl
  let subscriber : Subscriber := {
    serial := 0, name := "chat", running := true, connected := true
    subUrls := ["tcp://10.0.0.1:5001", "ipc:///tmp/zlc/zlc/chat/topic.sock"]
    receiveLoop := .active, socketOpen := true }
  apply once subscriber (mem_everySubscriber.2 (Or.inl ⟨"chat", by decide +kernel⟩))
    ⟨"chat", "10.0.0.1", 5001⟩ (by decide +kernel) rfl
  constructor
  · decide +kernel
  · decide +kernel

end SubscriberManager

end Pyzlc
