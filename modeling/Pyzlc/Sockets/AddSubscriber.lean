import Pyzlc.Sockets.Subscriptions

/-!
# Adding a subscriber step by step

`add_subscriber` runs on the calling thread: it reads the known publishers, connects to
them one by one, and enters the subscriber.  Operations of the event loop fall anywhere
between these steps; an announcement reaches a subscriber only once it is entered.
Remote nodes live on other hosts here, so their publishers are connected over TCP.
-/

namespace Pyzlc

open Foundation

open NodesInfoManager SubscriberManager

/-- A call of `add_subscriber` after its read of the publishers, at the loop's position. -/
structure Adding where
  topicName : TopicName
  subscriber : Subscriber
  pubInfos : List SocketInfo
  position : Nat

/-- A node, and the call its calling thread is in. -/
structure Subscribing where
  node : Node
  adding : Option Adding

inductive SubscribingEvent where
  | readPublishers (topicName : TopicName)
  | connectNext (pathExists : Text → Bool)
  | enter
  | meanwhile (event : SubscriptionEvent)

/-- An operation of another thread, on a node of another host if it is an update. -/
def SubscriptionEvent.Elsewhere (localIp : Text) : SubscriptionEvent → Prop
  | .addSubscriber _ _ => False
  | .updateNode _ info _ => info.ip ≠ localIp
  | _ => True

instance (localIp : Text) :
    (event : SubscriptionEvent) → Decidable (event.Elsewhere localIp)
  | .addSubscriber _ _ => isFalse id
  | .updateNode _ info _ => inferInstanceAs (Decidable (info.ip ≠ localIp))
  | .registerLocalPublisher _ _ _ => isTrue trivial
  | .removeNode _ => isTrue trivial

namespace Subscribing

def readPublishers (topicName : TopicName) (state : Subscribing) : Option Subscribing :=
  match state.adding with
  | none =>
      some { state with adding := some {
        topicName := topicName
        subscriber := .create state.node.2.created topicName
        pubInfos := state.node.1.getPublisherInfo topicName
        position := 0 } }
  | some _ => none

/-- The body of the loop over the publishers. -/
def connectNext (pathExists : Text → Bool) (state : Subscribing) : Option Subscribing :=
  match state.adding with
  | none => none
  | some adding =>
      match adding.pubInfos[adding.position]? with
      | none => none
      | some info =>
          let url := state.node.2.getConnectUrl (.accepting pathExists) info
          some { state with adding := some { adding with
            subscriber := (Subscriber.connect (.accepting pathExists) url).after adding.subscriber
            position := adding.position + 1 } }

def enter (state : Subscribing) : Option Subscribing :=
  match state.adding with
  | none => none
  | some adding =>
      if adding.position < adding.pubInfos.length then none
      else some {
        node := (state.node.1, state.node.2.insert adding.subscriber)
        adding := none }

def step (state : Subscribing) : SubscribingEvent → Option Subscribing
  | .readPublishers topicName => state.readPublishers topicName
  | .connectNext pathExists => state.connectNext pathExists
  | .enter => state.enter
  | .meanwhile event =>
      if event.Elsewhere state.node.2.localIp then
        some { state with node := SubscriberManager.step state.node event }
      else none

/-- The calling thread and the event loop from a fresh node on, in the runs in which no
connect raises. -/
def machine (localName localIp nodeID groupName : Text) : Machine Subscribing SubscribingEvent where
  start := { node := SubscriberManager.init localName localIp nodeID groupName, adding := none }
  step := step

/-! ## What a step does -/

inductive StepCase (state : Subscribing) : SubscribingEvent → Subscribing → Prop where
  | readPublishers (topicName : TopicName) (idle : state.adding = none) :
      StepCase state (.readPublishers topicName) { state with adding := some {
        topicName := topicName
        subscriber := .create state.node.2.created topicName
        pubInfos := state.node.1.getPublisherInfo topicName
        position := 0 } }
  | connectNext (pathExists : Text → Bool) (adding : Adding) (info : SocketInfo)
      (inCall : state.adding = some adding)
      (next : adding.pubInfos[adding.position]? = some info) :
      StepCase state (.connectNext pathExists) { state with adding := some { adding with
        subscriber := adding.subscriber.withUrl
          (state.node.2.getConnectUrl (.accepting pathExists) info)
        position := adding.position + 1 } }
  | enter (adding : Adding) (inCall : state.adding = some adding)
      (finished : adding.pubInfos.length ≤ adding.position) :
      StepCase state .enter {
        node := (state.node.1, state.node.2.insert adding.subscriber)
        adding := none }
  | meanwhile (event : SubscriptionEvent) (elsewhere : event.Elsewhere state.node.2.localIp) :
      StepCase state (.meanwhile event)
        { state with node := SubscriberManager.step state.node event }

theorem stepCase_of_step {state next : Subscribing} {event : SubscribingEvent}
    (stepped : state.step event = some next) : StepCase state event next := by
  cases event with
  | readPublishers topicName =>
      simp only [step, readPublishers] at stepped
      split at stepped
      next idle =>
        cases stepped
        exact .readPublishers topicName idle
      next => cases stepped
  | connectNext pathExists =>
      simp only [step, connectNext] at stepped
      split at stepped
      next => cases stepped
      next adding inCall =>
        split at stepped
        next => cases stepped
        next info found =>
          rw [Action.after_of_ok (Subscriber.run_connect pathExists _ _)] at stepped
          cases stepped
          exact .connectNext pathExists adding info inCall found
  | enter =>
      simp only [step, enter] at stepped
      split at stepped
      next => cases stepped
      next adding inCall =>
        split at stepped
        next => cases stepped
        next finished =>
          cases stepped
          exact .enter adding inCall (Nat.not_lt.1 finished)
  | meanwhile event =>
      simp only [step] at stepped
      split at stepped
      next elsewhere =>
        cases stepped
        exact .meanwhile event elsewhere
      next => cases stepped

/-! ## The call as a whole -/

variable {localName localIp nodeID groupName : Text}

/-- Connecting to the rest of the publishers, with the same answers of the file system. -/
theorem execFrom_connectNext (pathExists : Text → Bool) (node : Node) (count : Nat)
    (adding : Adding) (rest : adding.pubInfos.length = adding.position + count) :
    (machine localName localIp nodeID groupName).execFrom { node := node, adding := some adding }
        (List.replicate count (.connectNext pathExists)) =
      some { node := node, adding := some { adding with
        subscriber := adding.subscriber.withUrls ((adding.pubInfos.drop adding.position).map
          fun info => node.2.getConnectUrl (.accepting pathExists) info)
        position := adding.pubInfos.length } } := by
  induction count generalizing adding with
  | zero =>
      rw [rest, Nat.add_zero, List.drop_of_length_le (by omega)]
      rfl
  | succ count ih =>
      have inside : adding.position < adding.pubInfos.length := by omega
      have shorter : adding.pubInfos.length = adding.position + 1 + count := by omega
      have first : (machine localName localIp nodeID groupName).step
          { node := node, adding := some adding } (.connectNext pathExists) =
        some { node := node, adding := some { adding with
            subscriber := adding.subscriber.withUrl
              (node.2.getConnectUrl (.accepting pathExists) adding.pubInfos[adding.position])
            position := adding.position + 1 } } := by
        simp only [machine, step, connectNext, List.getElem?_eq_getElem inside,
          Action.after_of_ok (Subscriber.run_connect pathExists _ _)]
      rw [List.replicate_succ, Machine.execFrom, first,
        Option.bind_some, ih _ shorter, List.drop_eq_getElem_cons inside]
      rfl

/-- The steps of a call that nothing interrupts. -/
def uninterrupted (pathExists : Text → Bool) (topicName : TopicName) (node : Node) :
    List SubscribingEvent :=
  .readPublishers topicName ::
    (List.replicate (node.1.getPublisherInfo topicName).length (.connectNext pathExists) ++
      [.enter])

/-- Uninterrupted, the steps amount to `add_subscriber`. -/
theorem execFrom_uninterrupted (pathExists : Text → Bool) (topicName : TopicName) (node : Node) :
    (machine localName localIp nodeID groupName).execFrom { node := node, adding := none }
        (uninterrupted pathExists topicName node) =
      some {
        node := (addSubscriber (.accepting pathExists) topicName).after node, adding := none } := by
  rw [uninterrupted, Machine.execFrom, after_addSubscriber]
  change (machine _ _ _ _).execFrom _ (_ ++ [_]) = _
  rw [Machine.execFrom_append, execFrom_connectNext pathExists node _ _ (Nat.zero_add _).symm,
    Option.bind_some]
  simp [Machine.execFrom, machine, step, enter, subscribed]

end Subscribing

/-! ## Progress of a call -/

/-- A socket on another host is connected where a socket of its topic is, only if it is it. -/
theorem tcpUrl_eq_getConnectUrl_iff {manager : SubscriberManager} {host : Host}
    {other info : SocketInfo} (named : other.name = info.name)
    (remote : other.ip ≠ manager.localIp) :
    tcpUrl other = manager.getConnectUrl host info ↔ other = info := by
  constructor
  · intro same
    unfold getConnectUrl at same
    split at same
    next => exact absurd same (tcpUrl_ne_ipcUrl _ _ _)
    next =>
      rcases tcpUrl_inj same with ⟨ips, ports⟩
      cases other
      cases info
      cases named
      cases ips
      cases ports
      rfl
  · intro same
    unfold getConnectUrl
    rw [← same, if_neg]
    intro onFile
    exact remote onFile.1

/-- How far a call has come: of the sockets of its topic on other hosts, it is connected to
exactly those it has read and passed. -/
structure Adding.Progress (localIp : Text) (adding : Adding) : Prop where
  name : adding.subscriber.name = adding.topicName
  read : ∀ info ∈ adding.pubInfos, info.name = adding.topicName
  urls : ∀ info : SocketInfo, info.name = adding.topicName → info.ip ≠ localIp →
    (tcpUrl info ∈ adding.subscriber.subUrls ↔ info ∈ adding.pubInfos.take adding.position)

theorem Adding.progress_start (localIp : Text) (topicName : TopicName) (serial : Nat)
    (manager : NodesInfoManager UpdateHandler) :
    Adding.Progress localIp {
      topicName := topicName
      subscriber := .create serial topicName
      pubInfos := manager.getPublisherInfo topicName
      position := 0 } where
  name := rfl
  read := fun _ known => name_of_mem_getPublisherInfo known
  urls := by
    intro info _ _
    simp [Subscriber.create]

theorem Adding.Progress.connectNext {manager : SubscriberManager} {adding : Adding}
    (progress : adding.Progress manager.localIp) (host : Host) {info : SocketInfo}
    (next : adding.pubInfos[adding.position]? = some info) :
    Adding.Progress manager.localIp { adding with
      subscriber := adding.subscriber.withUrl (manager.getConnectUrl host info)
      position := adding.position + 1 } where
  name := (Subscriber.gains_withUrl _ _).name.trans progress.name
  read := progress.read
  urls := by
    intro other named remote
    have infoNamed : info.name = adding.topicName := progress.read info (List.mem_of_getElem? next)
    rw [(Subscriber.gains_withUrl _ _).urls, progress.urls other named remote, List.take_add_one,
      next, List.mem_append, Option.mem_toList, Option.some.injEq, eq_comm (a := info),
      tcpUrl_eq_getConnectUrl_iff (named.trans infoNamed.symm) remote, or_comm]

namespace Subscribing

/-! ## Coverage -/

/-- What holds between any two steps. -/
structure Invariant (state : Subscribing) : Prop where
  wired : Wired state.node.1
  remote : ∀ topicName topic, KnownRemotely state.node.1 topicName topic →
    topic.ip ≠ state.node.2.localIp
  progress : ∀ adding, state.adding = some adding → adding.Progress state.node.2.localIp

/-- The subscriber of each entered topic is connected to every remote publisher of it. -/
def RemoteCovered (state : Subscribing) : Prop :=
  ∀ topicName subscriber, state.node.2.subscriberDict.lookup topicName = some subscriber →
    ∀ topic, KnownRemotely state.node.1 topicName topic → tcpUrl topic ∈ subscriber.subUrls

/-- A call that enters its subscriber has read every remote publisher known by then. -/
def MissesNone (state : Subscribing) (event : SubscribingEvent) : Prop :=
  event = .enter → ∀ adding, state.adding = some adding →
    ∀ topic, KnownRemotely state.node.1 adding.topicName topic → topic ∈ adding.pubInfos

/-- The descriptions of remote nodes stay free of sockets on this host. -/
theorem remote_registering {manager : NodesInfoManager UpdateHandler} {event : SubscriptionEvent}
    {localIp : Text} (elsewhere : event.Elsewhere localIp)
    (remote : ∀ topicName topic, KnownRemotely manager topicName topic → topic.ip ≠ localIp) :
    ∀ topicName topic, KnownRemotely (registering manager event) topicName topic →
      topic.ip ≠ localIp := by
  intro topicName topic known
  cases event with
  | addSubscriber => cases elsewhere
  | registerLocalPublisher => exact remote topicName topic known
  | updateNode now info pathExists =>
      rcases knownRemotely_registering known with before | announced
      · exact remote topicName topic before
      · rcases List.mem_map.1 announced with ⟨original, _, rfl⟩
        exact elsewhere
  | removeNode nodeId =>
      rcases knownRemotely_registering known with before | announced
      · exact remote topicName topic before
      · cases announced

theorem invariant_step {state next : Subscribing} {event : SubscribingEvent}
    (invariant : state.Invariant) (stepped : StepCase state event next) : next.Invariant := by
  cases stepped with
  | readPublishers topicName idle =>
      constructor
      · exact invariant.wired
      · exact invariant.remote
      · intro adding inCall
        cases inCall
        exact Adding.progress_start _ _ _ _
  | connectNext pathExists adding info inCall found =>
      constructor
      · exact invariant.wired
      · exact invariant.remote
      · intro other inCallAfter
        cases inCallAfter
        exact (invariant.progress adding inCall).connectNext _ found
  | enter adding inCall finished =>
      constructor
      · exact invariant.wired
      · exact invariant.remote
      · intro other inCallAfter
        cases inCallAfter
  | meanwhile event elsewhere =>
      have operation := nodeStep_step invariant.wired event
      constructor
      · show Wired (SubscriberManager.step state.node event).1
        rw [operation.manager]
        exact wired_registering invariant.wired event
      · show ∀ topicName topic, KnownRemotely (SubscriberManager.step state.node event).1 topicName
          topic → topic.ip ≠ (SubscriberManager.step state.node event).2.localIp
        rw [operation.manager, operation.localIp]
        exact remote_registering elsewhere invariant.remote
      · show ∀ adding, state.adding = some adding →
          adding.Progress (SubscriberManager.step state.node event).2.localIp
        rw [operation.localIp]
        exact invariant.progress

/-- An operation elsewhere announces what it makes known. -/
theorem remoteCovered_meanwhile {state : Subscribing} {event : SubscriptionEvent}
    (invariant : state.Invariant) (elsewhere : event.Elsewhere state.node.2.localIp)
    (covered : state.RemoteCovered) :
    RemoteCovered { state with node := SubscriberManager.step state.node event } := by
  have operation := nodeStep_step invariant.wired event
  intro topicName subscriber found topic known
  generalize SubscriberManager.step state.node event = after at operation found known
  cases operation with
  | added => cases elsewhere
  | announced _ subscribers other announced =>
      have remote := remote_registering elsewhere invariant.remote topicName topic known
      rcases announced.origin found with ⟨origin, there, gains⟩
      apply (gains.urls _).2
      rcases knownRemotely_registering known with before | now
      · exact Or.inr (covered topicName origin there topic before)
      · exact Or.inl ⟨topic, now, known.1, (tcpUrl_eq_getConnectUrl_iff rfl remote).2 rfl⟩

/-- Entering a subscriber keeps coverage exactly if its call has missed none. -/
theorem remoteCovered_enter_iff {state : Subscribing} {adding : Adding}
    (invariant : state.Invariant) (covered : state.RemoteCovered)
    (inCall : state.adding = some adding) (finished : adding.pubInfos.length ≤ adding.position) :
    RemoteCovered {
        node := (state.node.1, state.node.2.insert adding.subscriber)
        adding := none } ↔
      ∀ topic, KnownRemotely state.node.1 adding.topicName topic → topic ∈ adding.pubInfos := by
  have progress := invariant.progress adding inCall
  have connected : ∀ topic, KnownRemotely state.node.1 adding.topicName topic →
      (tcpUrl topic ∈ adding.subscriber.subUrls ↔ topic ∈ adding.pubInfos) := by
    intro topic known
    rw [progress.urls topic known.1 (invariant.remote _ topic known),
      List.take_of_length_le finished]
  constructor
  · intro coveredAfter topic known
    apply (connected topic known).1
    apply coveredAfter adding.topicName adding.subscriber _ topic known
    show (Dict.set _ _ _).lookup _ = _
    rw [progress.name, Dict.lookup_set_self]
  · intro missesNone topicName subscriber found topic known
    change (Dict.set state.node.2.subscriberDict _ _).lookup topicName = _ at found
    rw [Dict.lookup_set, progress.name] at found
    split at found
    next same =>
      cases found
      cases same
      exact (connected topic known).2 (missesNone topic known)
    next => exact covered topicName subscriber found topic known

theorem remoteCovered_step_iff {state next : Subscribing} {event : SubscribingEvent}
    (invariant : state.Invariant) (covered : state.RemoteCovered)
    (stepped : StepCase state event next) :
    next.RemoteCovered ↔ state.MissesNone event := by
  cases stepped with
  | readPublishers topicName idle =>
      constructor
      · intro _ entering
        cases entering
      · intro _
        exact covered
  | connectNext pathExists adding info inCall found =>
      constructor
      · intro _ entering
        cases entering
      · intro _
        exact covered
  | enter adding inCall finished =>
      rw [remoteCovered_enter_iff invariant covered inCall finished]
      constructor
      · intro missesNone _ other inCallOther
        cases inCall.symm.trans inCallOther
        exact missesNone
      · intro missesNone
        exact missesNone rfl adding inCall
  | meanwhile event elsewhere =>
      constructor
      · intro _ entering
        cases entering
      · intro _
        exact remoteCovered_meanwhile invariant elsewhere covered

/-! ## Runs -/

variable {localName localIp nodeID groupName : Text}

theorem invariant_of_reachable {state : Subscribing}
    (reachable : (machine localName localIp nodeID groupName).Reachable state) :
    state.Invariant := by
  apply Machine.Reachable.invariant _ _ reachable
  · constructor
    · exact wired_init localName localIp nodeID groupName
    · intro topicName topic known
      rcases known with ⟨_, nodeId, info, found, _⟩
      cases found
    · intro adding inCall
      cases inCall
  · intro state event next _ invariant stepped
    exact invariant_step invariant (stepCase_of_step stepped)

/-- Along a run every entered subscriber is connected to every remote publisher of its
topic if and only if no call of `add_subscriber` misses one. -/
theorem remoteCovered_iff (trace : List SubscribingEvent) {state : Subscribing}
    (run : (machine localName localIp nodeID groupName).exec trace = some state) :
    (machine localName localIp nodeID groupName).StatesAlong RemoteCovered trace ↔
      (machine localName localIp nodeID groupName).StepsAlong MissesNone trace := by
  apply Machine.statesAlong_iff_stepsAlong _ _ run
  · intro topicName subscriber found
    cases found
  · intro state event next reachable covered stepped
    exact remoteCovered_step_iff (invariant_of_reachable reachable) covered
      (stepCase_of_step stepped)

/-- A remote node with one publisher. -/
def talker : NodeInfo where
  nodeID := "b"
  infoID := 1
  name := "talker"
  ip := "10.0.0.2"
  topics := [{ name := "chat", ip := "10.0.0.2", port := 5001 }]
  services := []

/-- The node is learnt before the publishers are read. -/
def knownRun : List SubscribingEvent :=
  [.meanwhile (.updateNode 0 talker fun _ => false), .readPublishers "chat",
    .connectNext fun _ => false, .enter]

theorem remoteCovered_along_knownRun :
    (machine "listener" "10.0.0.1" "a" "zlc").StatesAlong RemoteCovered knownRun := by
  apply (remoteCovered_iff knownRun rfl).2
  apply Machine.stepsAlong_of_stepsFrom
  refine ⟨(fun entering => by cases entering), fun learnt stepped => ?_⟩
  cases stepped
  refine ⟨(fun entering => by cases entering), fun read stepped => ?_⟩
  cases stepped
  refine ⟨(fun entering => by cases entering), fun connected stepped => ?_⟩
  cases stepped
  refine ⟨?_, fun _ _ => trivial⟩
  intro _ adding inCall topic known
  cases inCall
  exact mem_getPublisherInfo.2 (Or.inl known)

/-- The node is learnt between the read of the publishers and the entry. -/
def missedRun : List SubscribingEvent :=
  [.readPublishers "chat", .meanwhile (.updateNode 0 talker fun _ => false), .enter]

theorem publisher_missed_along_missedRun :
    ¬ (machine "listener" "10.0.0.1" "a" "zlc").StatesAlong RemoteCovered missedRun := by
  intro states
  have covered := states missedRun _ List.prefix_rfl rfl
  have connected := covered "chat" _ rfl ⟨"chat", "10.0.0.2", 5001⟩
    ⟨rfl, "b", talker, rfl, List.mem_singleton.2 rfl⟩
  cases connected

end Subscribing

end Pyzlc
