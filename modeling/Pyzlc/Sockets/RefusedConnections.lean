import Pyzlc.Sockets.Subscriptions

/-!
# Adding a subscriber to a host that refuses addresses

`add_subscriber` connects a new subscriber to the known publishers one by one and enters
it afterwards.  A refused address leaves the loop by its exception: the subscriber is not
entered, but the connections made before stay, and with them the task that calls the
callback.  Where the loop ends, publishers that share the socket file of the topic share one
connection.
-/

namespace Pyzlc

open Foundation

namespace Subscriber

/-- Nothing of the subscriber goes on: no open socket has a connection, and no task receives. -/
structure Inactive (subscriber : Subscriber) : Prop where
  unconnected : subscriber.socketOpen = false ∨ subscriber.subUrls = []
  idle : subscriber.receiveLoop ≠ .active

theorem inactive_create (serial : Nat) (topicName : TopicName) :
    (create serial topicName).Inactive where
  unconnected := Or.inr rfl
  idle := nofun

theorem socketOpen_withUrl (subscriber : Subscriber) (url : Text) :
    (subscriber.withUrl url).socketOpen = subscriber.socketOpen := by
  unfold withUrl
  split <;> rfl

theorem socketOpen_withUrls (urls : List Text) (subscriber : Subscriber) :
    (subscriber.withUrls urls).socketOpen = subscriber.socketOpen := by
  unfold withUrls
  induction urls generalizing subscriber with
  | nil => rfl
  | cons url rest ih =>
      rw [List.foldl_cons, ih]
      exact socketOpen_withUrl subscriber url

variable {host : Host} {url : Text} {subscriber : Subscriber}

theorem run_connect_of_accepted (accepted : host.refuses url = none) :
    (connect host url).run subscriber = .ok ⟨⟩ (subscriber.withUrl url) := by
  unfold connect withUrl
  rw [Action.bind_of_ok (Action.run_get subscriber), accepted]
  split <;> rfl

theorem run_connect_of_refused {error : PyError} (refused : host.refuses url = some error)
    (unknown : url ∉ subscriber.subUrls) :
    (connect host url).run subscriber = .error error subscriber := by
  unfold connect
  rw [Action.bind_of_ok (Action.run_get subscriber), if_neg unknown, refused]
  rfl

end Subscriber

namespace SubscriberManager

open NodesInfoManager

/-- The loop over publishers that are all accepted. -/
theorem run_connectAll_of_accepted {host : Host} {manager : SubscriberManager}
    {infos : List SocketInfo}
    (accepted : ∀ info ∈ infos, host.refuses (manager.getConnectUrl host info) = none)
    (subscriber : Subscriber) :
    (connectAll host infos manager).run subscriber =
      .ok ⟨⟩ (subscriber.withUrls (infos.map fun info => manager.getConnectUrl host info)) := by
  unfold connectAll Subscriber.withUrls
  induction infos generalizing subscriber with
  | nil => rfl
  | cons info rest ih =>
      rw [List.forM_cons,
        Action.bind_of_ok (Subscriber.run_connect_of_accepted (accepted info List.mem_cons_self))]
      exact ih (fun other member => accepted other (List.mem_cons_of_mem _ member)) _

/-- The loop up to the first publisher that is refused.  Its address is not among those
connected before, so the socket is asked. -/
theorem run_connectAll_of_refused {host : Host} {manager : SubscriberManager}
    {before : List SocketInfo} (behind : List SocketInfo) {info : SocketInfo} {error : PyError}
    (accepted : ∀ other ∈ before, host.refuses (manager.getConnectUrl host other) = none)
    (refused : host.refuses (manager.getConnectUrl host info) = some error)
    (subscriber : Subscriber)
    (connected : ∀ url ∈ subscriber.subUrls, host.refuses url = none) :
    (connectAll host (before ++ info :: behind) manager).run subscriber =
      .error error
        (subscriber.withUrls (before.map fun other => manager.getConnectUrl host other)) := by
  unfold connectAll Subscriber.withUrls
  induction before generalizing subscriber with
  | nil =>
      rw [List.nil_append, List.forM_cons]
      apply Action.bind_of_error
      apply Subscriber.run_connect_of_refused refused
      intro known
      rw [connected _ known] at refused
      cases refused
  | cons first rest ih =>
      have firstAccepted := accepted first List.mem_cons_self
      rw [List.cons_append, List.forM_cons,
        Action.bind_of_ok (Subscriber.run_connect_of_accepted firstAccepted)]
      apply ih (fun other member => accepted other (List.mem_cons_of_mem _ member))
      intro url member
      rcases ((Subscriber.gains_withUrl _ subscriber).urls url).1 member with rfl | old
      · exact firstAccepted
      · exact connected url old

/-- Either every publisher of a list is accepted, or there is a first refused one. -/
theorem accepted_or_refused (host : Host) (manager : SubscriberManager)
    (infos : List SocketInfo) :
    (∀ info ∈ infos, host.refuses (manager.getConnectUrl host info) = none) ∨
      ∃ before info behind error, infos = before ++ info :: behind ∧
        (∀ other ∈ before, host.refuses (manager.getConnectUrl host other) = none) ∧
        host.refuses (manager.getConnectUrl host info) = some error := by
  cases found : infos.find? fun info =>
      (host.refuses (manager.getConnectUrl host info)).isSome with
  | none =>
      left
      intro info member
      have answer := List.find?_eq_none.1 found info member
      rw [Bool.not_eq_true, Option.isSome_eq_false_iff, Option.isNone_iff_eq_none] at answer
      exact answer
  | some info =>
      right
      rcases List.find?_eq_some_iff_append.1 found with ⟨refuses, before, behind, split, earlier⟩
      rcases Option.isSome_iff_exists.1 refuses with ⟨error, refused⟩
      refine ⟨before, info, behind, error, split, ?_, refused⟩
      intro other member
      have answer := earlier other member
      rw [Bool.not_eq_true', Option.isSome_eq_false_iff, Option.isNone_iff_eq_none] at answer
      exact answer

/-- `add_subscriber` either enters a subscriber with a connection for every known publisher
of its topic, which is that of no other one, or raises and leaves the dictionary as it was and
nothing of the new one active. -/
structure AllOrNothing (host : Host) (topicName : TopicName) (node : Node) : Prop where
  raises : ∀ error next, (addSubscriber host topicName).run node = .error error next →
    next.2.subscriberDict = node.2.subscriberDict ∧
    ∃ subscriber, next.2.detached = node.2.detached ++ [subscriber] ∧
      subscriber.serial = node.2.created ∧ subscriber.Inactive
  returns : ∀ next, (addSubscriber host topicName).run node = .ok ⟨⟩ next →
    ∃ subscriber, next.2.subscriberDict.lookup topicName = some subscriber ∧
      subscriber.serial = node.2.created ∧
      ∀ info ∈ node.1.getPublisherInfo topicName,
        node.2.getConnectUrl host info ∈ subscriber.subUrls ∧
        ∀ other ∈ node.1.getPublisherInfo topicName, (other.ip, other.port) ≠ (info.ip, info.port) →
          node.2.getConnectUrl host other ≠ node.2.getConnectUrl host info

/-- Two known publishers of the topic share its socket file: both are on this host, on
different ports, and the file exists. -/
def SharesFile (host : Host) (topicName : TopicName) (node : Node) : Prop :=
  host.pathExists (node.2.ipcPath topicName) = true ∧
    ∃ first ∈ node.1.getPublisherInfo topicName, ∃ second ∈ node.1.getPublisherInfo topicName,
      first.ip = node.2.localIp ∧ second.ip = node.2.localIp ∧ first.port ≠ second.port

/-- No known publisher of the topic is refused and no two share the socket file, or the first
one is refused. -/
def AcceptsOrRefusesFirst (host : Host) (topicName : TopicName) (node : Node) : Prop :=
  ((∀ info ∈ node.1.getPublisherInfo topicName,
      host.refuses (node.2.getConnectUrl host info) = none) ∧
    ¬ SharesFile host topicName node) ∨
  ∃ info ∈ (node.1.getPublisherInfo topicName).head?,
    host.refuses (node.2.getConnectUrl host info) ≠ none

variable {host : Host} {topicName : TopicName} {node : Node}

theorem run_addSubscriber_of_ok {subscriber : Subscriber}
    (ran : (connectAll host (node.1.getPublisherInfo topicName) node.2).run
      (Subscriber.create node.2.created topicName) = .ok ⟨⟩ subscriber) :
    (addSubscriber host topicName).run node = .ok ⟨⟩ (node.1, node.2.insert subscriber) := by
  unfold addSubscriber
  rw [Action.bind_of_ok (Action.run_get node), ran]
  rfl

theorem run_addSubscriber_of_error {error : PyError} {subscriber : Subscriber}
    (ran : (connectAll host (node.1.getPublisherInfo topicName) node.2).run
      (Subscriber.create node.2.created topicName) = .error error subscriber) :
    (addSubscriber host topicName).run node =
      .error error (node.1, node.2.abandon subscriber) := by
  unfold addSubscriber
  rw [Action.bind_of_ok (Action.run_get node), ran]
  rfl

/-- Publishers that do not share the socket file have addresses of their own. -/
theorem apart_iff_not_sharesFile :
    (∀ info ∈ node.1.getPublisherInfo topicName, ∀ other ∈ node.1.getPublisherInfo topicName,
      (other.ip, other.port) ≠ (info.ip, info.port) →
        node.2.getConnectUrl host other ≠ node.2.getConnectUrl host info) ↔
      ¬ SharesFile host topicName node := by
  constructor
  · intro apart shares
    rcases shares with ⟨socketFile, first, firstKnown, second, secondKnown, firstLocal,
      secondLocal, ports⟩
    apply apart second secondKnown first firstKnown
    · intro same
      exact ports (Prod.mk.inj same).2
    · exact (getConnectUrl_eq_iff (name_of_mem_getPublisherInfo firstKnown)
        (name_of_mem_getPublisherInfo secondKnown)).2 (Or.inr ⟨firstLocal, secondLocal, socketFile⟩)
  · intro unshared info known other otherKnown different same
    rcases (getConnectUrl_eq_iff (name_of_mem_getPublisherInfo otherKnown)
      (name_of_mem_getPublisherInfo known)).1 same with equal | ⟨otherLocal, infoLocal, socketFile⟩
    · rw [equal] at different
      exact different rfl
    · refine unshared ⟨socketFile, other, otherKnown, info, known, otherLocal, infoLocal, ?_⟩
      intro ports
      exact different (Prod.ext (otherLocal.trans infoLocal.symm) ports)

theorem allOrNothing_iff_of_accepted
    (accepted : ∀ info ∈ node.1.getPublisherInfo topicName,
      host.refuses (node.2.getConnectUrl host info) = none) :
    AllOrNothing host topicName node ↔ ¬ SharesFile host topicName node := by
  have returned := run_addSubscriber_of_ok (run_connectAll_of_accepted accepted
    (Subscriber.create node.2.created topicName))
  have gains := Subscriber.gains_withUrls
    ((node.1.getPublisherInfo topicName).map fun info => node.2.getConnectUrl host info)
    (Subscriber.create node.2.created topicName)
  rw [← apart_iff_not_sharesFile]
  constructor
  · intro holds info known
    rcases holds.returns _ returned with ⟨subscriber, _, _, connected⟩
    exact (connected info known).2
  · intro apart
    constructor
    · intro error next raised
      rw [returned] at raised
      cases raised
    · intro next same
      rw [returned] at same
      cases same
      refine ⟨_, ?_, gains.serial, ?_⟩
      · simp only [insert, gains.name]
        exact Dict.lookup_set_self _ _ _
      · intro info member
        exact ⟨(gains.urls _).2 (Or.inl (List.mem_map_of_mem member)), apart info member⟩

theorem allOrNothing_of_first_refused {info : SocketInfo} {behind : List SocketInfo}
    {error : PyError} (publishers : node.1.getPublisherInfo topicName = info :: behind)
    (refused : host.refuses (node.2.getConnectUrl host info) = some error) :
    AllOrNothing host topicName node := by
  have earlier : ∀ other ∈ ([] : List SocketInfo),
      host.refuses (node.2.getConnectUrl host other) = none := nofun
  have raised := run_connectAll_of_refused behind earlier refused
    (Subscriber.create node.2.created topicName) nofun
  rw [List.nil_append, ← publishers] at raised
  have left := run_addSubscriber_of_error raised
  constructor
  · intro given next same
    rw [left] at same
    cases same
    exact ⟨rfl, _, rfl, rfl, Subscriber.inactive_create _ _⟩
  · intro next returned
    rw [left] at returned
    cases returned

/-- A refusal behind an accepted publisher leaves a connection with nobody to close it. -/
theorem not_allOrNothing_of_later_refused {first info : SocketInfo}
    {rest behind : List SocketInfo} {error : PyError}
    (publishers : node.1.getPublisherInfo topicName = first :: rest ++ info :: behind)
    (earlier : ∀ other ∈ first :: rest, host.refuses (node.2.getConnectUrl host other) = none)
    (refused : host.refuses (node.2.getConnectUrl host info) = some error) :
    ¬ AllOrNothing host topicName node := by
  intro holds
  have raised := run_connectAll_of_refused behind earlier refused
    (Subscriber.create node.2.created topicName) nofun
  rw [← publishers] at raised
  rcases holds.raises _ _ (run_addSubscriber_of_error raised) with
    ⟨-, subscriber, left, -, inactive⟩
  cases List.append_cancel_left left
  rcases inactive.unconnected with closed | unconnected
  · rw [Subscriber.socketOpen_withUrls] at closed
    cases closed
  · have gains := Subscriber.gains_withUrls
      ((first :: rest).map fun other => node.2.getConnectUrl host other)
      (Subscriber.create node.2.created topicName)
    have connected := (gains.urls (node.2.getConnectUrl host first)).2
      (Or.inl List.mem_cons_self)
    rw [unconnected] at connected
    cases connected

/-- `add_subscriber` is all or nothing if and only if the host refuses no known publisher
of the topic and no two share the socket file, or the host refuses the first one. -/
theorem allOrNothing_iff (host : Host) (topicName : TopicName) (node : Node) :
    AllOrNothing host topicName node ↔ AcceptsOrRefusesFirst host topicName node := by
  have answers := accepted_or_refused host node.2 (node.1.getPublisherInfo topicName)
  rcases answers with accepted | ⟨before, info, behind, error, publishers, earlier, refused⟩
  · rw [allOrNothing_iff_of_accepted accepted, AcceptsOrRefusesFirst, and_iff_right accepted,
      or_iff_left]
    rintro ⟨head, isHead, refused⟩
    exact refused (accepted head (List.mem_of_mem_head? isHead))
  · cases before with
    | nil =>
        apply iff_of_true
        · exact allOrNothing_of_first_refused publishers refused
        · right
          refine ⟨info, ?_, ?_⟩
          · rw [publishers]
            rfl
          · rw [refused]
            exact nofun
    | cons first rest =>
        apply iff_of_false
        · exact not_allOrNothing_of_later_refused publishers earlier refused
        · intro condition
          rcases condition with ⟨all, _⟩ | ⟨head, isHead, refusedHead⟩
          · have answer := all info
            rw [publishers, refused] at answer
            cases answer (List.mem_append_right _ List.mem_cons_self)
          · rw [publishers] at isHead
            cases isHead
            exact refusedHead (earlier first List.mem_cons_self)

/-- A remote node with one publisher of a topic. -/
def remoteTalker (nodeId ip : Text) (port : Int) : NodeInfo where
  nodeID := nodeId
  infoID := 1
  name := nodeId
  ip := ip
  topics := [{ name := "chat", ip := ip, port := port }]
  services := []

/-- A node that has heard of two publishers of one topic. -/
def twoTalkers (secondPort : Int) : Node :=
  (updateNode (call (.accepting fun _ => false)) 0 (remoteTalker "c" "10.0.0.3" secondPort)).after
    ((updateNode (call (.accepting fun _ => false)) 0 (remoteTalker "b" "10.0.0.2" 5001)).after
      (init "viewer" "10.0.0.1" "a" "zlc"))

/-- ZeroMQ refuses an address whose port is not a number of digits. -/
def portHost : Host where
  pathExists := fun _ => false
  refuses := fun url => if url = "tcp://10.0.0.3:-1" then some .zmqError else none

/-- The second known publisher advertises a port that no socket accepts: the call raises,
and the new subscriber goes on receiving from the first. -/
theorem later_refusal_leaves_connection :
    ((addSubscriber portHost "chat").after (twoTalkers (-1))).2.detached.map
        (fun subscriber => (subscriber.subUrls, subscriber.receiveLoop, subscriber.socketOpen)) =
      [([("tcp://10.0.0.2:5001" : Text)], .active, true)] ∧
    ¬ AllOrNothing portHost "chat" (twoTalkers (-1)) := by
  have publishers : (twoTalkers (-1)).1.getPublisherInfo "chat" =
      [{ name := "chat", ip := "10.0.0.2", port := 5001 }] ++
        { name := "chat", ip := "10.0.0.3", port := -1 } :: [] := by
    decide +kernel
  constructor
  · decide +kernel
  · have refused : portHost.refuses ((twoTalkers (-1)).2.getConnectUrl portHost
        { name := "chat", ip := "10.0.0.3", port := -1 }) = some .zmqError := by
      decide +kernel
    apply not_allOrNothing_of_later_refused publishers _ refused
    decide +kernel

end SubscriberManager

end Pyzlc
