import Mathlib.Data.List.Find
import Pyzlc.Sockets.Subscriptions

/-!
# One connection for each publisher

A publisher is looked up at its TCP address or, on the node's own host and while the socket
file of its topic exists, at the path of that file, which does not mention the port.  A
connection is made for it only if the subscriber has none at that address.  The connections
are recorded beside the run with the publishers they were made for: two known publishers have
connections of their own exactly as long as no operation leaves one of them out.
-/

namespace Pyzlc

open Foundation

namespace SubscriberManager

open NodesInfoManager

/-- A connection of a subscriber, with the publisher that was looked up. -/
structure Connection where
  publisher : SocketInfo
  url : Text
  deriving DecidableEq, Repr

/-- The connections made once a publisher is looked up: `connect` makes one for it unless the
subscriber has a connection at the same address. -/
def connectFor (host : Host) (manager : SubscriberManager) (made : List Connection)
    (info : SocketInfo) : List Connection :=
  let url := manager.getConnectUrl host info
  if url ∈ made.map Connection.url then made else made ++ [{ publisher := info, url := url }]

/-- The connections of the subscriber of each topic. -/
abbrev Ledger := TopicName → List Connection

/-- The connections of the subscriber that an operation starts from. -/
def madeBefore (ledger : Ledger) (topicName : TopicName) : SubscriptionEvent → List Connection
  | .addSubscriber added _ => if topicName = added then [] else ledger topicName
  | _ => ledger topicName

/-- The publishers of a topic that an operation looks up, in its order. -/
def lookUps (node : Node) (topicName : TopicName) (event : SubscriptionEvent) : List SocketInfo :=
  (lookedUp node.1 topicName event).filter fun info => info.name = topicName

/-- The record of the connections after an operation. -/
def recordConnections (node : Node) (event : SubscriptionEvent) (ledger : Ledger) : Ledger :=
  fun topicName =>
    match startingFrom node topicName event with
    | none => []
    | some _ => (lookUps node topicName event).foldl
        (connectFor (.accepting event.pathExists) node.2) (madeBefore ledger topicName event)

/-- Subscriptions from a fresh node on, with the connections made. -/
def recorded (localName localIp nodeID groupName : Text) :
    Machine (Node × Ledger) SubscriptionEvent :=
  (machine localName localIp nodeID groupName).recording (fun _ => []) recordConnections

/-- For any two known publishers of a subscribed topic with different sockets, connections
were made, and at different addresses. -/
def OwnConnections (state : Node × Ledger) : Prop :=
  ∀ topicName subscriber, state.1.2.subscriberDict.lookup topicName = some subscriber →
    ∀ first ∈ state.1.1.getPublisherInfo topicName,
      ∀ second ∈ state.1.1.getPublisherInfo topicName,
        (first.ip, first.port) ≠ (second.ip, second.port) →
          ∃ firstUrl ∈ subscriber.subUrls, ∃ secondUrl ∈ subscriber.subUrls,
            { publisher := first, url := firstUrl } ∈ state.2 topicName ∧
              { publisher := second, url := secondUrl } ∈ state.2 topicName ∧
                firstUrl ≠ secondUrl

/-- A publisher is looked up at the socket file of its topic when the subscriber is connected
to the file already, or another publisher of this host comes first in the same operation. -/
structure Shares (node : Node) (event : SubscriptionEvent) (topicName : TopicName)
    (origin : Subscriber) (info : SocketInfo) : Prop where
  sameHost : info.ip = node.2.localIp
  socketFile : event.pathExists (node.2.ipcPath topicName) = true
  taken : node.2.ipcUrl topicName ∈ origin.subUrls ∨
    ((lookUps node topicName event).find? fun other => other.ip = node.2.localIp) ≠ some info

/-- A publisher without a connection, which the operation does not look up, or looks up where
others are connected. -/
structure LeftOut (state : Node × Ledger) (event : SubscriptionEvent) (topicName : TopicName)
    (origin : Subscriber) (info : SocketInfo) : Prop where
  unconnected : ∀ url, { publisher := info, url := url } ∉ madeBefore state.2 topicName event
  shares : info ∈ lookUps state.1 topicName event → Shares state.1 event topicName origin info

/-- Of the publishers known once the operation has changed the registry, none is left out
beside another one with a different socket. -/
def KeepsApart (state : Node × Ledger) (event : SubscriptionEvent) : Prop :=
  ∀ topicName origin, startingFrom state.1 topicName event = some origin →
    ∀ first ∈ (registering state.1.1 event).getPublisherInfo topicName,
      ∀ second ∈ (registering state.1.1 event).getPublisherInfo topicName,
        (first.ip, first.port) ≠ (second.ip, second.port) →
          ¬ LeftOut state event topicName origin first

/-! ## Looking up publishers one after another -/

section LookUps

variable {host : Host} {manager : SubscriberManager} {infos : List SocketInfo}
  {made : List Connection}

theorem mem_urls_connectFor {info : SocketInfo} {url : Text} :
    url ∈ (connectFor host manager made info).map Connection.url ↔
      url ∈ made.map Connection.url ∨ url = manager.getConnectUrl host info := by
  simp only [connectFor]
  split
  next held =>
    constructor
    · exact Or.inl
    · intro either
      rcases either with before | same
      · exact before
      · rw [same]
        exact held
  next => rw [List.map_append, List.mem_append, List.map_singleton, List.mem_singleton]

theorem mem_urls_connections {url : Text} :
    url ∈ (infos.foldl (connectFor host manager) made).map Connection.url ↔
      url ∈ made.map Connection.url ∨ ∃ info ∈ infos, url = manager.getConnectUrl host info := by
  induction infos generalizing made with
  | nil => simp only [List.foldl_nil, List.not_mem_nil, false_and, exists_false, or_false]
  | cons info rest ih =>
      rw [List.foldl_cons, ih, mem_urls_connectFor, or_assoc, List.exists_mem_cons_iff]

theorem nodup_connections (distinct : (made.map Connection.url).Nodup) :
    ((infos.foldl (connectFor host manager) made).map Connection.url).Nodup := by
  induction infos generalizing made with
  | nil => exact distinct
  | cons info rest ih =>
      apply ih
      simp only [connectFor]
      split
      next => exact distinct
      next fresh =>
        rw [List.map_append, List.map_singleton, ← List.concat_eq_append]
        exact distinct.concat fresh

/-- A connection is new exactly if its address is, and its publisher is the first to be
looked up there. -/
theorem mem_connections {connection : Connection} :
    connection ∈ infos.foldl (connectFor host manager) made ↔
      connection ∈ made ∨ (connection.url ∉ made.map Connection.url ∧
        (infos.find? fun info => manager.getConnectUrl host info = connection.url) =
          some connection.publisher) := by
  induction infos generalizing made with
  | nil => simp only [List.foldl_nil, List.find?_nil, reduceCtorEq, and_false, or_false]
  | cons info rest ih =>
      rw [List.foldl_cons, ih, mem_urls_connectFor, List.find?_cons]
      by_cases here : manager.getConnectUrl host info = connection.url
      · -- this look-up settles the address of the connection
        simp only [here, or_true, not_true_eq_false, false_and, or_false, decide_true,
          Option.some.injEq, connectFor]
        split
        next held => simp only [held, not_true_eq_false, false_and, or_false]
        next fresh =>
          rw [List.mem_append, List.mem_singleton]
          simp only [fresh, not_false_eq_true, true_and]
          cases connection
          simp only [Connection.mk.injEq, and_true, eq_comm]
      · have other : connection.url ≠ manager.getConnectUrl host info := Ne.symm here
        have same : connection ∈ connectFor host manager made info ↔ connection ∈ made := by
          simp only [connectFor]
          split
          next => rfl
          next =>
            rw [List.mem_append, List.mem_singleton, or_iff_left]
            intro added
            rw [added] at other
            exact other rfl
        simp only [same, other, or_false, here, decide_false]

theorem address_of_find? {info : SocketInfo} {url : Text}
    (first : (infos.find? fun other => manager.getConnectUrl host other = url) = some info) :
    info ∈ infos ∧ manager.getConnectUrl host info = url := by
  refine ⟨List.mem_of_find?_eq_some first, ?_⟩
  have decided := List.find?_some first
  exact of_decide_eq_true decided

end LookUps

/-! ## The record -/

/-- The record of a subscriber's connections: its addresses are exactly those of the
subscriber, each once, and each is an address of the connection's publisher. -/
structure Tracks (manager : SubscriberManager) (topicName : TopicName) (subscriber : Subscriber)
    (made : List Connection) : Prop where
  urls : ∀ url, url ∈ subscriber.subUrls ↔ url ∈ made.map Connection.url
  nodup : (made.map Connection.url).Nodup
  names : ∀ connection ∈ made, connection.publisher.name = topicName
  addresses : ∀ connection ∈ made, connection.url = tcpUrl connection.publisher ∨
    connection.url = manager.ipcUrl topicName

def Tracked (state : Node × Ledger) : Prop :=
  ∀ topicName subscriber, state.1.2.subscriberDict.lookup topicName = some subscriber →
    Tracks state.1.2 topicName subscriber (state.2 topicName)

theorem tracks_create (manager : SubscriberManager) (topicName : TopicName) (serial : Nat) :
    Tracks manager topicName (.create serial topicName) [] where
  urls := fun _ => Iff.rfl
  nodup := List.nodup_nil
  names := fun _ member => absurd member List.not_mem_nil
  addresses := fun _ member => absurd member List.not_mem_nil

/-- Looking up publishers of the topic keeps the record. -/
theorem Tracks.lookUps {manager : SubscriberManager} {topicName : TopicName}
    {origin subscriber : Subscriber} {made : List Connection} {host : Host}
    {infos : List SocketInfo} (tracks : Tracks manager topicName origin made)
    (named : ∀ info ∈ infos, info.name = topicName)
    (gains : origin.Gains (fun url => ∃ info ∈ infos, url = manager.getConnectUrl host info)
      subscriber) :
    Tracks manager topicName subscriber (infos.foldl (connectFor host manager) made) := by
  have found : ∀ connection ∈ infos.foldl (connectFor host manager) made, connection ∈ made ∨
      (connection.publisher ∈ infos ∧
        manager.getConnectUrl host connection.publisher = connection.url) := by
    intro connection member
    rcases mem_connections.1 member with before | ⟨_, first⟩
    · exact Or.inl before
    · exact Or.inr (address_of_find? first)
  constructor
  · intro url
    rw [gains.urls, mem_urls_connections, tracks.urls, or_comm]
  · exact nodup_connections tracks.nodup
  · intro connection member
    rcases found connection member with before | ⟨looked, _⟩
    · exact tracks.names connection before
    · exact named _ looked
  · intro connection member
    rcases found connection member with before | ⟨looked, address⟩
    · exact tracks.addresses connection before
    · rw [← address, ← named _ looked]
      exact (getConnectUrl_cases host connection.publisher manager).symm

section Step

variable {node next : Node} {event : SubscriptionEvent} {ledger : Ledger}
  {topicName : TopicName} {origin subscriber : Subscriber}

theorem tracks_start (tracked : Tracked (node, ledger))
    (starting : startingFrom node topicName event = some origin) :
    Tracks node.2 topicName origin (madeBefore ledger topicName event) := by
  cases event with
  | addSubscriber added pathExists =>
      simp only [startingFrom, madeBefore] at starting ⊢
      split
      next same =>
        rw [if_pos same] at starting
        cases starting
        exact tracks_create node.2 topicName _
      next different =>
        rw [if_neg different] at starting
        exact tracked topicName origin starting
  | registerLocalPublisher => exact tracked topicName origin starting
  | updateNode => exact tracked topicName origin starting
  | removeNode => exact tracked topicName origin starting

theorem name_of_mem_lookUps {info : SocketInfo} (looked : info ∈ lookUps node topicName event) :
    info.name = topicName :=
  of_decide_eq_true (List.mem_filter.1 looked).2

/-- What an operation connects are the addresses of the publishers it looks up. -/
theorem gains_lookUps
    (gains : origin.Gains (ConnectUrl (.accepting event.pathExists)
      (lookedUp node.1 topicName event) node.2 topicName) subscriber) :
    origin.Gains (fun url => ∃ info ∈ lookUps node topicName event,
      url = node.2.getConnectUrl (.accepting event.pathExists) info) subscriber := by
  apply gains.congr
  intro url
  simp only [ConnectUrl, lookUps, List.mem_filter, decide_eq_true_eq, and_assoc]

theorem recordConnections_eq (starting : startingFrom node topicName event = some origin) :
    recordConnections node event ledger topicName =
      (lookUps node topicName event).foldl (connectFor (.accepting event.pathExists) node.2)
        (madeBefore ledger topicName event) := by
  rw [recordConnections, starting]

theorem tracked_step (stepped : NodeStep node event next) (tracked : Tracked (node, ledger)) :
    Tracked (next, recordConnections node event ledger) := by
  intro topicName subscriber found
  rcases stepped.origin found with ⟨origin, starting, gains⟩
  have tracks := (tracks_start tracked starting).lookUps
    (fun _ looked => name_of_mem_lookUps looked) (gains_lookUps gains)
  have sameUrl : next.2.ipcUrl topicName = node.2.ipcUrl topicName := by
    unfold ipcUrl ipcPath
    rw [stepped.groupName]
  show Tracks next.2 topicName subscriber (recordConnections node event ledger topicName)
  rw [recordConnections_eq starting]
  constructor
  · exact tracks.urls
  · exact tracks.nodup
  · exact tracks.names
  · rw [sameUrl]
    exact tracks.addresses

/-! ## One operation -/

/-- Where a publisher has no connection, none is made at its TCP address. -/
theorem tcpUrl_not_mem {manager : SubscriberManager} {made : List Connection} {info : SocketInfo}
    (tracks : Tracks manager topicName origin made) (named : info.name = topicName)
    (unconnected : ∀ url, { publisher := info, url := url } ∉ made) :
    tcpUrl info ∉ made.map Connection.url := by
  intro member
  rcases List.mem_map.1 member with ⟨connection, found, same⟩
  rcases tracks.addresses connection found with tcp | file
  · have publisher := eq_of_tcpUrl_eq ((tracks.names connection found).trans named.symm)
      (tcp.symm.trans same)
    apply unconnected connection.url
    rw [← publisher]
    exact found
  · exact tcpUrl_ne_ipcUrl _ _ _ (same.symm.trans file)

/-- The first publisher looked up at the socket file is the first of this host. -/
theorem find?_ipcUrl (socketFile : event.pathExists (node.2.ipcPath topicName) = true) :
    ((lookUps node topicName event).find? fun info =>
        node.2.getConnectUrl (.accepting event.pathExists) info = node.2.ipcUrl topicName) =
      (lookUps node topicName event).find? fun info => info.ip = node.2.localIp := by
  apply List.find?_congr
  intro info looked
  rw [decide_eq_decide, getConnectUrl_eq_ipcUrl_iff (name_of_mem_lookUps looked)]
  exact and_iff_left socketFile

/-- After an operation a publisher has a connection unless it was left out. -/
theorem connected_iff (tracked : Tracked (node, ledger))
    (starting : startingFrom node topicName event = some origin) {info : SocketInfo}
    (named : info.name = topicName) :
    (∃ url, { publisher := info, url := url } ∈ recordConnections node event ledger topicName) ↔
      ¬ LeftOut (node, ledger) event topicName origin info := by
  have tracks := tracks_start tracked starting
  rw [recordConnections_eq starting]
  simp only [mem_connections]
  constructor
  · intro connected leftOut
    rcases connected with ⟨url, before | ⟨fresh, first⟩⟩
    · exact leftOut.unconnected url before
    · rcases address_of_find? first with ⟨looked, address⟩
      have shares := leftOut.shares looked
      have atFile : url = node.2.ipcUrl topicName := by
        rw [← address]
        exact (getConnectUrl_eq_ipcUrl_iff named).2 ⟨shares.sameHost, shares.socketFile⟩
      rcases shares.taken with held | another
      · apply fresh
        rw [atFile]
        exact (tracks.urls _).1 held
      · apply another
        rw [← find?_ipcUrl shares.socketFile, ← atFile]
        exact first
  · intro served
    apply Classical.byContradiction
    intro none
    have unconnected : ∀ url, { publisher := info, url := url } ∉
        madeBefore ledger topicName event :=
      fun url before => none ⟨url, Or.inl before⟩
    apply served
    refine ⟨unconnected, fun looked => ?_⟩
    rcases getConnectUrl_cases (.accepting event.pathExists) info node.2 with file | tcp
    · rw [named] at file
      rcases (getConnectUrl_eq_ipcUrl_iff named).1 file with ⟨sameHost, socketFile⟩
      refine ⟨sameHost, socketFile, ?_⟩
      apply Classical.byContradiction
      intro untaken
      rcases not_or.1 untaken with ⟨free, first⟩
      apply none
      refine ⟨node.2.ipcUrl topicName, Or.inr ⟨mt (tracks.urls _).2 free, ?_⟩⟩
      rw [find?_ipcUrl socketFile]
      exact Classical.not_not.1 first
    · -- nothing else is looked up at a TCP address
      refine absurd ⟨tcpUrl info, Or.inr ⟨tcpUrl_not_mem tracks named unconnected, ?_⟩⟩ none
      have found : ((lookUps node topicName event).find? fun other =>
          node.2.getConnectUrl (.accepting event.pathExists) other = tcpUrl info).isSome :=
        List.find?_isSome.2 ⟨info, looked, decide_eq_true tcp⟩
      rcases Option.isSome_iff_exists.1 found with ⟨other, first⟩
      rcases address_of_find? first with ⟨otherLooked, address⟩
      have names := (name_of_mem_lookUps otherLooked).trans named.symm
      rw [first, eq_of_getConnectUrl_eq_tcpUrl names address]

/-- Connections are own ones after an operation exactly if it leaves no publisher out. -/
theorem ownConnections_step_iff (stepped : NodeStep node event next)
    (tracked : Tracked (node, ledger)) :
    OwnConnections (next, recordConnections node event ledger) ↔
      KeepsApart (node, ledger) event := by
  constructor
  · intro own topicName origin starting first firstKnown second secondKnown different leftOut
    rcases stepped.connected starting with ⟨subscriber, reached, _⟩
    rw [← stepped.manager] at firstKnown secondKnown
    rcases own topicName subscriber reached first firstKnown second secondKnown different with
      ⟨firstUrl, _, _, _, made, _, _⟩
    exact (connected_iff tracked starting (name_of_mem_getPublisherInfo firstKnown)).1
      ⟨firstUrl, made⟩ leftOut
  · intro keeps topicName subscriber found first firstKnown second secondKnown different
    rcases stepped.origin found with ⟨origin, starting, _⟩
    have tracks := tracked_step stepped tracked topicName subscriber found
    have firstNamed := name_of_mem_getPublisherInfo firstKnown
    have secondNamed := name_of_mem_getPublisherInfo secondKnown
    rw [stepped.manager] at firstKnown secondKnown
    rcases (connected_iff tracked starting firstNamed).2
      (keeps topicName origin starting first firstKnown second secondKnown different) with
      ⟨firstUrl, firstMade⟩
    rcases (connected_iff tracked starting secondNamed).2
      (keeps topicName origin starting second secondKnown first firstKnown different.symm) with
      ⟨secondUrl, secondMade⟩
    refine ⟨firstUrl, (tracks.urls _).2 (List.mem_map_of_mem firstMade), secondUrl,
      (tracks.urls _).2 (List.mem_map_of_mem secondMade), firstMade, secondMade, ?_⟩
    intro same
    have equal := List.inj_on_of_nodup_map tracks.nodup firstMade secondMade same
    have publishers : first = second := congrArg Connection.publisher equal
    rw [publishers] at different
    exact different rfl

end Step

/-! ## Runs -/

variable {localName localIp nodeID groupName : Text}

theorem nodeStep_of_recorded {state next : Node × Ledger} {event : SubscriptionEvent}
    (reachable : (recorded localName localIp nodeID groupName).Reachable state)
    (stepped : (recorded localName localIp nodeID groupName).step state event = some next) :
    NodeStep state.1 event next.1 ∧ next.2 = recordConnections state.1 event state.2 := by
  rcases Machine.recording_step.1 stepped with ⟨operation, record⟩
  exact ⟨nodeStep_of_machine (Machine.reachable_of_recording reachable) operation, record⟩

/-- The recorded addresses are those the subscribers are connected to, all along. -/
theorem tracked_of_reachable {state : Node × Ledger}
    (reachable : (recorded localName localIp nodeID groupName).Reachable state) :
    Tracked state := by
  apply Machine.Reachable.invariant _ _ reachable
  · intro topicName subscriber found
    cases found
  · intro state event next reachable tracked stepped
    rcases nodeStep_of_recorded reachable stepped with ⟨operation, record⟩
    have kept := tracked_step operation tracked
    rw [← record] at kept
    exact kept

/-- Publishers of a topic have their own connections along a run if and only if no
operation of it leaves one of them out beside another. -/
theorem ownConnections_iff (localName localIp nodeID groupName : Text)
    (trace : List SubscriptionEvent) :
    (recorded localName localIp nodeID groupName).StatesAlong OwnConnections trace ↔
      (recorded localName localIp nodeID groupName).StepsAlong KeepsApart trace := by
  have run : ∃ last, (recorded localName localIp nodeID groupName).exec trace = some last :=
    Machine.exec_of_total (fun _ _ => ⟨_, rfl⟩) trace
  rcases run with ⟨last, run⟩
  apply Machine.statesAlong_iff_stepsAlong _ _ run
  · intro topicName subscriber found
    cases found
  · intro state event next reachable _ stepped
    rcases nodeStep_of_recorded reachable stepped with ⟨operation, record⟩
    have exact_step := ownConnections_step_iff operation (tracked_of_reachable reachable)
    rw [← record] at exact_step
    exact exact_step

/-- Two publishers of one topic on one host; the file of the topic's socket exists. -/
def sharedRun : List SubscriptionEvent :=
  [.addSubscriber "chat" fun _ => true,
    .registerLocalPublisher "chat" 5001 fun _ => true,
    .registerLocalPublisher "chat" 5002 fun _ => true]

/-- No connection is made for the second publisher of `sharedRun`. -/
theorem ownConnections_fails_along_sharedRun :
    ¬ (recorded "listener" "10.0.0.1" "a" "zlc").StatesAlong OwnConnections sharedRun := by
  intro states
  have own := states sharedRun _ List.prefix_rfl rfl
  let subscriber : Subscriber := {
    serial := 0, name := "chat", running := true, connected := true
    subUrls := ["ipc:///tmp/zlc/zlc/chat/topic.sock"], receiveLoop := .active, socketOpen := true }
  have shared := own "chat" subscriber (by decide +kernel) ⟨"chat", "10.0.0.1", 5001⟩
    (by decide +kernel)
    ⟨"chat", "10.0.0.1", 5002⟩ (by decide +kernel) (by decide)
  rcases shared with ⟨_, _, secondUrl, secondMember, _, made, _⟩
  cases List.mem_singleton.1 secondMember
  exact absurd made (by decide +kernel)

-- a publisher reached over TCP and later over the socket file leaves no address for the next
example :
    ((recorded "listener" "10.0.0.1" "a" "zlc").exec [.addSubscriber "chat" fun _ => true,
        .registerLocalPublisher "chat" 5001 fun _ => false,
        .registerLocalPublisher "log" 5003 fun _ => true,
        .registerLocalPublisher "chat" 5002 fun _ => true]).map (fun state => state.2 "chat") =
      some [⟨⟨"chat", "10.0.0.1", 5001⟩, "tcp://10.0.0.1:5001"⟩,
        ⟨⟨"chat", "10.0.0.1", 5001⟩, "ipc:///tmp/zlc/zlc/chat/topic.sock"⟩] := by
  decide +kernel

end SubscriberManager

end Pyzlc
