import Pyzlc.Sockets.Subscriptions

/-!
# Subscribers that stay managed

A subscriber is managed while announcements reach it and `stop` closes it.  The manager
reaches a subscriber through the entry of its topic name, which the next subscriber of
the same topic overwrites.
-/

namespace Pyzlc

open Foundation

/-- The topic name a subscriber is added under. -/
def SubscriptionEvent.added : SubscriptionEvent → Option TopicName
  | .addSubscriber topicName _ => some topicName
  | _ => none

/-- Nothing is received any more. -/
def Subscriber.Closed (subscriber : Subscriber) : Prop :=
  subscriber.running = false ∧ subscriber.receiveLoop ≠ .active ∧ subscriber.socketOpen = false

theorem Subscriber.closed_close (subscriber : Subscriber) : subscriber.close.Closed := by
  refine ⟨rfl, ?_, rfl⟩
  unfold close
  cases subscriber.receiveLoop <;> simp

namespace SubscriberManager

open NodesInfoManager

/-- The subscribers that exist, entered or detached. -/
def everySubscriber (manager : SubscriberManager) : List Subscriber :=
  manager.subscriberDict.values ++ manager.detached

theorem mem_everySubscriber {manager : SubscriberManager} {subscriber : Subscriber} :
    subscriber ∈ manager.everySubscriber ↔
      (∃ topicName, manager.subscriberDict.lookup topicName = some subscriber) ∨
        subscriber ∈ manager.detached := by
  rw [everySubscriber, List.mem_append, Dict.mem_values_iff]

/-- Entering a subscriber loses none: the one it overwrites is detached. -/
theorem mem_everySubscriber_insert {manager : SubscriberManager} {subscriber other : Subscriber} :
    other ∈ (manager.insert subscriber).everySubscriber ↔
      other = subscriber ∨ other ∈ manager.everySubscriber := by
  simp only [mem_everySubscriber, insert, List.mem_append, Option.mem_toList, Dict.lookup_set]
  constructor
  · intro either
    rcases either with ⟨topicName, found⟩ | before | overwritten
    · split at found
      next => exact Or.inl (Option.some.inj found).symm
      next => exact Or.inr (Or.inl ⟨topicName, found⟩)
    · exact Or.inr (Or.inr before)
    · exact Or.inr (Or.inl ⟨_, overwritten⟩)
  · intro either
    rcases either with new | ⟨topicName, found⟩ | before
    · rw [new]
      exact Or.inl ⟨subscriber.name, if_pos rfl⟩
    · by_cases same : topicName = subscriber.name
      · rw [same] at found
        exact Or.inr (Or.inr found)
      · exact Or.inl ⟨topicName, (if_neg same).trans found⟩
    · exact Or.inr (Or.inl before)

/-- The topic names subscribers were added under, in order. -/
def addedTopics (trace : List SubscriptionEvent) : List TopicName :=
  trace.filterMap SubscriptionEvent.added

theorem addedTopics_snoc_added {trace : List SubscriptionEvent} (topicName : TopicName)
    (pathExists : Text → Bool) :
    addedTopics (trace ++ [.addSubscriber topicName pathExists]) =
      addedTopics trace ++ [topicName] := by
  rw [addedTopics, List.filterMap_append]
  rfl

theorem addedTopics_snoc_other {trace : List SubscriptionEvent} {event : SubscriptionEvent}
    (other : ∀ topicName pathExists, event ≠ .addSubscriber topicName pathExists) :
    addedTopics (trace ++ [event]) = addedTopics trace := by
  rw [addedTopics, List.filterMap_append]
  cases event with
  | addSubscriber topicName pathExists => exact absurd rfl (other topicName pathExists)
  | registerLocalPublisher => exact List.append_nil _
  | updateNode => exact List.append_nil _
  | removeNode => exact List.append_nil _

theorem addedTopics_mono {initial trace : List SubscriptionEvent}
    (within : initial <+: trace) : addedTopics initial <+: addedTopics trace :=
  within.filterMap _

/-! ## What a run has entered -/

/-- The subscribers of a node, by the topic names added so far. -/
structure Recorded (trace : List SubscriptionEvent) (node : Node) : Prop where
  created : node.2.created = (addedTopics trace).length
  exist : ∀ serial topicName, (addedTopics trace)[serial]? = some topicName →
    ∃ subscriber ∈ node.2.everySubscriber, subscriber.serial = serial ∧
      subscriber.name = topicName
  entered : ∀ topicName, node.2.subscriberDict.lookup topicName = none ↔
    topicName ∉ addedTopics trace
  named : ∀ topicName subscriber, node.2.subscriberDict.lookup topicName = some subscriber →
    subscriber.name = topicName
  running : ∀ subscriber ∈ node.2.everySubscriber, subscriber.running = true
  detached : node.2.detached = [] ↔ (addedTopics trace).Nodup

theorem recorded_init (localName localIp nodeID groupName : Text) :
    Recorded [] (init localName localIp nodeID groupName) where
  created := rfl
  exist := by
    intro serial topicName added
    cases added
  entered := by
    intro topicName
    simp [addedTopics, init]
  named := by
    intro topicName subscriber found
    cases found
  running := by
    intro subscriber member
    cases member
  detached := by simp [addedTopics, init]

theorem subscribed_name (pathExists : Text → Bool) (topicName : TopicName) (node : Node) :
    (subscribed pathExists topicName node).name = topicName :=
  (gains_subscribed pathExists topicName node).name

theorem recorded_added {trace : List SubscriptionEvent} {node : Node}
    (recorded : Recorded trace node) (topicName : TopicName) (pathExists : Text → Bool) :
    Recorded (trace ++ [.addSubscriber topicName pathExists])
      (node.1, node.2.insert (subscribed pathExists topicName node)) where
  created := by
    rw [addedTopics_snoc_added, List.length_append, ← recorded.created]
    rfl
  exist := by
    intro serial added found
    rw [addedTopics_snoc_added, List.getElem?_append] at found
    split at found
    next =>
      rcases recorded.exist serial added found with ⟨subscriber, member, same⟩
      exact ⟨subscriber, mem_everySubscriber_insert.2 (Or.inr member), same⟩
    next =>
      rcases List.getElem?_eq_some_iff.1 found with ⟨inside, last⟩
      have youngest : serial = node.2.created := by
        rw [recorded.created]
        rw [List.length_singleton] at inside
        omega
      refine ⟨_, mem_everySubscriber_insert.2 (Or.inl rfl), ?_, ?_⟩
      · rw [youngest]
        exact (gains_subscribed pathExists topicName node).serial
      · rw [subscribed_name, ← last, List.getElem_singleton]
  entered := by
    intro other
    rw [addedTopics_snoc_added, List.mem_append, List.mem_singleton, not_or, insert,
      subscribed_name, Dict.lookup_set]
    split
    next same => simp [same]
    next different => rw [recorded.entered, and_iff_left different]
  named := by
    intro other subscriber found
    rw [insert, subscribed_name, Dict.lookup_set] at found
    split at found
    next same =>
      cases found
      rw [same]
      exact subscribed_name pathExists topicName node
    next => exact recorded.named other subscriber found
  running := by
    intro subscriber member
    rcases mem_everySubscriber_insert.1 member with new | old
    · rw [new]
      exact (gains_subscribed pathExists topicName node).running
    · exact recorded.running subscriber old
  detached := by
    rw [addedTopics_snoc_added, insert, subscribed_name, List.append_eq_nil_iff,
      Option.toList_eq_nil_iff, recorded.detached, recorded.entered, List.nodup_append_comm,
      List.singleton_append, List.nodup_cons, and_comm]

theorem recorded_announced {trace : List SubscriptionEvent} {event : SubscriptionEvent}
    {node : Node} {subscribers : SubscriberManager} {host : Host} {topics : List SocketInfo}
    (recorded : Recorded trace node)
    (other : ∀ topicName pathExists, event ≠ .addSubscriber topicName pathExists)
    (announced : Announced host topics node.2 subscribers) :
    Recorded (trace ++ [event]) (registering node.1 event, subscribers) where
  created := by
    rw [addedTopics_snoc_other other, announced.created]
    exact recorded.created
  exist := by
    intro serial added found
    rw [addedTopics_snoc_other other] at found
    rcases recorded.exist serial added found with ⟨subscriber, member, sameSerial, sameName⟩
    rcases mem_everySubscriber.1 member with ⟨topicName, there⟩ | detached
    · rcases announced.present topicName subscriber there with ⟨connected, after, gains⟩
      exact ⟨connected, mem_everySubscriber.2 (Or.inl ⟨topicName, after⟩),
        gains.serial.trans sameSerial, gains.name.trans sameName⟩
    · refine ⟨subscriber, mem_everySubscriber.2 (Or.inr ?_), sameSerial, sameName⟩
      rw [announced.detached]
      exact detached
  entered := by
    intro topicName
    rw [addedTopics_snoc_other other, ← recorded.entered topicName]
    constructor
    · intro missing
      cases found : node.2.subscriberDict.lookup topicName with
      | none => rfl
      | some subscriber =>
          rcases announced.present topicName subscriber found with ⟨connected, there, _⟩
          rw [there] at missing
          cases missing
    · exact announced.absent topicName
  named := by
    intro topicName subscriber found
    rcases announced.origin found with ⟨origin, before, gains⟩
    rw [gains.name]
    exact recorded.named topicName origin before
  running := by
    intro subscriber member
    rcases mem_everySubscriber.1 member with ⟨topicName, found⟩ | detached
    · rcases announced.origin found with ⟨origin, before, gains⟩
      rw [gains.running]
      exact recorded.running origin (mem_everySubscriber.2 (Or.inl ⟨topicName, before⟩))
    · rw [announced.detached] at detached
      exact recorded.running subscriber (mem_everySubscriber.2 (Or.inr detached))
  detached := by
    rw [addedTopics_snoc_other other, announced.detached]
    exact recorded.detached

variable {localName localIp nodeID groupName : Text}

theorem recorded_of_exec {trace : List SubscriptionEvent} {node : Node}
    (run : (machine localName localIp nodeID groupName).exec trace = some node) :
    Recorded trace node := by
  apply Machine.exec_induction (motive := Recorded) _ _ run
  · exact recorded_init localName localIp nodeID groupName
  · intro trace node event next before recorded stepped
    cases nodeStep_of_machine (Machine.reachable_of_exec before) stepped with
    | added topicName pathExists => exact recorded_added recorded topicName pathExists
    | announced _ subscribers other announced => exact recorded_announced recorded other announced

/-! ## Announcements reach the subscribers -/

/-- Each subscriber of a node is connected to each publisher of its topic announced since
it was created. -/
def Connected (localName localIp nodeID groupName : Text) (trace : List SubscriptionEvent)
    (node : Node) : Prop :=
  ∀ subscriber ∈ node.2.everySubscriber, ∀ initial event before, initial ++ [event] <+: trace →
    (machine localName localIp nodeID groupName).exec initial = some before →
    subscriber.serial < before.2.created →
    ∀ topic ∈ announcement before.1 event, topic.name = subscriber.name →
      before.2.getConnectUrl (.accepting event.pathExists) topic ∈ subscriber.subUrls

/-- A node creates subscribers one after the other. -/
theorem created_mono {initial trace : List SubscriptionEvent} {before node : Node}
    (within : initial <+: trace)
    (runBefore : (machine localName localIp nodeID groupName).exec initial = some before)
    (run : (machine localName localIp nodeID groupName).exec trace = some node) :
    before.2.created ≤ node.2.created := by
  rw [(recorded_of_exec runBefore).created, (recorded_of_exec run).created]
  exact (addedTopics_mono within).length_le

/-- A step in a run of one more event is the last one or a step of the shorter run. -/
theorem last_or_earlier {initial trace : List SubscriptionEvent}
    {event last : SubscriptionEvent} (within : initial ++ [event] <+: trace ++ [last]) :
    (initial = trace ∧ event = last) ∨ initial ++ [event] <+: trace := by
  rcases List.prefix_concat_iff.1 within with whole | earlier
  · rcases List.append_inj' whole rfl with ⟨sameTrace, sameEvent⟩
    exact Or.inl ⟨sameTrace, List.singleton_inj.1 sameEvent⟩
  · exact Or.inr earlier

theorem connected_added {trace : List SubscriptionEvent} {node : Node}
    (run : (machine localName localIp nodeID groupName).exec trace = some node)
    (connected : Connected localName localIp nodeID groupName trace node)
    (topicName : TopicName) (pathExists : Text → Bool) :
    Connected localName localIp nodeID groupName
      (trace ++ [.addSubscriber topicName pathExists])
      (node.1, node.2.insert (subscribed pathExists topicName node)) := by
  intro subscriber member initial event before within runBefore older topic announced named
  rcases last_or_earlier within with ⟨_, rfl⟩ | earlier
  · cases announced
  · rcases mem_everySubscriber_insert.1 member with new | old
    · -- the new subscriber is younger than every earlier announcement
      have fewer := created_mono ((List.prefix_append _ _).trans earlier) runBefore run
      have youngest : subscriber.serial = node.2.created := by
        rw [new]
        exact (gains_subscribed pathExists topicName node).serial
      rw [youngest] at older
      exact absurd older (Nat.not_lt.2 fewer)
    · exact connected subscriber old initial event before earlier runBefore older topic announced
        named

theorem connected_announced {trace : List SubscriptionEvent} {last : SubscriptionEvent}
    {node : Node} {subscribers : SubscriberManager}
    (run : (machine localName localIp nodeID groupName).exec trace = some node)
    (connected : Connected localName localIp nodeID groupName trace node)
    (undetached : node.2.detached = [])
    (announced : Announced (.accepting last.pathExists) (announcement node.1 last) node.2
      subscribers) :
    Connected localName localIp nodeID groupName (trace ++ [last])
      (registering node.1 last, subscribers) := by
  intro subscriber member initial event before within runBefore older topic topicAnnounced named
  rcases mem_everySubscriber.1 member with ⟨topicName, found⟩ | detached
  · rcases announced.origin found with ⟨origin, there, gains⟩
    have originName := (recorded_of_exec run).named topicName origin there
    apply (gains.urls _).2
    rw [gains.name] at named
    rcases last_or_earlier within with ⟨rfl, rfl⟩ | earlier
    · rw [run] at runBefore
      cases runBefore
      exact Or.inl ⟨topic, topicAnnounced, named.trans originName, rfl⟩
    · right
      rw [gains.serial] at older
      exact connected origin (mem_everySubscriber.2 (Or.inl ⟨topicName, there⟩)) initial event
        before earlier runBefore older topic topicAnnounced named
  · rw [announced.detached, undetached] at detached
    cases detached

/-- While no topic name repeats, every subscriber is entered and reached. -/
theorem connected_of_nodup {trace : List SubscriptionEvent} {node : Node}
    (run : (machine localName localIp nodeID groupName).exec trace = some node)
    (distinct : (addedTopics trace).Nodup) :
    Connected localName localIp nodeID groupName trace node := by
  revert distinct
  apply Machine.exec_induction (motive := fun trace node => (addedTopics trace).Nodup →
    Connected localName localIp nodeID groupName trace node) _ _ run
  · intro _ subscriber member
    cases member
  · intro trace node event next before ih stepped distinct
    have earlier : (addedTopics trace).Nodup :=
      distinct.sublist (addedTopics_mono (List.prefix_append _ _)).sublist
    cases nodeStep_of_machine (Machine.reachable_of_exec before) stepped with
    | added topicName pathExists => exact connected_added before (ih earlier) topicName pathExists
    | announced _ subscribers other announced =>
        exact connected_announced before (ih earlier)
          ((recorded_of_exec before).detached.2 earlier) announced

/-! ## Stopping -/

theorem mem_everySubscriber_stop {node : Node} {subscriber : Subscriber} :
    subscriber ∈ (stop node).2.everySubscriber ↔
      (∃ topicName entered, node.2.subscriberDict.lookup topicName = some entered ∧
        subscriber = entered.close) ∨ subscriber ∈ node.2.detached := by
  simp only [mem_everySubscriber, stop, closeAll, Dict.lookup_mapValues, Option.map_eq_some_iff,
    eq_comm (a := subscriber)]

/-- `stop` closes every subscriber exactly if none is detached. -/
theorem stop_closes_iff {trace : List SubscriptionEvent} {node : Node}
    (recorded : Recorded trace node) :
    (∀ subscriber ∈ (stop node).2.everySubscriber, subscriber.Closed) ↔ node.2.detached = [] := by
  constructor
  · intro closed
    apply List.eq_nil_iff_forall_not_mem.2
    intro subscriber detached
    have stillOpen := recorded.running subscriber (mem_everySubscriber.2 (Or.inr detached))
    have nowClosed := (closed subscriber (mem_everySubscriber_stop.2 (Or.inr detached))).1
    rw [stillOpen] at nowClosed
    cases nowClosed
  · intro undetached subscriber member
    rcases mem_everySubscriber_stop.1 member with ⟨topicName, entered, _, rfl⟩ | detached
    · exact entered.closed_close
    · rw [undetached] at detached
      cases detached

/-- Until `stop` every subscriber is connected to each publisher of its topic announced
since it was created, and `stop` closes every subscriber. -/
def StayManaged (localName localIp nodeID groupName : Text) (trace : List SubscriptionEvent) :
    Prop :=
  (∀ initial node, initial <+: trace →
    (machine localName localIp nodeID groupName).exec initial = some node →
    Connected localName localIp nodeID groupName initial node) ∧
  ∀ node, (machine localName localIp nodeID groupName).exec trace = some node →
    ∀ subscriber ∈ (stop node).2.everySubscriber, subscriber.Closed

/-- Subscribers stay managed along a run if and only if no topic name is added twice. -/
theorem stayManaged_iff (localName localIp nodeID groupName : Text)
    (trace : List SubscriptionEvent) :
    StayManaged localName localIp nodeID groupName trace ↔ (addedTopics trace).Nodup := by
  constructor
  · intro managed
    rcases exec_machine localName localIp nodeID groupName trace with ⟨node, run⟩
    have recorded := recorded_of_exec run
    exact recorded.detached.1 ((stop_closes_iff recorded).1 (managed.2 node run))
  · intro distinct
    constructor
    · intro initial node within run
      exact connected_of_nodup run
        (distinct.sublist (addedTopics_mono within).sublist)
    · intro node run
      have recorded := recorded_of_exec run
      exact (stop_closes_iff recorded).2 (recorded.detached.2 distinct)

/-- Two subscribers of one topic. -/
def twiceRun : List SubscriptionEvent :=
  [.addSubscriber "chat" fun _ => false, .addSubscriber "chat" fun _ => false,
    .registerLocalPublisher "chat" 5001 fun _ => false]

/-- The first subscriber of `twiceRun` outlives `stop`. -/
theorem stayManaged_fails_along_twiceRun :
    ¬ StayManaged "listener" "10.0.0.1" "a" "zlc" twiceRun := by
  intro managed
  have closed := managed.2 _ rfl (.create 0 "chat") (by decide)
  exact absurd closed.1 (by decide)

end SubscriberManager

end Pyzlc
