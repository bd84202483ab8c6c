import Pyzlc.Nodes.ManagerSpec
import Pyzlc.Sockets.SubscriberManager

/-!
# What the operations do to subscribers

An announcement connects each subscriber of a topic to exactly the addresses of the
topic's announced sockets; adding a subscriber connects it to those of the known ones.
Sockets accept every address here and the only update handler is the manager's own, so
no connection raises.
-/

namespace Pyzlc

open Foundation

namespace Subscriber

/-! ## Connecting one subscriber -/

/-- One subscriber at two times, connected to some more addresses the second time. -/
structure Gains (gained : Text → Prop) (before after : Subscriber) : Prop where
  serial : after.serial = before.serial
  name : after.name = before.name
  running : after.running = before.running
  urls : ∀ url, url ∈ after.subUrls ↔ gained url ∨ url ∈ before.subUrls

/-- Nothing has changed, and what was to be gained was there. -/
theorem gains_of_known {gained : Text → Prop} {subscriber : Subscriber}
    (known : ∀ url, gained url → url ∈ subscriber.subUrls) :
    Gains gained subscriber subscriber where
  serial := rfl
  name := rfl
  running := rfl
  urls := by
    intro url
    constructor
    · exact Or.inr
    · intro either
      rcases either with new | old
      · exact known url new
      · exact old

theorem Gains.trans {first second : Text → Prop} {before middle after : Subscriber}
    (left : Gains first before middle) (right : Gains second middle after) :
    Gains (fun url => first url ∨ second url) before after where
  serial := right.serial.trans left.serial
  name := right.name.trans left.name
  running := right.running.trans left.running
  urls := by
    intro url
    rw [right.urls, left.urls, ← or_assoc, or_comm (a := second url)]

theorem Gains.congr {gained gained' : Text → Prop} {before after : Subscriber}
    (gains : Gains gained before after) (same : ∀ url, gained url ↔ gained' url) :
    Gains gained' before after := by
  have equal : gained = gained' := funext fun url => propext (same url)
  rw [← equal]
  exact gains

/-- A subscriber connected to one more address. -/
def withUrl (subscriber : Subscriber) (url : Text) : Subscriber :=
  if url ∈ subscriber.subUrls then subscriber
  else { subscriber with
    connected := true, subUrls := subscriber.subUrls ++ [url], receiveLoop := .active }

def withUrls (urls : List Text) (subscriber : Subscriber) : Subscriber :=
  urls.foldl withUrl subscriber

theorem gains_withUrl (url : Text) (subscriber : Subscriber) :
    Gains (fun other => other = url) subscriber (subscriber.withUrl url) := by
  unfold withUrl
  split
  next known =>
    apply gains_of_known
    intro other same
    rw [same]
    exact known
  next =>
    constructor
    · rfl
    · rfl
    · rfl
    · simp [or_comm]

theorem gains_withUrls (urls : List Text) (subscriber : Subscriber) :
    Gains (fun url => url ∈ urls) subscriber (subscriber.withUrls urls) := by
  unfold withUrls
  induction urls generalizing subscriber with
  | nil =>
      apply gains_of_known
      simp
  | cons url rest ih =>
      apply ((gains_withUrl url subscriber).trans (ih (subscriber.withUrl url))).congr
      simp

theorem run_connect (pathExists : Text → Bool) (url : Text) (subscriber : Subscriber) :
    (connect (.accepting pathExists) url).run subscriber = .ok ⟨⟩ (subscriber.withUrl url) := by
  unfold connect withUrl
  rw [Action.bind_of_ok (Action.run_get subscriber)]
  split <;> rfl

end Subscriber

namespace SubscriberManager

open NodesInfoManager

/-! ## Addresses -/

theorem tcpUrl_eq (info : SocketInfo) :
    tcpUrl info =
      (Text.ofString "tcp://" ++ info.ip) ++ CodePoint.ofChar ':' :: Text.ofInt info.port := by
  unfold tcpUrl
  rw [List.append_assoc _ (Text.ofString ":") _]
  rfl

/-- TCP addresses tell sockets apart by address and port. -/
theorem tcpUrl_inj {first second : SocketInfo} (same : tcpUrl first = tcpUrl second) :
    first.ip = second.ip ∧ first.port = second.port := by
  have absent : ∀ value : Int, CodePoint.ofChar ':' ∉ Text.ofInt value := by
    intro value member
    rcases Text.mem_ofInt member with digit | sign
    · exact absurd digit (by decide)
    · exact absurd sign (by decide)
  rw [tcpUrl_eq, tcpUrl_eq] at same
  rcases Text.append_separator_inj (absent _) (absent _) same with ⟨hosts, ports⟩
  exact ⟨List.append_cancel_left hosts, Text.ofInt_injective ports⟩

theorem tcpUrl_ne_ipcUrl (info : SocketInfo) (manager : SubscriberManager)
    (topicName : TopicName) : tcpUrl info ≠ manager.ipcUrl topicName := by
  intro same
  have heads := congrArg List.head? same
  rw [tcpUrl_eq] at heads
  exact absurd (Option.some.inj heads) (by decide)

/-- An address is a TCP address or that of a socket file. -/
theorem getConnectUrl_cases (host : Host) (info : SocketInfo) (manager : SubscriberManager) :
    manager.getConnectUrl host info = manager.ipcUrl info.name ∨
      manager.getConnectUrl host info = tcpUrl info := by
  unfold getConnectUrl
  split
  next => exact Or.inl rfl
  next => exact Or.inr rfl

/-- TCP addresses tell publishers of one topic apart. -/
theorem eq_of_tcpUrl_eq {first second : SocketInfo} (names : first.name = second.name)
    (same : tcpUrl first = tcpUrl second) : first = second := by
  rcases tcpUrl_inj same with ⟨ips, ports⟩
  cases first
  cases second
  cases names
  cases ips
  cases ports
  rfl

section ConnectUrl

variable {manager : SubscriberManager} {host : Host} {topicName : TopicName}
  {info first second : SocketInfo}

/-- The socket file is chosen on its host while it exists. -/
theorem getConnectUrl_eq_ipcUrl_iff (named : info.name = topicName) :
    manager.getConnectUrl host info = manager.ipcUrl topicName ↔
      info.ip = manager.localIp ∧ host.pathExists (manager.ipcPath topicName) = true := by
  unfold getConnectUrl
  rw [named]
  split
  next onFile => exact ⟨fun _ => onFile, fun _ => rfl⟩
  next offFile =>
    constructor
    · intro same
      exact absurd same (tcpUrl_ne_ipcUrl _ _ _)
    · intro onFile
      exact absurd onFile offFile

/-- The TCP address of a publisher is chosen for no other one of its topic. -/
theorem eq_of_getConnectUrl_eq_tcpUrl (names : first.name = second.name)
    (same : manager.getConnectUrl host first = tcpUrl second) : first = second := by
  rcases getConnectUrl_cases host first manager with file | tcp
  · exact absurd (same.symm.trans file) (tcpUrl_ne_ipcUrl _ _ _)
  · exact eq_of_tcpUrl_eq names (tcp.symm.trans same)

/-- Two publishers of one topic have the same address only at the socket file. -/
theorem getConnectUrl_eq_iff (firstNamed : first.name = topicName)
    (secondNamed : second.name = topicName) :
    manager.getConnectUrl host first = manager.getConnectUrl host second ↔
      first = second ∨ (first.ip = manager.localIp ∧ second.ip = manager.localIp ∧
        host.pathExists (manager.ipcPath topicName) = true) := by
  constructor
  · intro same
    rcases getConnectUrl_cases host second manager with file | tcp
    · rw [secondNamed] at file
      have firstOnFile := (getConnectUrl_eq_ipcUrl_iff firstNamed).1 (same.trans file)
      have secondOnFile := (getConnectUrl_eq_ipcUrl_iff secondNamed).1 file
      exact Or.inr ⟨firstOnFile.1, secondOnFile.1, secondOnFile.2⟩
    · exact Or.inl (eq_of_getConnectUrl_eq_tcpUrl (firstNamed.trans secondNamed.symm)
        (same.trans tcp))
  · intro either
    rcases either with equal | ⟨firstLocal, secondLocal, socketFile⟩
    · rw [equal]
    · rw [(getConnectUrl_eq_ipcUrl_iff firstNamed).2 ⟨firstLocal, socketFile⟩,
        (getConnectUrl_eq_ipcUrl_iff secondNamed).2 ⟨secondLocal, socketFile⟩]

end ConnectUrl

/-! ## Announcements -/

/-- The addresses at which the announced sockets of a topic are connected. -/
def ConnectUrl (host : Host) (topics : List SocketInfo) (manager : SubscriberManager)
    (topicName : TopicName) (url : Text) : Prop :=
  ∃ topic ∈ topics, topic.name = topicName ∧ url = manager.getConnectUrl host topic

/-- The topics have been announced: each subscriber of a topic has gained exactly the
addresses of the topic's announced sockets. -/
structure Announced (host : Host) (topics : List SocketInfo) (before after : SubscriberManager) :
    Prop where
  detached : after.detached = before.detached
  created : after.created = before.created
  groupName : after.groupName = before.groupName
  localIp : after.localIp = before.localIp
  absent : ∀ topicName, before.subscriberDict.lookup topicName = none →
    after.subscriberDict.lookup topicName = none
  present : ∀ topicName subscriber, before.subscriberDict.lookup topicName = some subscriber →
    ∃ connected, after.subscriberDict.lookup topicName = some connected ∧
      subscriber.Gains (ConnectUrl host topics before topicName) connected

theorem announced_nil (host : Host) (manager : SubscriberManager) :
    Announced host [] manager manager where
  detached := rfl
  created := rfl
  groupName := rfl
  localIp := rfl
  absent := fun _ missing => missing
  present := by
    intro topicName subscriber found
    refine ⟨subscriber, found, Subscriber.gains_of_known ?_⟩
    simp [ConnectUrl]

/-- The addresses depend on nothing that an announcement changes. -/
theorem Announced.getConnectUrl {host : Host} {topics : List SocketInfo}
    {before after : SubscriberManager} (announced : Announced host topics before after)
    (otherHost : Host) (info : SocketInfo) :
    after.getConnectUrl otherHost info = before.getConnectUrl otherHost info := by
  unfold SubscriberManager.getConnectUrl ipcUrl ipcPath
  rw [announced.localIp, announced.groupName]

theorem Announced.rel {host : Host} {topics : List SocketInfo} {before after : SubscriberManager}
    (announced : Announced host topics before after) (topicName : TopicName) :
    Option.Rel (Subscriber.Gains (ConnectUrl host topics before topicName))
      (before.subscriberDict.lookup topicName) (after.subscriberDict.lookup topicName) := by
  cases found : before.subscriberDict.lookup topicName with
  | none =>
      rw [announced.absent topicName found]
      exact .none
  | some subscriber =>
      rcases announced.present topicName subscriber found with ⟨connected, foundAfter, gains⟩
      rw [foundAfter]
      exact .some gains

/-- A subscriber found after an announcement was there before it. -/
theorem Announced.origin {host : Host} {topics : List SocketInfo} {before after : SubscriberManager}
    (announced : Announced host topics before after) {topicName : TopicName}
    {subscriber : Subscriber} (found : after.subscriberDict.lookup topicName = some subscriber) :
    ∃ origin, before.subscriberDict.lookup topicName = some origin ∧
      origin.Gains (ConnectUrl host topics before topicName) subscriber := by
  have related := announced.rel topicName
  rw [found] at related
  generalize before.subscriberDict.lookup topicName = start at related
  cases related with
  | some gains => exact ⟨_, rfl, gains⟩

/-- Announcing two lists one after the other announces both. -/
theorem Announced.append {host : Host} {first second : List SocketInfo}
    {before middle after : SubscriberManager} (left : Announced host first before middle)
    (right : Announced host second middle after) :
    Announced host (first ++ second) before after where
  detached := right.detached.trans left.detached
  created := right.created.trans left.created
  groupName := right.groupName.trans left.groupName
  localIp := right.localIp.trans left.localIp
  absent := by
    intro topicName missing
    exact right.absent topicName (left.absent topicName missing)
  present := by
    intro topicName subscriber found
    rcases left.present topicName subscriber found with ⟨halfway, foundHalfway, early⟩
    rcases right.present topicName halfway foundHalfway with ⟨connected, foundAfter, late⟩
    refine ⟨connected, foundAfter, (early.trans late).congr ?_⟩
    intro url
    simp only [ConnectUrl, left.getConnectUrl, List.mem_append, or_and_right, exists_or]

/-- Announcing a list twice announces it. -/
theorem Announced.twice {host : Host} {topics : List SocketInfo}
    {before middle after : SubscriberManager} (left : Announced host topics before middle)
    (right : Announced host topics middle after) : Announced host topics before after where
  detached := (left.append right).detached
  created := (left.append right).created
  groupName := (left.append right).groupName
  localIp := (left.append right).localIp
  absent := (left.append right).absent
  present := by
    intro topicName subscriber found
    rcases (left.append right).present topicName subscriber found with
      ⟨connected, foundAfter, gains⟩
    refine ⟨connected, foundAfter, gains.congr ?_⟩
    intro url
    simp only [ConnectUrl, List.mem_append, or_self]

/-- A manager whose subscriber of a topic is connected to one more address. -/
def withTopicUrl (topicName : TopicName) (url : Text) (subscriber : Subscriber)
    (manager : SubscriberManager) : SubscriberManager :=
  { manager with
    subscriberDict := Dict.set manager.subscriberDict topicName (subscriber.withUrl url) }

theorem announced_withTopicUrl (host : Host) {topic : SocketInfo} {manager : SubscriberManager}
    {subscriber : Subscriber} (found : manager.subscriberDict.lookup topic.name = some subscriber) :
    Announced host [topic] manager
      (manager.withTopicUrl topic.name (manager.getConnectUrl host topic) subscriber) where
  detached := rfl
  created := rfl
  groupName := rfl
  localIp := rfl
  absent := by
    intro topicName missing
    have different : topicName ≠ topic.name := by
      intro same
      rw [same, found] at missing
      cases missing
    rw [withTopicUrl, Dict.lookup_set_ne _ _ different]
    exact missing
  present := by
    intro topicName known foundKnown
    by_cases same : topicName = topic.name
    · cases same
      cases found.symm.trans foundKnown
      refine ⟨_, Dict.lookup_set_self _ _ _, (Subscriber.gains_withUrl _ _).congr ?_⟩
      simp [ConnectUrl]
    · refine ⟨known, ?_, Subscriber.gains_of_known ?_⟩
      · rw [withTopicUrl, Dict.lookup_set_ne _ _ same]
        exact foundKnown
      · simp [ConnectUrl, Ne.symm same]

/-- A topic without a subscriber needs no announcement. -/
theorem announced_absent (host : Host) {topic : SocketInfo} {manager : SubscriberManager}
    (missing : manager.subscriberDict.lookup topic.name = none) :
    Announced host [topic] manager manager where
  detached := rfl
  created := rfl
  groupName := rfl
  localIp := rfl
  absent := fun _ absent => absent
  present := by
    intro topicName subscriber known
    have different : topic.name ≠ topicName := by
      intro same
      rw [← same, missing] at known
      cases known
    refine ⟨subscriber, known, Subscriber.gains_of_known ?_⟩
    simp [ConnectUrl, different]

/-- The body of the loop of `check_new_node` announces its topic. -/
theorem run_checkTopic (pathExists : Text → Bool) (topic : SocketInfo)
    (manager : SubscriberManager) :
    ∃ next, (checkTopic (.accepting pathExists) topic).run manager = .ok ⟨⟩ next ∧
      Announced (.accepting pathExists) [topic] manager next := by
  cases found : manager.subscriberDict.lookup topic.name with
  | none =>
      refine ⟨manager, ?_, announced_absent _ found⟩
      unfold checkTopic onSubscriber
      rw [Action.bind_of_ok (Action.run_get manager), Action.bind_of_ok (Action.run_get manager),
        found]
      rfl
  | some subscriber =>
      refine ⟨_, ?_, announced_withTopicUrl _ found⟩
      unfold checkTopic onSubscriber
      rw [Action.bind_of_ok (Action.run_get manager), Action.bind_of_ok (Action.run_get manager),
        found]
      apply Action.run_zoom_of_ok
      rw [Action.bind_of_ok (Action.run_get subscriber)]
      split
      next => exact Subscriber.run_connect pathExists _ subscriber
      next known =>
        rw [Subscriber.withUrl, if_pos (Classical.not_not.1 known)]
        rfl

theorem run_checkNewNode (pathExists : Text → Bool) (info : NodeInfo)
    (manager : SubscriberManager) :
    ∃ next, (checkNewNode (.accepting pathExists) info).run manager = .ok ⟨⟩ next ∧
      Announced (.accepting pathExists) info.topics manager next := by
  unfold checkNewNode
  generalize info.topics = topics
  induction topics generalizing manager with
  | nil => exact ⟨manager, rfl, announced_nil _ manager⟩
  | cons topic rest ih =>
      rcases run_checkTopic pathExists topic manager with ⟨middle, ran, first⟩
      rcases ih middle with ⟨next, ranRest, later⟩
      refine ⟨next, ?_, first.append later⟩
      rw [List.forM_cons, Action.bind_of_ok ran]
      exact ranRest

/-! ## Emissions -/

/-- The only handler of the registry is `check_new_node` under `"*"`. -/
def Wired (manager : NodesInfoManager UpdateHandler) : Prop :=
  manager.nodeUpdateEventDict = Dict.set ∅ (Text.ofString "*") ⟨[UpdateHandler.checkNewNode]⟩

theorem wired_init (localName localIp nodeID groupName : Text) :
    Wired (init localName localIp nodeID groupName).1 := rfl

theorem mem_of_wired {manager : NodesInfoManager UpdateHandler} (wired : Wired manager)
    (name : Text) : name ∈ manager.nodeUpdateEventDict ↔ name = Text.ofString "*" := by
  rw [show manager.nodeUpdateEventDict = _ from wired, Dict.mem_set]
  simp [AList.notMem_empty]

theorem wired_recordUpdate {manager : NodesInfoManager UpdateHandler} (wired : Wired manager)
    (now : ℚ) (info : NodeInfo) : Wired (recordUpdate now info manager) := by
  unfold Wired recordUpdate
  split <;> exact wired

theorem run_emitUpdate (pathExists : Text → Bool) (info : NodeInfo) (node : Node)
    (wired : Wired node.1) :
    ∃ subscribers, (emitUpdate (call (.accepting pathExists)) "*" info).run node =
        .ok ⟨⟩ (node.1, subscribers) ∧
      Announced (.accepting pathExists) info.topics node.2 subscribers := by
  rcases run_checkNewNode pathExists info node.2 with ⟨next, ran, announced⟩
  refine ⟨next, ?_, announced⟩
  have called : (call (.accepting pathExists) .checkNewNode info).run
      (node.1.nodeUpdateEventDict, node.2) = .ok ⟨⟩ (node.1.nodeUpdateEventDict, next) :=
    Action.run_zoom_of_ok ran
  have handled : (onHandlers (call (.accepting pathExists) .checkNewNode info)).run node =
      .ok ⟨⟩ (node.1, next) := by
    rw [onHandlers, Action.run_zoom, called]
  have entry : node.1.nodeUpdateEventDict.lookup (Text.ofString "*") =
      some ⟨[UpdateHandler.checkNewNode]⟩ := by
    rw [show node.1.nodeUpdateEventDict = _ from wired, Dict.lookup_set_self]
  unfold emitUpdate
  rw [Action.bind_of_ok (Action.run_get node), entry]
  simp only [Event.emit]
  rw [List.forM_cons, Action.bind_of_ok handled]
  rfl

/-! ## Operations -/

/-- `update_node` stores, then announces the sockets with the node's address. -/
theorem after_updateNode_announced (pathExists : Text → Bool) (now : ℚ) (info : NodeInfo)
    {node : Node} (wired : Wired node.1) :
    ∃ subscribers, (updateNode (call (.accepting pathExists)) now info).after node =
        (recordUpdate now info node.1, subscribers) ∧
      Announced (.accepting pathExists) info.bindSockets.topics node.2 subscribers := by
  have stillWired := wired_recordUpdate wired now info
  have emit := fun subscribers : SubscriberManager =>
    run_emitUpdate pathExists info.bindSockets (recordUpdate now info node.1, subscribers)
      stillWired
  rcases emit node.2 with ⟨first, ran, announced⟩
  unfold updateNode
  rw [Action.after_bind_of_ok (run_onManager_modify _ node), Action.after_bind_of_ok ran,
    Action.after_bind_of_ok (Action.run_get _)]
  by_cases starred : info.name = Text.ofString "*"
  · -- a node of this name is announced a second time, under its name
    rcases emit first with ⟨second, ranAgain, announcedAgain⟩
    refine ⟨second, ?_, announced.twice announcedAgain⟩
    rw [if_pos ((mem_of_wired stillWired info.name).2 starred), starred]
    exact Action.after_of_ok ranAgain
  · refine ⟨first, ?_, announced⟩
    rw [if_neg (mt (mem_of_wired stillWired info.name).1 starred)]
    rfl

/-- `register_local_publisher` announces every local topic. -/
theorem after_registerLocalPublisher_announced (pathExists : Text → Bool) (topicName : Text)
    (port : Int) {node : Node} (wired : Wired node.1) :
    ∃ subscribers, (registerLocalPublisher (call (.accepting pathExists)) topicName port).after
        node = (bumpInfoId (appendLocalTopic topicName port node.1), subscribers) ∧
      Announced (.accepting pathExists)
        (bumpInfoId (appendLocalTopic topicName port node.1)).localNodeInfo.topics
        node.2 subscribers := by
  have stillWired : Wired (bumpInfoId (appendLocalTopic topicName port node.1)) := wired
  rcases run_emitUpdate pathExists
      (bumpInfoId (appendLocalTopic topicName port node.1)).localNodeInfo
      (bumpInfoId (appendLocalTopic topicName port node.1), node.2) stillWired with
    ⟨subscribers, ran, announced⟩
  refine ⟨subscribers, ?_, announced⟩
  unfold registerLocalPublisher
  rw [Action.after_bind_of_ok (run_onManager_modify _ node),
    Action.after_bind_of_ok (run_onManager_modify _ _),
    Action.after_bind_of_ok (Action.run_get _)]
  exact Action.after_of_ok ran

/-- The subscriber `add_subscriber` enters. -/
def subscribed (pathExists : Text → Bool) (topicName : TopicName) (node : Node) : Subscriber :=
  (Subscriber.create node.2.created topicName).withUrls
    ((node.1.getPublisherInfo topicName).map fun info =>
      node.2.getConnectUrl (.accepting pathExists) info)

theorem run_connectAll (pathExists : Text → Bool) (infos : List SocketInfo)
    (manager : SubscriberManager) (subscriber : Subscriber) :
    (connectAll (.accepting pathExists) infos manager).run subscriber =
      .ok ⟨⟩ (subscriber.withUrls
        (infos.map fun info => manager.getConnectUrl (.accepting pathExists) info)) := by
  unfold connectAll Subscriber.withUrls
  induction infos generalizing subscriber with
  | nil => rfl
  | cons info rest ih =>
      rw [List.forM_cons, Action.bind_of_ok (Subscriber.run_connect _ _ _)]
      exact ih _

theorem after_addSubscriber (pathExists : Text → Bool) (topicName : TopicName) (node : Node) :
    (addSubscriber (.accepting pathExists) topicName).after node =
      (node.1, node.2.insert (subscribed pathExists topicName node)) := by
  unfold addSubscriber
  rw [Action.after_bind_of_ok (Action.run_get node), run_connectAll]
  rfl

end SubscriberManager

end Pyzlc
