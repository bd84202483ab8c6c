import Pyzlc.Foundation.Path
import Pyzlc.Sockets.Subscriptions

/-!
# Rendezvous over the file system

A publisher binds a socket file below a directory of its group and topic, and a subscriber
manager on the same host goes to the file it expects there.  Both paths are put together from
the names as they are, so slashes and dots in a name act as path syntax: two pairs of names
meet in one file exactly if their components lead to the same directory.
-/

namespace Pyzlc

open Foundation

namespace Publisher

/-- `ipc_dir`. -/
def ipcDir (groupName topicName : Text) : Text :=
  "/tmp/zlc/" ++ groupName ++ "/" ++ topicName

/-- The path of the socket file the constructor binds. -/
def socketPath (groupName topicName : Text) : Text := ipcDir groupName topicName ++ "/topic.sock"

end Publisher

/-- Where the names of a group and of a topic lead from the directory of all groups. -/
def topicDirectory (groupName topicName : Text) : Path.Location :=
  Path.walk ["tmp", "zlc"] (Path.components groupName ++ Path.components topicName)

/-- The address is the one of a socket file. -/
def LeadsTo (url : Text) (file : Path.Location) : Prop :=
  ∃ path : Text, url = "ipc://" ++ path ∧ Path.resolve path = file

/-! ## The two paths -/

theorem resolve_ipcDir (groupName topicName : Text) :
    Path.resolve (Publisher.ipcDir groupName topicName) = topicDirectory groupName topicName := by
  have below : Publisher.ipcDir groupName topicName =
      ("/tmp/zlc" ++ Path.slash :: groupName) ++ Path.slash :: topicName := by
    rw [Publisher.ipcDir, show ("/tmp/zlc/" : Text) = "/tmp/zlc" ++ [Path.slash] by decide,
      show ("/" : Text) = [Path.slash] by decide]
    simp only [List.append_assoc, List.singleton_append]
  have base : Path.resolve "/tmp/zlc" = ["tmp", "zlc"] := by decide
  rw [below, Path.resolve_append_slash, Path.resolve_append_slash, base, ← Path.walk_append]
  rfl

theorem isEntry_topicSock : Path.IsEntry "topic.sock" := by
  constructor
  · decide
  · decide
  · decide
  · decide

theorem socketPath_eq (groupName topicName : Text) : Publisher.socketPath groupName topicName =
    Publisher.ipcDir groupName topicName ++ Path.slash :: ("topic.sock" : Text) := by
  have slashed : ("/topic.sock" : Text) = Path.slash :: ("topic.sock" : Text) := by decide
  rw [Publisher.socketPath, slashed]

/-- Two publishers bind the same file exactly if their names lead to the same directory. -/
theorem resolve_socketPath_eq_iff (groupName topicName otherGroup otherTopic : Text) :
    Path.resolve (Publisher.socketPath groupName topicName) =
        Path.resolve (Publisher.socketPath otherGroup otherTopic) ↔
      topicDirectory groupName topicName = topicDirectory otherGroup otherTopic := by
  rw [socketPath_eq, socketPath_eq, isEntry_topicSock.resolve_append_inj, resolve_ipcDir,
    resolve_ipcDir]

namespace SubscriberManager

/-- The manager writes the path like a publisher of its group. -/
theorem ipcPath_eq_socketPath (manager : SubscriberManager) (topicName : TopicName) :
    manager.ipcPath topicName = Publisher.socketPath manager.groupName topicName := rfl

theorem tcpUrl_not_leadsTo (info : SocketInfo) (file : Path.Location) :
    ¬ LeadsTo (tcpUrl info) file := by
  intro leads
  rcases leads with ⟨path, same, _⟩
  have heads := congrArg List.head? same
  exact absurd (Option.some.inj heads) (by decide)

theorem ipcUrl_leadsTo_iff {manager : SubscriberManager} {topicName : TopicName}
    {file : Path.Location} :
    LeadsTo (manager.ipcUrl topicName) file ↔
      Path.resolve (Publisher.socketPath manager.groupName topicName) = file := by
  constructor
  · intro leads
    rcases leads with ⟨path, same, resolved⟩
    rw [← List.append_cancel_left same, ipcPath_eq_socketPath] at resolved
    exact resolved
  · intro resolved
    exact ⟨manager.ipcPath topicName, rfl, resolved⟩

/-! ## What a subscriber is connected to -/

theorem groupName_of_reachable {localName localIp nodeID groupName : Text} {node : Node}
    (reachable : (machine localName localIp nodeID groupName).Reachable node) :
    node.2.groupName = groupName := by
  apply reachable.invariant
  · rfl
  · intro before event after reached same stepped
    exact (nodeStep_of_machine reached stepped).groupName.trans same

/-- The subscribers of the dictionary hold TCP addresses and the file of their own topic. -/
def OwnFile (node : Node) : Prop :=
  ∀ topicName subscriber, node.2.subscriberDict.lookup topicName = some subscriber →
    ∀ url ∈ subscriber.subUrls, (∃ info, url = tcpUrl info) ∨ url = node.2.ipcUrl topicName

theorem ownFile_step {node next : Node} {event : SubscriptionEvent}
    (stepped : NodeStep node event next) (own : OwnFile node) : OwnFile next := by
  intro topicName subscriber found url held
  have sameFile : next.2.ipcUrl topicName = node.2.ipcUrl topicName := by
    rw [ipcUrl, ipcUrl, ipcPath, ipcPath, stepped.groupName]
  rw [sameFile]
  rcases stepped.origin found with ⟨origin, starting, gains⟩
  rcases (gains.urls url).1 held with ⟨info, _, named, rfl⟩ | before
  · rcases getConnectUrl_cases (.accepting event.pathExists) info node.2 with file | tcp
    · rw [file, named]
      exact Or.inr rfl
    · exact Or.inl ⟨info, tcp⟩
  · cases event with
    | addSubscriber added pathExists =>
        simp only [startingFrom] at starting
        split at starting
        next =>
          cases starting
          cases before
        next => exact own topicName origin starting url before
    | registerLocalPublisher | updateNode | removeNode =>
        exact own topicName origin starting url before

theorem ownFile_of_reachable {localName localIp nodeID groupName : Text} {node : Node}
    (reachable : (machine localName localIp nodeID groupName).Reachable node) : OwnFile node := by
  apply reachable.invariant
  · intro topicName subscriber found
    cases found
  · intro before event after reached own stepped
    exact ownFile_step (nodeStep_of_machine reached stepped) own

/-! ## Isolation -/

/-- A manager of one group meets a publisher of a topic at the socket file of another
publisher only if these are the same group and topic: by the address it selects, and by the
addresses its subscriber of the topic is ever connected to. -/
structure IsolatedRendezvous (groupName topicName otherGroup otherTopic : Text) : Prop where
  selects : ∀ (host : Host) (manager : SubscriberManager) (info : SocketInfo),
    manager.groupName = otherGroup → info.name = otherTopic → info.ip = manager.localIp →
    host.pathExists (manager.ipcPath info.name) = true →
    (LeadsTo (manager.getConnectUrl host info)
        (Path.resolve (Publisher.socketPath groupName topicName)) ↔
      groupName = otherGroup ∧ topicName = otherTopic)
  connects : ∀ (localName localIp nodeID : Text) (node : Node),
    (machine localName localIp nodeID otherGroup).Reachable node →
    ∀ subscriber, node.2.subscriberDict.lookup otherTopic = some subscriber →
    ∀ url ∈ subscriber.subUrls,
      LeadsTo url (Path.resolve (Publisher.socketPath groupName topicName)) →
      groupName = otherGroup ∧ topicName = otherTopic

/-- The address of a local publisher leads to the file of the publisher whose names lead to
the same directory. -/
theorem leadsTo_getConnectUrl_iff {host : Host} {manager : SubscriberManager} {info : SocketInfo}
    (onHost : info.ip = manager.localIp)
    (there : host.pathExists (manager.ipcPath info.name) = true) (groupName topicName : Text) :
    LeadsTo (manager.getConnectUrl host info)
        (Path.resolve (Publisher.socketPath groupName topicName)) ↔
      topicDirectory manager.groupName info.name = topicDirectory groupName topicName := by
  rw [getConnectUrl, if_pos ⟨onHost, there⟩, ipcUrl_leadsTo_iff, resolve_socketPath_eq_iff]

/-- Names that only meet in a directory if they are the same never share a file. -/
theorem IsolatedRendezvous.of_directory {groupName topicName otherGroup otherTopic : Text}
    (told : topicDirectory groupName topicName = topicDirectory otherGroup otherTopic →
      groupName = otherGroup ∧ topicName = otherTopic) :
    IsolatedRendezvous groupName topicName otherGroup otherTopic where
  selects := by
    intro host manager info ofGroup named onHost there
    rw [leadsTo_getConnectUrl_iff onHost there, ofGroup, named]
    constructor
    · intro same
      exact told same.symm
    · intro same
      rw [same.1, same.2]
  connects := by
    intro localName localIp nodeID node reachable subscriber found url held leads
    rcases ownFile_of_reachable reachable otherTopic subscriber found url held with
      ⟨info, rfl⟩ | rfl
    · exact absurd leads (tcpUrl_not_leadsTo info _)
    · rw [ipcUrl_leadsTo_iff, groupName_of_reachable reachable, resolve_socketPath_eq_iff] at leads
      exact told leads.symm

/-- A manager that selects the file of a publisher shows that their names meet. -/
theorem IsolatedRendezvous.directory {groupName topicName otherGroup otherTopic : Text}
    (isolated : IsolatedRendezvous groupName topicName otherGroup otherTopic)
    (meet : topicDirectory groupName topicName = topicDirectory otherGroup otherTopic) :
    groupName = otherGroup ∧ topicName = otherTopic := by
  have onHost := isolated.selects (.accepting fun _ => true)
    { subscriberDict := ∅, detached := [], created := 0, groupName := otherGroup, localIp := [] }
    { name := otherTopic, ip := [], port := 0 } rfl rfl rfl rfl
  rw [leadsTo_getConnectUrl_iff rfl rfl] at onHost
  exact onHost.1 meet.symm

/-- The socket file of a publisher is the one a manager selects for another publisher exactly
if they have the same names, provided that different names lead to different directories. -/
theorem isolatedRendezvous_iff (groupName topicName otherGroup otherTopic : Text) :
    IsolatedRendezvous groupName topicName otherGroup otherTopic ↔
      (topicDirectory groupName topicName = topicDirectory otherGroup otherTopic →
        groupName = otherGroup ∧ topicName = otherTopic) := by
  constructor
  · exact IsolatedRendezvous.directory
  · exact IsolatedRendezvous.of_directory

/-! ## Names that are entries -/

theorem topicDirectory_of_isEntry {groupName topicName : Text} (group : Path.IsEntry groupName)
    (topic : Path.IsEntry topicName) :
    topicDirectory groupName topicName = (["tmp", "zlc"] : Path.Location) ++
      [groupName, topicName] := by
  rw [topicDirectory, group.components_eq, topic.components_eq]
  show Path.walk _ [groupName, topicName] = _
  rw [Path.walk_cons, Path.walk_cons, Path.walk_nil, group.enter_eq, topic.enter_eq]
  rfl

/-- Names without path syntax are isolated from each other. -/
theorem isolatedRendezvous_of_isEntry {groupName topicName otherGroup otherTopic : Text}
    (group : Path.IsEntry groupName) (topic : Path.IsEntry topicName)
    (other : Path.IsEntry otherGroup) (others : Path.IsEntry otherTopic) :
    IsolatedRendezvous groupName topicName otherGroup otherTopic := by
  apply IsolatedRendezvous.of_directory
  intro meet
  rw [topicDirectory_of_isEntry group topic, topicDirectory_of_isEntry other others] at meet
  have names := List.append_cancel_left meet
  exact ⟨(List.cons.inj names).1, (List.cons.inj (List.cons.inj names).2).1⟩

/-- A leading slash is lost, and a slash may stand in the group or in the topic. -/
theorem slashes_meet :
    ¬ IsolatedRendezvous "lab" "chatter" "lab" "/chatter" ∧
      ¬ IsolatedRendezvous "lab" "arm/joints" "lab/arm" "joints" := by
  constructor
  · intro isolated
    exact absurd (isolated.directory (by decide)) (by decide)
  · intro isolated
    exact absurd (isolated.directory (by decide)) (by decide)

end SubscriberManager

end Pyzlc
