import Pyzlc.Foundation.Machine
import Pyzlc.Nodes.NodesInfoManager

/-!
# Subscribers and their manager

`SubscriberManager` keeps one subscriber for each topic name and connects it to the
publishers it learns about: to the known ones when the subscriber is added, to later
ones when the registry announces a node.  What the host answers, whether a socket file
exists and whether a socket accepts an address, is a parameter.
-/

namespace Pyzlc

open Foundation

/-- The answers of the operating system during one step. -/
structure Host where
  pathExists : Text → Bool
  refuses : Text → Option PyError

/-- A host whose sockets accept every address. -/
def Host.accepting (pathExists : Text → Bool) : Host where
  pathExists := pathExists
  refuses := fun _ => none

/-- The task of `receive_loop`. -/
inductive ReceiveLoop where
  | notStarted
  | active
  | done
  deriving DecidableEq, Repr

/-- A subscriber.  `serial` is its identity: how many subscribers were created before it. -/
structure Subscriber where
  serial : Nat
  name : TopicName
  running : Bool
  connected : Bool
  subUrls : List Text
  receiveLoop : ReceiveLoop
  socketOpen : Bool
  deriving DecidableEq, Repr

namespace Subscriber

def create (serial : Nat) (topicName : TopicName) : Subscriber where
  serial := serial
  name := topicName
  running := true
  connected := false
  subUrls := []
  receiveLoop := .notStarted
  socketOpen := true

/-- Connect to a publisher's socket. -/
def connect (host : Host) (url : Text) : Action PyError Subscriber Unit := do
  let subscriber ← get
  if url ∈ subscriber.subUrls then
    pure ()
  else
    match host.refuses url with
    | some error => throw error
    | none =>
        set { subscriber with
          connected := true
          subUrls := subscriber.subUrls ++ [url]
          receiveLoop := .active }

/-- Close the subscriber socket. -/
def close (subscriber : Subscriber) : Subscriber :=
  { subscriber with
    running := false
    receiveLoop := match subscriber.receiveLoop with
      | .notStarted => .notStarted
      | _ => .done
    socketOpen := false }

end Subscriber

/-- The manager.  `detached` holds the subscribers that exist outside the dictionary, where
no operation of the manager reaches them: their entry was overwritten, or never made. -/
structure SubscriberManager where
  subscriberDict : Dict TopicName Subscriber
  detached : List Subscriber
  created : Nat
  groupName : Text
  localIp : Text

/-- The handlers of node updates a node registers itself. -/
inductive UpdateHandler where
  | checkNewNode
  deriving DecidableEq, Repr

namespace SubscriberManager

open NodesInfoManager

/-- The address of a socket over TCP. -/
def tcpUrl (info : SocketInfo) : Text := "tcp://" ++ info.ip ++ ":" ++ Text.ofInt info.port

/-- `ipc_path`. -/
def ipcPath (manager : SubscriberManager) (topicName : TopicName) : Text :=
  "/tmp/zlc/" ++ manager.groupName ++ "/" ++ topicName ++ "/topic.sock"

def ipcUrl (manager : SubscriberManager) (topicName : TopicName) : Text :=
  "ipc://" ++ manager.ipcPath topicName

/-- Determine the connection URL for a publisher info entry. -/
def getConnectUrl (host : Host) (info : SocketInfo) (manager : SubscriberManager) : Text :=
  if info.ip = manager.localIp ∧ host.pathExists (manager.ipcPath info.name) = true then
    manager.ipcUrl info.name
  else tcpUrl info

/-- Run an action of the subscriber of a topic, if there is one. -/
def onSubscriber (topicName : TopicName) (action : Action PyError Subscriber Unit) :
    Action PyError SubscriberManager Unit := do
  let manager ← get
  match manager.subscriberDict.lookup topicName with
  | none => pure ()
  | some subscriber =>
      Action.zoom (fun _ => subscriber) (fun subscriber manager =>
        { manager with subscriberDict := Dict.set manager.subscriberDict topicName subscriber })
        action

/-- The body of the loop of `check_new_node`. -/
def checkTopic (host : Host) (topic : SocketInfo) : Action PyError SubscriberManager Unit := do
  let manager ← get
  let url := manager.getConnectUrl host topic
  onSubscriber topic.name (do
    let subscriber ← get
    if url ∉ subscriber.subUrls then Subscriber.connect host url)

/-- Check if a new node has published the subscribed topic and connect to it. -/
def checkNewNode (host : Host) (info : NodeInfo) : Action PyError SubscriberManager Unit :=
  forM info.topics fun topic => checkTopic host topic

/-- `self.subscriber_dict[topic_name] = subscriber`. -/
def insert (subscriber : Subscriber) (manager : SubscriberManager) : SubscriberManager :=
  { manager with
    subscriberDict := Dict.set manager.subscriberDict subscriber.name subscriber
    detached := manager.detached ++ (manager.subscriberDict.lookup subscriber.name).toList
    created := manager.created + 1 }

/-- A subscriber whose `add_subscriber` raised: it exists, but was never entered. -/
def abandon (subscriber : Subscriber) (manager : SubscriberManager) : SubscriberManager :=
  { manager with
    detached := manager.detached ++ [subscriber]
    created := manager.created + 1 }

/-- Close every subscriber of the dictionary. -/
def closeAll (manager : SubscriberManager) : SubscriberManager :=
  { manager with subscriberDict := Dict.mapValues Subscriber.close manager.subscriberDict }

/-! ## With the registry -/

/-- A node's registry and its subscribers. -/
abbrev Node := World UpdateHandler SubscriberManager

/-- `check_new_node` is the only handler. -/
def call (host : Host) : Call UpdateHandler SubscriberManager
  | .checkNewNode, info =>
      Action.zoom Prod.snd (fun subscribers part => (part.1, subscribers))
        (checkNewNode host info)

/-- Right after the construction of the registry and of the manager on it. -/
def init (localName localIp nodeID groupName : Text) : Node :=
  (registerNodeUpdateHandler "*" .checkNewNode (NodesInfoManager.init localName localIp nodeID),
    { subscriberDict := ∅, detached := [], created := 0,
      groupName := groupName, localIp := localIp })

/-- The loop of `add_subscriber` over the known publishers. -/
def connectAll (host : Host) (infos : List SocketInfo) (manager : SubscriberManager) :
    Action PyError Subscriber Unit :=
  forM infos fun info => Subscriber.connect host (manager.getConnectUrl host info)

/-- Add a new subscriber: connect it to the known publishers, then enter it. -/
def addSubscriber (host : Host) (topicName : TopicName) : Action PyError Node Unit := do
  let node ← get
  match (connectAll host (node.1.getPublisherInfo topicName) node.2).run
      (Subscriber.create node.2.created topicName) with
  | .ok _ subscriber => set (node.1, node.2.insert subscriber)
  | .error error subscriber =>
      set (node.1, node.2.abandon subscriber)
      throw error

/-- Shutdown all subscriber sockets. -/
def stop (node : Node) : Node :=
  (unregisterNodeUpdateHandler "*" .checkNewNode node.1, node.2.closeAll)

end SubscriberManager

end Pyzlc
