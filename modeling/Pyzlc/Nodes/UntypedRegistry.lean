import Pyzlc.Nodes.Discovery
import Pyzlc.Utils.PyObject

/-!
# The registry over replies of any type

A fetch returns whatever the other node has packed: `handle_heartbeat_async` casts it and
`update_node` goes through it field by field.  This is the registry with the objects as they
are, so every access that can raise does so where the source makes it.
-/

namespace Pyzlc

open Foundation

namespace PyObject

variable {φ : Type}

/-! ## Sockets of a description -/

/-- The items of a loop that each get an address, until one of them cannot.  They are the
objects themselves, so what was written before the failure stays. -/
def bindAddresses (ip : Except PyError (PyObject φ)) :
    List (PyObject φ) → List (PyObject φ) × Option PyError
  | [] => ([], none)
  | item :: rest =>
      match (do item.setItem "ip" (← ip)) with
      | .error error => (item :: rest, some error)
      | .ok bound => (bound :: (bindAddresses ip rest).1, (bindAddresses ip rest).2)

/-- `for socket in node_info[field]: socket["ip"] = node_info["ip"]`: the description
afterwards and the exception that ended the loop.  Only a list holds objects that can be
written to. -/
def bindField (field : Text) (nodeInfo : PyObject φ) : PyObject φ × Option PyError :=
  match nodeInfo with
  | .dict entries =>
      match Entries.find (· = PyKey.str field) entries with
      | none => (nodeInfo, some (.keyError field))
      | some (.list items) =>
          let bound := bindAddresses (nodeInfo.item "ip") items
          (.dict (Entries.put (· = PyKey.str field) (.str field) (.list bound.1) entries), bound.2)
      | some sockets =>
          match sockets.iterate with
          | .error error => (nodeInfo, some error)
          | .ok items => (nodeInfo, (bindAddresses (nodeInfo.item "ip") items).2)
  | _ => (nodeInfo, some .typeError)

/-- The two loops of `update_node`. -/
def bindSockets (nodeInfo : PyObject φ) : PyObject φ × Option PyError :=
  match nodeInfo.bindField "services" with
  | (bound, none) => bound.bindField "topics"
  | (bound, some error) => (bound, some error)

/-- The items whose name is the one looked for. -/
def namedItems (name : Text) : List (PyObject φ) → Except PyError (List (PyObject φ))
  | [] => .ok []
  | item :: rest => do
      let found ← item.item "name"
      let others ← namedItems name rest
      return if found.isText name then item :: others else others

/-- The first item whose name is the one looked for. -/
def findNamed (name : Text) : List (PyObject φ) → Except PyError (Option (PyObject φ))
  | [] => .ok none
  | item :: rest => do
      let found ← item.item "name"
      if found.isText name then return some item else findNamed name rest

/-- `node_info[field]` as a loop goes through it. -/
def sockets (field : Text) (nodeInfo : PyObject φ) : Except PyError (List (PyObject φ)) := do
  (← nodeInfo.item field).iterate

def ofSocketInfo (info : SocketInfo) : PyObject φ :=
  .dict [(.str "name", .str info.name), (.str "ip", .str info.ip), (.str "port", .int info.port)]

/-- A description as the dictionary it is. -/
def ofNodeInfo (info : NodeInfo) : PyObject φ :=
  .dict [(.str "name", .str info.name), (.str "nodeID", .str info.nodeID),
    (.str "infoID", .int info.infoID), (.str "ip", .str info.ip),
    (.str "topics", .list (info.topics.map ofSocketInfo)),
    (.str "services", .list (info.services.map ofSocketInfo))]

/-- `KeyError` for a key of any type. -/
def missing : PyObject φ → PyError
  | .str key => .keyError key
  | _ => .exception "KeyError"

end PyObject

namespace Untyped

open PyObject

/-- `NodesInfoManager` with descriptions, versions and keys of any type. -/
structure NodesInfoManager (η φ : Type) where
  running : Bool
  nodesInfo : List (PyObject φ × PyObject φ)
  nodesInfoId : List (PyObject φ × PyObject φ)
  nodesHeartbeat : List (PyObject φ × ℚ)
  unreplyedHeartbeats : Finset HashIdentifier
  localNodeInfo : NodeInfo
  nodeUpdateEventDict : Dict Text (Event η)

/-- How `await send_request` for a node description ends. -/
inductive FetchResult (φ : Type) where
  | value (result : PyObject φ)
  | raised

namespace NodesInfoManager

variable {η ω φ : Type}

def init (localName localIp nodeID : Text) : NodesInfoManager η φ where
  running := true
  nodesInfo := []
  nodesInfoId := []
  nodesHeartbeat := []
  unreplyedHeartbeats := ∅
  localNodeInfo := {
    nodeID := nodeID, infoID := 0, name := localName, ip := localIp, topics := [], services := [] }
  nodeUpdateEventDict := Dict.set ∅ "*" Event.empty

/-! ## Queries -/

/-- The publishers of a topic in the stored descriptions. -/
def remotePublishers (topicName : TopicName) :
    List (PyObject φ × PyObject φ) → Except PyError (List (PyObject φ))
  | [] => .ok []
  | entry :: rest => do
      let found ← namedItems topicName (← entry.2.sockets "topics")
      let others ← remotePublishers topicName rest
      return found ++ others

/-- Get a list of publisher socket information for a given topic name. -/
def getPublisherInfo (manager : NodesInfoManager η φ) (topicName : TopicName) :
    Except PyError (List (PyObject φ)) := do
  let remote ← remotePublishers topicName manager.nodesInfo
  return remote ++ (manager.localNodeInfo.topics.filter (·.name = topicName)).map ofSocketInfo

/-- The first service of a name in the stored descriptions. -/
def remoteService (serviceName : Text) :
    List (PyObject φ × PyObject φ) → Except PyError (Option (PyObject φ))
  | [] => .ok none
  | entry :: rest => do
      match ← findNamed serviceName (← entry.2.sockets "services") with
      | some service => return some service
      | none => remoteService serviceName rest

/-- Get the service socket information for a given service name. -/
def getServiceInfo (manager : NodesInfoManager η φ) (serviceName : Text) :
    Except PyError (Option (PyObject φ)) := do
  match ← remoteService serviceName manager.nodesInfo with
  | some service => return some service
  | none =>
      return (manager.localNodeInfo.services.find? (·.name = serviceName)).map ofSocketInfo

/-- Check if a node with the given name exists. -/
def checkNodeByName (manager : NodesInfoManager η φ) (nodeName : Text) :
    Except PyError (Option (PyObject φ)) :=
  findNamed nodeName (manager.nodesInfo.map Prod.snd)

def checkLocalService (manager : NodesInfoManager η φ) (serviceName : Text) : Bool :=
  manager.localNodeInfo.services.any fun service => service.name = serviceName

variable (equality : PyEquality φ)

/-- Check if a node with the given ID exists. -/
def checkNode (manager : NodesInfoManager η φ) (nodeId : PyObject φ) : Bool :=
  (Entries.find (equality.sameKey nodeId) manager.nodesInfo).isSome

/-- Check if the info ID for a given node matches the provided info ID. -/
def checkInfo (manager : NodesInfoManager η φ) (nodeId infoId : PyObject φ) : Bool :=
  equality.equal
    ((Entries.find (equality.sameKey nodeId) manager.nodesInfoId).getD (.int (-1))) infoId

/-! ## Updates -/

abbrev World (η ω φ : Type) := NodesInfoManager η φ × ω

abbrev Call (η ω φ : Type) := η → PyObject φ → Action PyError (Dict Text (Event η) × ω) Unit

def onManager (action : Action PyError (NodesInfoManager η φ) Unit) :
    Action PyError (World η ω φ) Unit :=
  Action.zoom Prod.fst (fun manager world => (manager, world.2)) action

/-- Run what the handlers do: they see the events and the outside world. -/
def onHandlers (action : Action PyError (Dict Text (Event η) × ω) Unit) :
    Action PyError (World η ω φ) Unit :=
  Action.zoom (fun world => (world.1.nodeUpdateEventDict, world.2))
    (fun part world => ({ world.1 with nodeUpdateEventDict := part.1 }, part.2)) action

def emitUpdate (call : Call η ω φ) (key : Text) (nodeInfo : PyObject φ) :
    Action PyError (Dict Text (Event η) × ω) Unit := do
  let part ← get
  match part.1.lookup key with
  | some event => event.emit call nodeInfo
  | none => throw (.keyError key)

/-- The last lines of `update_node`: the event of every node, then the one of the name. -/
def announce (call : Call η ω φ) (nodeInfo : PyObject φ) :
    Action PyError (Dict Text (Event η) × ω) Unit := do
  emitUpdate call "*" nodeInfo
  let name ← MonadExcept.ofExcept (nodeInfo.item "name")
  MonadExcept.ofExcept name.hash
  let part ← get
  match name with
  | .str text => if text ∈ part.1 then emitUpdate call text nodeInfo
  | _ => pure ()

/-- The first lines of `update_node`: all accesses made before anything is stored, for the
identifier and the version. -/
def identify (manager : NodesInfoManager η φ) (nodeInfo : PyObject φ) :
    Except PyError (PyObject φ × PyObject φ) := do
  let nodeId ← nodeInfo.item "nodeID"
  nodeId.hash
  if manager.checkNode equality nodeId = false then
    let _ ← nodeInfo.item "name"
  let infoId ← nodeInfo.item "infoID"
  return (nodeId, infoId)

/-- Store a description and its version, unless the version is the recorded one. -/
def store (nodeId infoId nodeInfo : PyObject φ) (manager : NodesInfoManager η φ) :
    NodesInfoManager η φ :=
  if manager.checkInfo equality nodeId infoId then manager
  else { manager with
    nodesInfo := Entries.put (equality.sameKey nodeId) nodeId nodeInfo manager.nodesInfo
    nodesInfoId := Entries.put (equality.sameKey nodeId) nodeId infoId manager.nodesInfoId }

/-- `self.nodes_heartbeat[node_id] = now`. -/
def hear (now : ℚ) (nodeId : PyObject φ) (manager : NodesInfoManager η φ) :
    NodesInfoManager η φ :=
  { manager with
    nodesHeartbeat := Entries.put (equality.sameKey nodeId) nodeId now manager.nodesHeartbeat }

/-- `update_node`.  The loops write to the object that was stored, so the one stored is what
they leave behind, also where one of them raises. -/
def updateNode (call : Call η ω φ) (now : ℚ) (nodeInfo : PyObject φ) :
    Action PyError (World η ω φ) Unit := do
  let world ← get
  let identity ← MonadExcept.ofExcept (world.1.identify equality nodeInfo)
  onManager (modify (store equality identity.1 identity.2 nodeInfo.bindSockets.1))
  match nodeInfo.bindSockets.2 with
  | some error => throw error
  | none =>
      onManager (modify (hear equality now identity.1))
      onHandlers (announce call nodeInfo.bindSockets.1)

/-- `handle_heartbeat_async` up to its `await`; the result tells whether it fetches. -/
def handleHeartbeatStart (now : ℚ) (message : HeartbeatMessage)
    (manager : NodesInfoManager η φ) : NodesInfoManager η φ × Bool :=
  let seen := manager.hear equality now (.str message.nodeId)
  (seen, !seen.checkInfo equality (.str message.nodeId) (.int message.infoId))

/-- `handle_heartbeat_async` from the end of its `await` on. -/
def handleHeartbeatResume (call : Call η ω φ) (now : ℚ) (message : HeartbeatMessage)
    (nodeIp : Text) : FetchResult φ → Action PyError (World η ω φ) Unit
  | .raised => onManager (modify fun manager =>
      { manager with
        unreplyedHeartbeats := insert message.nodeId manager.unreplyedHeartbeats })
  | .value .nil => pure ()
  | .value result => do
      let nodeInfo ← MonadExcept.ofExcept (result.setItem "ip" (.str nodeIp))
      updateNode equality call now nodeInfo
      onManager (modify fun manager =>
        { manager with
          unreplyedHeartbeats := manager.unreplyedHeartbeats.erase message.nodeId })
      -- the name is formatted into the last log message
      let _ ← MonadExcept.ofExcept (nodeInfo.item "name")

/-! ## Removal -/

/-- `dict.pop(key)` without a default. -/
def popKey {ν : Type} (key : PyObject φ) : Action PyError (List (PyObject φ × ν)) Unit := do
  let entries ← get
  match Entries.find (equality.sameKey key) entries with
  | some _ => set (Entries.drop (equality.sameKey key) entries)
  | none => throw key.missing

/-- The log message about a node that is removed, which reads its name. -/
def logRemoval (manager : NodesInfoManager η φ) (nodeId : PyObject φ) : Except PyError Unit :=
  match Entries.find (equality.sameKey nodeId) manager.nodesInfo with
  | some nodeInfo => (nodeInfo.item "name").map fun _ => ()
  | none => .ok ()

/-- Remove a node's information. -/
def removeNode (nodeId : PyObject φ) : Action PyError (NodesInfoManager η φ) Unit := do
  let manager ← get
  MonadExcept.ofExcept nodeId.hash
  MonadExcept.ofExcept (manager.logRemoval equality nodeId)
  Action.zoom nodesInfo (fun dict manager => { manager with nodesInfo := dict })
    (popKey equality nodeId)
  Action.zoom nodesInfoId (fun dict manager => { manager with nodesInfoId := dict })
    (popKey equality nodeId)
  Action.zoom nodesHeartbeat (fun dict manager => { manager with nodesHeartbeat := dict })
    (popKey equality nodeId)

/-- The scan of one round of `check_heartbeat`. -/
def scanHeartbeats (now : ℚ) (nodesInfo : List (PyObject φ × PyObject φ)) :
    List (PyObject φ × ℚ) → Except PyError (List (PyObject φ))
  | [] => .ok []
  | (nodeId, lastHeartbeat) :: rest =>
      if now - lastHeartbeat > 3 then
        match Entries.find (equality.sameKey nodeId) nodesInfo with
        | none => .error nodeId.missing
        | some nodeInfo => do
            let _ ← nodeInfo.item "name"
            let removedNodes ← scanHeartbeats now nodesInfo rest
            return nodeId :: removedNodes
      else
        scanHeartbeats now nodesInfo rest

/-- One round of the loop of `check_heartbeat`, up to its `await`. -/
def checkHeartbeatRound (now : ℚ) : Action PyError (NodesInfoManager η φ) Unit := do
  let manager ← get
  let removedNodes ← MonadExcept.ofExcept
    (scanHeartbeats equality now manager.nodesInfo manager.nodesHeartbeat)
  forM removedNodes (removeNode equality)

/-! ## Local registration -/

/-- Register a new service locally. -/
def registerLocalService (serviceName : Text) (port : Int) :
    Action PyError (NodesInfoManager η φ) Unit := do
  let manager ← get
  if manager.checkLocalService serviceName then throw .valueError
  if (← MonadExcept.ofExcept (manager.getServiceInfo serviceName)).isSome then throw .valueError
  modify fun manager =>
    let info := manager.localNodeInfo
    { manager with
      localNodeInfo := { info with
        services := info.services ++ [{ name := serviceName, ip := info.ip, port := port }]
        infoID := info.infoID + 1 } }

/-- Register a new topic locally. -/
def registerLocalPublisher (call : Call η ω φ) (topicName : Text) (port : Int) :
    Action PyError (World η ω φ) Unit := do
  onManager (modify fun manager =>
    let info := manager.localNodeInfo
    { manager with
      localNodeInfo := { info with
        topics := info.topics ++ [{ name := topicName, ip := info.ip, port := port }]
        infoID := info.infoID + 1 } })
  let world ← get
  onHandlers (emitUpdate call "*" (.ofNodeInfo world.1.localNodeInfo))

section Handlers

variable [DecidableEq η]

def registerNodeUpdateHandler (nodeName : Text) (handler : η)
    (manager : NodesInfoManager η φ) : NodesInfoManager η φ :=
  let event := (manager.nodeUpdateEventDict.lookup nodeName).getD Event.empty
  { manager with
    nodeUpdateEventDict :=
      Dict.set manager.nodeUpdateEventDict nodeName (event.subscribe handler) }

def unregisterNodeUpdateHandler (nodeName : Text) (handler : η)
    (manager : NodesInfoManager η φ) : NodesInfoManager η φ :=
  match manager.nodeUpdateEventDict.lookup nodeName with
  | some event =>
      { manager with
        nodeUpdateEventDict :=
          Dict.set manager.nodeUpdateEventDict nodeName (event.unsubscribe handler) }
  | none => manager

end Handlers

end NodesInfoManager

/-! ## Runs -/

/-- A manager, its clock, the fetches its heartbeats wait for, and its monitor. -/
structure Discovery (η ω φ : Type) where
  world : NodesInfoManager.World η ω φ
  now : ℚ
  pending : List (HeartbeatMessage × Text)
  monitor : Monitor

/-- Fetches bring any object; `update_node` is called directly with a description only. -/
inductive DiscoveryEvent (η φ : Type) where
  | heartbeat (message : HeartbeatMessage) (nodeIp : Text)
  | fetchEnds (index : Nat) (result : FetchResult φ)
  | advance (elapsed : ℚ)
  | sweep
  | cancelMonitor
  | stopRunning
  | updateNode (info : NodeInfo)
  | removeNode (nodeId : PyObject φ)
  | registerLocalService (serviceName : Text) (port : Int)
  | registerLocalPublisher (topicName : Text) (port : Int)
  | registerNodeUpdateHandler (nodeName : Text) (handler : η)
  | unregisterNodeUpdateHandler (nodeName : Text) (handler : η)

namespace Discovery

open Untyped.NodesInfoManager

variable {η ω φ : Type}

/-- The same state around another manager. -/
def withManager (state : Discovery η ω φ) (manager : NodesInfoManager η φ) : Discovery η ω φ :=
  { state with world := (manager, state.world.2) }

/-- A heartbeat arrives; a version it does not know yet is fetched. -/
def heartbeat (equality : PyEquality φ) (message : HeartbeatMessage) (nodeIp : Text)
    (state : Discovery η ω φ) : Discovery η ω φ :=
  match handleHeartbeatStart equality state.now message state.world.1 with
  | (manager, true) =>
      { state.withManager manager with pending := state.pending ++ [(message, nodeIp)] }
  | (manager, false) => state.withManager manager

/-- A pending fetch ends. -/
def fetchEnds (equality : PyEquality φ) (call : Call η ω φ) (index : Nat)
    (result : FetchResult φ) (state : Discovery η ω φ) : Option (Discovery η ω φ) :=
  match state.pending[index]? with
  | some (message, nodeIp) =>
      some { state with
        world := (handleHeartbeatResume equality call state.now message nodeIp result).after
          state.world
        pending := state.pending.eraseIdx index }
  | none => none

/-- The monitor takes a round, if it still runs. -/
def sweep (equality : PyEquality φ) (state : Discovery η ω φ) : Option (Discovery η ω φ) :=
  match state.monitor with
  | .looping =>
      if state.world.1.running then
        match (checkHeartbeatRound equality state.now).run state.world.1 with
        | .ok _ manager => some (state.withManager manager)
        | .error error manager =>
            some { state.withManager manager with monitor := Monitor.afterRaise error }
      else
        some { state with monitor := .finished }
  | _ => none

def step [DecidableEq η] (equality : PyEquality φ) (call : Call η ω φ)
    (state : Discovery η ω φ) : DiscoveryEvent η φ → Option (Discovery η ω φ)
  | .heartbeat message nodeIp => some (state.heartbeat equality message nodeIp)
  | .fetchEnds index result => state.fetchEnds equality call index result
  | .advance elapsed => if 0 ≤ elapsed then some { state with now := state.now + elapsed } else none
  | .sweep => state.sweep equality
  | .cancelMonitor =>
      match state.monitor with
      | .looping => some { state with monitor := .finished }
      | _ => none
  | .stopRunning => some (state.withManager { state.world.1 with running := false })
  | .updateNode info =>
      some { state with
        world := (updateNode equality call state.now (.ofNodeInfo info)).after state.world }
  | .removeNode nodeId =>
      some (state.withManager ((removeNode equality nodeId).after state.world.1))
  | .registerLocalService serviceName port =>
      some (state.withManager ((registerLocalService serviceName port).after state.world.1))
  | .registerLocalPublisher topicName port =>
      some { state with world := (registerLocalPublisher call topicName port).after state.world }
  | .registerNodeUpdateHandler nodeName handler =>
      some (state.withManager (registerNodeUpdateHandler nodeName handler state.world.1))
  | .unregisterNodeUpdateHandler nodeName handler =>
      some (state.withManager (unregisterNodeUpdateHandler nodeName handler state.world.1))

/-- A node right after construction, its monitor started. -/
def init (localName localIp nodeID : Text) (outside : ω) (now : ℚ) : Discovery η ω φ where
  world := (NodesInfoManager.init localName localIp nodeID, outside)
  now := now
  pending := []
  monitor := .looping

/-- Discovery from a start state. -/
def machine [DecidableEq η] (equality : PyEquality φ) (call : Call η ω φ)
    (start : Discovery η ω φ) : Machine (Discovery η ω φ) (DiscoveryEvent η φ) where
  start := start
  step := step equality call

end Discovery

end Untyped

end Pyzlc
