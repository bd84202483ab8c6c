import Mathlib.Algebra.Order.Ring.Rat
import Mathlib.Data.Finset.Basic
import Pyzlc.Foundation.Dict
import Pyzlc.Utils.Event
import Pyzlc.Utils.Msg

/-!
# The registry of known nodes

`NodesInfoManager` keeps three dictionaries keyed by node identifier: the stored
description, its version, and the time of the last heartbeat.  They are written at
different moments, and update handlers run in between, so every method is an action
whose partial effects stay visible when it raises.

Handlers are values of a type `η`; what a handler does is a parameter `call` that
acts on the dictionary of events (it may register and unregister) and on a world `ω`
outside the registry.  Stored descriptions are values: the object `update_node`
stores is the one whose socket addresses it rewrites afterwards, so the value stored
is the rewritten one.
-/

namespace Pyzlc

open Foundation

/-- Information about nodes in the network, as one node keeps it. -/
structure NodesInfoManager (η : Type) where
  running : Bool
  nodesInfo : Dict HashIdentifier NodeInfo
  nodesInfoId : Dict HashIdentifier Int
  nodesHeartbeat : Dict HashIdentifier ℚ
  unreplyedHeartbeats : Finset HashIdentifier
  localNodeInfo : NodeInfo
  nodeUpdateEventDict : Dict Text (Event η)

/-- `node_info["ip"]` written over the address of every service and topic. -/
def NodeInfo.bindSockets (info : NodeInfo) : NodeInfo :=
  { info with
    services := info.services.map fun service => { service with ip := info.ip }
    topics := info.topics.map fun topic => { topic with ip := info.ip } }

/-- How `await send_request` for a node description ends. -/
inductive FetchResult where
  | value (info : NodeInfo)
  | none
  | raised
  deriving DecidableEq, Repr

/-- `dict.pop(key)` without a default. -/
def popKey {ν : Type} (key : Text) : Action PyError (Dict Text ν) Unit := do
  let dict ← get
  if key ∈ dict then set (AList.erase key dict) else throw (.keyError key)

namespace NodesInfoManager

variable {η ω : Type}

/-- A manager right after construction, under a fresh identifier. -/
def init (localName localIp nodeID : Text) : NodesInfoManager η where
  running := true
  nodesInfo := ∅
  nodesInfoId := ∅
  nodesHeartbeat := ∅
  unreplyedHeartbeats := ∅
  localNodeInfo := {
    nodeID := nodeID, infoID := 0, name := localName, ip := localIp, topics := [], services := [] }
  nodeUpdateEventDict := Dict.set ∅ "*" Event.empty

/-! ## Queries -/

def checkLocalService (manager : NodesInfoManager η) (serviceName : Text) : Bool :=
  manager.localNodeInfo.services.any fun service => service.name = serviceName

/-- Check if a node with the given ID exists. -/
def checkNode (manager : NodesInfoManager η) (nodeId : HashIdentifier) : Bool :=
  nodeId ∈ manager.nodesInfo

/-- Check if the info ID for a given node matches the provided info ID. -/
def checkInfo (manager : NodesInfoManager η) (nodeId : HashIdentifier) (infoId : Int) : Bool :=
  (manager.nodesInfoId.lookup nodeId).getD (-1) = infoId

/-- Publisher sockets of a topic: remote nodes in registry order, then local ones. -/
def getPublisherInfo (manager : NodesInfoManager η) (topicName : TopicName) : List SocketInfo :=
  (manager.nodesInfo.values.flatMap fun info =>
    info.topics.filter fun topic => topic.name = topicName) ++
  manager.localNodeInfo.topics.filter fun topic => topic.name = topicName

/-- The first service socket of a name: remote nodes in registry order, then local ones. -/
def getServiceInfo (manager : NodesInfoManager η) (serviceName : Text) : Option SocketInfo :=
  (manager.nodesInfo.values.findSome? fun info =>
    info.services.find? fun service => service.name = serviceName).or
  (manager.localNodeInfo.services.find? fun service => service.name = serviceName)

/-! ## Update handlers -/

section Handlers

variable [DecidableEq η]

def registerNodeUpdateHandler (nodeName : Text) (handler : η) (manager : NodesInfoManager η) :
    NodesInfoManager η :=
  let event := (manager.nodeUpdateEventDict.lookup nodeName).getD Event.empty
  { manager with
    nodeUpdateEventDict :=
      Dict.set manager.nodeUpdateEventDict nodeName (event.subscribe handler) }

def unregisterNodeUpdateHandler (nodeName : Text) (handler : η) (manager : NodesInfoManager η) :
    NodesInfoManager η :=
  match manager.nodeUpdateEventDict.lookup nodeName with
  | some event =>
      { manager with
        nodeUpdateEventDict :=
          Dict.set manager.nodeUpdateEventDict nodeName (event.unsubscribe handler) }
  | none => manager

end Handlers

/-- The manager together with everything its handlers can act on. -/
abbrev World (η ω : Type) := NodesInfoManager η × ω

/-- What the handlers do. -/
abbrev Call (η ω : Type) := η → NodeInfo → Action PyError (Dict Text (Event η) × ω) Unit

/-- Run an action of the manager alone. -/
def onManager (action : Action PyError (NodesInfoManager η) Unit) :
    Action PyError (World η ω) Unit :=
  Action.zoom Prod.fst (fun manager world => (manager, world.2)) action

/-- Run a handler: it sees the events and the outside world, not the registry. -/
def onHandlers (action : Action PyError (Dict Text (Event η) × ω) Unit) :
    Action PyError (World η ω) Unit :=
  Action.zoom (fun world => (world.1.nodeUpdateEventDict, world.2))
    (fun part world => ({ world.1 with nodeUpdateEventDict := part.1 }, part.2)) action

/-- `self._node_update_event_dict[key](node_info)`. -/
def emitUpdate (call : Call η ω) (key : Text) (info : NodeInfo) :
    Action PyError (World η ω) Unit := do
  let world ← get
  match world.1.nodeUpdateEventDict.lookup key with
  | some event => event.emit (fun handler arg => onHandlers (call handler arg)) info
  | none => throw (.keyError key)

/-! ## Local registration -/

/-- `local_node_info["services"].append(...)`. -/
def appendLocalService (serviceName : Text) (port : Int) (manager : NodesInfoManager η) :
    NodesInfoManager η :=
  let info := manager.localNodeInfo
  { manager with
    localNodeInfo := { info with
      services := info.services ++ [{ name := serviceName, ip := info.ip, port := port }] } }

/-- `local_node_info["topics"].append(...)`. -/
def appendLocalTopic (topicName : Text) (port : Int) (manager : NodesInfoManager η) :
    NodesInfoManager η :=
  let info := manager.localNodeInfo
  { manager with
    localNodeInfo := { info with
      topics := info.topics ++ [{ name := topicName, ip := info.ip, port := port }] } }

/-- `local_node_info["infoID"] += 1`. -/
def bumpInfoId (manager : NodesInfoManager η) : NodesInfoManager η :=
  { manager with
    localNodeInfo := { manager.localNodeInfo with infoID := manager.localNodeInfo.infoID + 1 } }

/-- Register a new service locally. -/
def registerLocalService (serviceName : Text) (port : Int) :
    Action PyError (NodesInfoManager η) Unit := do
  let manager ← get
  if manager.checkLocalService serviceName then throw .valueError
  if (manager.getServiceInfo serviceName).isSome then throw .valueError
  modify (appendLocalService serviceName port)
  modify bumpInfoId

/-- Register a new topic locally. -/
def registerLocalPublisher (call : Call η ω) (topicName : Text) (port : Int) :
    Action PyError (World η ω) Unit := do
  onManager (modify (appendLocalTopic topicName port))
  onManager (modify bumpInfoId)
  let world ← get
  emitUpdate call "*" world.1.localNodeInfo

/-! ## Remote nodes -/

/-- Lines 121 to 130 of `update_node`: store unless the version is the recorded one,
rewrite the socket addresses, and take the time. -/
def recordUpdate (now : ℚ) (info : NodeInfo) (manager : NodesInfoManager η) :
    NodesInfoManager η :=
  let stored :=
    if manager.checkInfo info.nodeID info.infoID then manager
    else { manager with
      nodesInfo := Dict.set manager.nodesInfo info.nodeID info.bindSockets
      nodesInfoId := Dict.set manager.nodesInfoId info.nodeID info.infoID }
  { stored with nodesHeartbeat := Dict.set stored.nodesHeartbeat info.nodeID now }

/-- Update or add a node's information, then announce it under `"*"` and under its name. -/
def updateNode (call : Call η ω) (now : ℚ) (info : NodeInfo) :
    Action PyError (World η ω) Unit := do
  onManager (modify (recordUpdate now info))
  emitUpdate call "*" info.bindSockets
  let world ← get
  if info.name ∈ world.1.nodeUpdateEventDict then
    emitUpdate call info.name info.bindSockets

/-- Remove a node's information. -/
def removeNode (nodeId : HashIdentifier) : Action PyError (NodesInfoManager η) Unit := do
  Action.zoom nodesInfo (fun dict manager => { manager with nodesInfo := dict }) (popKey nodeId)
  Action.zoom nodesInfoId (fun dict manager => { manager with nodesInfoId := dict })
    (popKey nodeId)
  Action.zoom nodesHeartbeat (fun dict manager => { manager with nodesHeartbeat := dict })
    (popKey nodeId)

/-- `handle_heartbeat_async` up to its `await`; the result tells whether it fetches. -/
def handleHeartbeatStart (now : ℚ) (message : HeartbeatMessage) (manager : NodesInfoManager η) :
    NodesInfoManager η × Bool :=
  let seen := { manager with
    nodesHeartbeat := Dict.set manager.nodesHeartbeat message.nodeId now }
  (seen, !seen.checkInfo message.nodeId message.infoId)

/-- `handle_heartbeat_async` from the end of its `await` on. -/
def handleHeartbeatResume (call : Call η ω) (now : ℚ) (message : HeartbeatMessage)
    (nodeIp : Text) : FetchResult → Action PyError (World η ω) Unit
  | .raised => onManager (modify fun manager =>
      { manager with
        unreplyedHeartbeats := insert message.nodeId manager.unreplyedHeartbeats })
  | .none => pure ()
  | .value info => do
      updateNode call now { info with ip := nodeIp }
      onManager (modify fun manager =>
        { manager with
          unreplyedHeartbeats := manager.unreplyedHeartbeats.erase message.nodeId })

/-- The scan of one round of `check_heartbeat`: the stale nodes, each logged by the name
in its description. -/
def scanHeartbeats (now : ℚ) (nodesInfo : Dict HashIdentifier NodeInfo) :
    List (Sigma fun _ : HashIdentifier => ℚ) → Except PyError (List HashIdentifier)
  | [] => .ok []
  | ⟨nodeId, lastHeartbeat⟩ :: rest =>
      if now - lastHeartbeat > 3 then
        match nodesInfo.lookup nodeId with
        | none => .error (.keyError nodeId)
        | some _ => do
            let removedNodes ← scanHeartbeats now nodesInfo rest
            .ok (nodeId :: removedNodes)
      else
        scanHeartbeats now nodesInfo rest

/-- One round of the loop of `check_heartbeat`, up to its `await`. -/
def checkHeartbeatRound (now : ℚ) : Action PyError (NodesInfoManager η) Unit := do
  let manager ← get
  match scanHeartbeats now manager.nodesInfo manager.nodesHeartbeat.entries with
  | .error error => throw error
  | .ok removedNodes => forM removedNodes removeNode

end NodesInfoManager

end Pyzlc
