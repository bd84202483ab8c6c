import Pyzlc.Foundation.Dict
import Pyzlc.Foundation.Effect
import Pyzlc.Utils.Exception

/-!
# Nodes and the groups they are registered under

`LanComNode` keeps two class variables: the nodes by group name, and the default node.  A
node object is a value with a serial number for its identity; the attributes its methods set
stand beside the class variables, by that number.  The managers a node owns are built and
closed without raising, and are left out.
-/

namespace Pyzlc

open Foundation

/-- Represents a LanCom node in the network.  `serial` is its identity: how many nodes were
created before it. -/
structure LanComNode where
  serial : Nat
  name : Text
  nodeIp : Text
  group : Text
  groupPort : Int
  groupName : Text
  deriving DecidableEq, Repr

/-- The class variables, every node created so far, and the attributes `running` and
`heartbeat_future` of those that have them; a future is given by whether it is cancelled. -/
structure LanComNodes where
  defaultInstance : Option LanComNode
  nodeInstances : Dict Text LanComNode
  created : List LanComNode
  running : Dict Nat Bool
  heartbeatFuture : Dict Nat Bool

namespace LanComNodes

/-- Before the first node. -/
def empty : LanComNodes where
  defaultInstance := none
  nodeInstances := ∅
  created := []
  running := ∅
  heartbeatFuture := ∅

/-- Get the singleton instance of LanComNode. -/
protected def get (groupName : Option Text) (nodes : LanComNodes) : Option LanComNode :=
  match groupName with
  | none => nodes.defaultInstance
  | some name => nodes.nodeInstances.lookup name

/-- Get the singleton instance of LanComNode, raise error if not initialized. -/
def getInstance (groupName : Option Text) : Action PyError LanComNodes LanComNode := do
  match (← get).get groupName with
  | none => throw .valueError
  | some node => return node

/-- The node the constructor makes next. -/
def nextNode (nodeName nodeIp group : Text) (groupPort : Int) (groupName : Text)
    (nodes : LanComNodes) : LanComNode where
  serial := nodes.created.length
  name := nodeName
  nodeIp := nodeIp
  group := group
  groupPort := groupPort
  groupName := groupName

/-- A new node is registered under its group. -/
def create (node : LanComNode) (nodes : LanComNodes) : LanComNodes :=
  { nodes with
    created := nodes.created ++ [node]
    nodeInstances := Dict.set nodes.nodeInstances node.groupName node }

/-- The first default node stays the default. -/
def setDefault (groupName : Text) (defaultGroup : Bool) (nodes : LanComNodes) : LanComNodes :=
  { nodes with
    defaultInstance :=
      if defaultGroup = true ∧ nodes.defaultInstance = none then
        nodes.nodeInstances.lookup groupName
      else nodes.defaultInstance }

/-- `LanComNode.init`. -/
def init (nodeName nodeIp group : Text) (groupPort : Int) (groupName : Text)
    (defaultGroup : Bool) : Action PyError LanComNodes Unit := do
  let nodes ← get
  if groupName ∈ nodes.nodeInstances then
    throw .valueError
  else
    set (create (nodes.nextNode nodeName nodeIp group groupPort groupName) nodes)
  modify (setDefault groupName defaultGroup)

/-- `self.running = running`. -/
def setRunning (running : Bool) (node : LanComNode) (nodes : LanComNodes) : LanComNodes :=
  { nodes with running := Dict.set nodes.running node.serial running }

/-- Start the node's operations. -/
def startNode (node : LanComNode) (nodes : LanComNodes) : LanComNodes :=
  { setRunning true node nodes with
    heartbeatFuture := Dict.set nodes.heartbeatFuture node.serial false }

/-- `self.heartbeat_future.cancel()`, an attribute that only `start_node` sets. -/
def cancelHeartbeat (node : LanComNode) : Action PyError LanComNodes Unit := do
  let nodes ← get
  if node.serial ∈ nodes.heartbeatFuture then
    set { nodes with heartbeatFuture := Dict.set nodes.heartbeatFuture node.serial true }
  else
    throw (.exception (Text.ofString "AttributeError"))

/-- `node_instances.pop(self.group_name, None)`, and the default if it is this node. -/
def unregister (node : LanComNode) (nodes : LanComNodes) : LanComNodes :=
  { nodes with
    nodeInstances := AList.erase node.groupName nodes.nodeInstances
    defaultInstance :=
      if nodes.defaultInstance = some node then none else nodes.defaultInstance }

/-- Stop the node's operations. -/
def stopNode (node : LanComNode) : Action PyError LanComNodes Unit := do
  modify (setRunning false node)
  cancelHeartbeat node
  modify (unregister node)

/-- Stop all LanCom nodes, including sub-group nodes. -/
def stopAllNodes : Action PyError LanComNodes Unit := do
  forM (← get).nodeInstances.values stopNode
  modify fun nodes => { nodes with nodeInstances := ∅, defaultInstance := none }

/-- `pyzlc.init`: create and register a node and start it. -/
def initNode (nodeName nodeIp group : Text) (groupPort : Int) (groupName : Text)
    (defaultGroup : Bool) : Action PyError LanComNodes Unit := do
  let nodes ← get
  if (nodes.get (some groupName)).isSome then throw .valueError
  init nodeName nodeIp group groupPort groupName defaultGroup
  let node ← getInstance (some groupName)
  modify (startNode node)

/-! ## What the operations do -/

/-- A node has been created, registered, made the default if there was none, and started. -/
def initialized (defaultGroup : Bool) (node : LanComNode) (nodes : LanComNodes) : LanComNodes where
  defaultInstance :=
    if defaultGroup = true ∧ nodes.defaultInstance = none then some node
    else nodes.defaultInstance
  nodeInstances := Dict.set nodes.nodeInstances node.groupName node
  created := nodes.created ++ [node]
  running := Dict.set nodes.running node.serial true
  heartbeatFuture := Dict.set nodes.heartbeatFuture node.serial false

/-- A node has been stopped and the node of its group unregistered. -/
def stopped (nodes : LanComNodes) (node : LanComNode) : LanComNodes where
  defaultInstance := if nodes.defaultInstance = some node then none else nodes.defaultInstance
  nodeInstances := AList.erase node.groupName nodes.nodeInstances
  created := nodes.created
  running := Dict.set nodes.running node.serial false
  heartbeatFuture := Dict.set nodes.heartbeatFuture node.serial true

theorem run_init {nodes : LanComNodes} {groupName : Text}
    (free : groupName ∉ nodes.nodeInstances) (nodeName nodeIp group : Text) (groupPort : Int)
    (defaultGroup : Bool) :
    (init nodeName nodeIp group groupPort groupName defaultGroup).run nodes =
      .ok ⟨⟩ (setDefault groupName defaultGroup
        (create (nodes.nextNode nodeName nodeIp group groupPort groupName) nodes)) := by
  unfold init
  rw [Action.bind_of_ok (Action.run_get nodes), if_neg free]
  rfl

/-- The node registered under the group is the new one. -/
theorem run_getInstance_of_create (nodes : LanComNodes) (node : LanComNode) (defaultGroup : Bool) :
    (getInstance (some node.groupName)).run
        (setDefault node.groupName defaultGroup (create node nodes)) =
      .ok node (setDefault node.groupName defaultGroup (create node nodes)) := by
  have registered : (setDefault node.groupName defaultGroup (create node nodes)).get
      (some node.groupName) = some node := Dict.lookup_set_self _ _ _
  unfold getInstance
  rw [Action.bind_of_ok (Action.run_get _), registered]
  rfl

theorem startNode_create (nodes : LanComNodes) (node : LanComNode) (defaultGroup : Bool) :
    startNode node (setDefault node.groupName defaultGroup (create node nodes)) =
      initialized defaultGroup node nodes := by
  simp only [startNode, setRunning, setDefault, create, initialized, Dict.lookup_set_self]

/-- `pyzlc.init` refuses a group that has a node, and initializes one otherwise. -/
theorem after_initNode (nodeName nodeIp group : Text) (groupPort : Int) (groupName : Text)
    (defaultGroup : Bool) (nodes : LanComNodes) :
    (initNode nodeName nodeIp group groupPort groupName defaultGroup).after nodes =
      if groupName ∈ nodes.nodeInstances then nodes
      else initialized defaultGroup
        (nodes.nextNode nodeName nodeIp group groupPort groupName) nodes := by
  unfold initNode
  rw [Action.after_bind_of_ok (Action.run_get nodes)]
  by_cases taken : groupName ∈ nodes.nodeInstances
  · have registered : (nodes.get (some groupName)).isSome = true := AList.lookup_isSome.2 taken
    rw [if_pos registered, if_pos taken]
    rfl
  · have absent : ¬ (nodes.get (some groupName)).isSome = true := mt AList.lookup_isSome.1 taken
    have found := run_getInstance_of_create nodes
      (nodes.nextNode nodeName nodeIp group groupPort groupName) defaultGroup
    rw [if_neg absent, if_neg taken]
    apply Eq.trans (Action.after_bind_of_ok
      (run_init taken nodeName nodeIp group groupPort defaultGroup))
    apply Eq.trans (Action.after_bind_of_ok found)
    exact startNode_create nodes _ defaultGroup

theorem run_cancelHeartbeat {nodes : LanComNodes} {node : LanComNode}
    (started : node.serial ∈ nodes.heartbeatFuture) :
    (cancelHeartbeat node).run nodes = .ok ⟨⟩
      { nodes with heartbeatFuture := Dict.set nodes.heartbeatFuture node.serial true } := by
  unfold cancelHeartbeat
  rw [Action.bind_of_ok (Action.run_get nodes), if_pos started]
  rfl

/-- A node that was started stops without raising. -/
theorem run_stopNode {nodes : LanComNodes} {node : LanComNode}
    (started : node.serial ∈ nodes.heartbeatFuture) :
    (stopNode node).run nodes = .ok ⟨⟩ (nodes.stopped node) := by
  have quiet : node.serial ∈ (setRunning false node nodes).heartbeatFuture := started
  unfold stopNode
  apply Eq.trans (Action.bind_of_ok rfl)
  rw [Action.bind_of_ok (run_cancelHeartbeat quiet)]
  rfl

/-- All registered nodes are stopped, and then none is registered. -/
def allStopped (nodes : LanComNodes) : LanComNodes :=
  { nodes.nodeInstances.values.foldl stopped nodes with
    nodeInstances := ∅
    defaultInstance := none }

theorem stopped_heartbeatFuture (nodes : LanComNodes) (node : LanComNode) (serial : Nat) :
    serial ∈ (nodes.stopped node).heartbeatFuture ↔
      serial = node.serial ∨ serial ∈ nodes.heartbeatFuture :=
  Dict.mem_set _ _ _ _

theorem run_stopAllNodes {nodes : LanComNodes}
    (started : ∀ node ∈ nodes.nodeInstances.values, node.serial ∈ nodes.heartbeatFuture) :
    stopAllNodes.run nodes = .ok ⟨⟩ nodes.allStopped := by
  have loop : (forM nodes.nodeInstances.values stopNode).run nodes =
      .ok ⟨⟩ (nodes.nodeInstances.values.foldl stopped nodes) := by
    apply Action.forM_eq_ok
      (fun rest state => ∀ node ∈ rest, node.serial ∈ state.heartbeatFuture) _ _ _ started
    intro node rest state remaining
    constructor
    · exact run_stopNode (remaining node List.mem_cons_self)
    · intro later member
      exact (stopped_heartbeatFuture _ _ _).2
        (Or.inr (remaining later (List.mem_cons_of_mem _ member)))
  unfold stopAllNodes
  rw [Action.bind_of_ok (Action.run_get nodes), Action.bind_of_ok loop]
  rfl

end LanComNodes

end Pyzlc
