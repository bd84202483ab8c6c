import Pyzlc.Nodes.Discovery

/-!
# A node that registers and a node that observes it

One node registers services and publishers, appending to a list and raising `infoID`
in two steps, and answers `get_node_info` with its description read field by field in
between.  Another node runs discovery on those answers.  The answers are kept for good
once they are read, so they may be delivered late, in any order, repeatedly or never.
-/

namespace Pyzlc

open Foundation

/-- A registration whose version is not raised yet. -/
inductive Registration where
  | service
  | publisher
  deriving DecidableEq

/-- The reading of one answer, up to the field it has reached. -/
inductive Snapshot where
  | infoIdRead (infoId : Int)
  | topicsRead (infoId : Int) (topics : List SocketInfo)
  deriving DecidableEq

/-- A node that registers, the answers read off it, and a node that observes it. -/
structure Pair (η ω : Type) where
  writer : Discovery η ω
  registering : Option Registration
  snapshots : List Snapshot
  replies : List NodeInfo
  observer : Discovery η ω

inductive PairEvent (η : Type) where
  | beginService (serviceName : Text) (port : Int)
  | beginPublisher (topicName : Text) (port : Int)
  | finishRegistration
  | readInfoId
  | readTopics (index : Nat)
  | readServices (index : Nat)
  | writerStep (event : DiscoveryEvent η)
  | observerStep (event : DiscoveryEvent η)

namespace Pair

open NodesInfoManager Discovery

variable {η ω : Type}

/-- The description of the node that registers. -/
def info (pair : Pair η ω) : NodeInfo := pair.writer.manager.localNodeInfo

/-- `register_local_service` up to and including its append. -/
def beginService (serviceName : Text) (port : Int) (pair : Pair η ω) : Pair η ω :=
  let manager := pair.writer.manager
  if manager.checkLocalService serviceName = true ∨
      (manager.getServiceInfo serviceName).isSome = true then pair
  else { pair with
    writer := pair.writer.withManager (appendLocalService serviceName port manager)
    registering := some .service }

/-- `register_local_publisher` up to and including its append. -/
def beginPublisher (topicName : Text) (port : Int) (pair : Pair η ω) : Pair η ω :=
  { pair with
    writer := pair.writer.withManager (appendLocalTopic topicName port pair.writer.manager)
    registering := some .publisher }

/-- The rest of `register_local_publisher`. -/
def finishPublisher (call : Call η ω) : Action PyError (World η ω) Unit := do
  onManager (modify bumpInfoId)
  let world ← get
  emitUpdate call "*" world.1.localNodeInfo

/-- The rest of the registration that is under way. -/
def finishRegistration (call : Call η ω) (registration : Registration) (pair : Pair η ω) :
    Pair η ω :=
  match registration with
  | .service => { pair with
      writer := pair.writer.withManager (bumpInfoId pair.writer.manager)
      registering := none }
  | .publisher => { pair with
      writer := { pair.writer with world := (finishPublisher call).after pair.writer.world }
      registering := none }

/-- What the network can deliver: about the registering node, only its own answers. -/
def fromNetwork (pair : Pair η ω) : DiscoveryEvent η → Bool
  | .fetchEnds _ (.value info) => info.nodeID ≠ pair.info.nodeID || info ∈ pair.replies
  | .updateNode info => info.nodeID ≠ pair.info.nodeID
  | _ => true

def step [DecidableEq η] (call : Call η ω) (pair : Pair η ω) : PairEvent η → Option (Pair η ω)
  | .beginService serviceName port =>
      if pair.registering = none then some (pair.beginService serviceName port) else none
  | .beginPublisher topicName port =>
      if pair.registering = none then some (pair.beginPublisher topicName port) else none
  | .finishRegistration =>
      pair.registering.map fun registration => pair.finishRegistration call registration
  | .readInfoId =>
      some { pair with snapshots := pair.snapshots ++ [.infoIdRead pair.info.infoID] }
  | .readTopics index =>
      match pair.snapshots[index]? with
      | some (.infoIdRead infoId) => some { pair with
          snapshots := pair.snapshots.set index (.topicsRead infoId pair.info.topics) }
      | _ => none
  | .readServices index =>
      match pair.snapshots[index]? with
      | some (.topicsRead infoId topics) => some { pair with
          snapshots := pair.snapshots.eraseIdx index
          replies := pair.replies ++ [{ pair.info with infoID := infoId, topics := topics }] }
      | _ => none
  | .writerStep event =>
      if registers event = false then
        (pair.writer.step call event).map fun writer => { pair with writer := writer }
      else none
  | .observerStep event =>
      if pair.fromNetwork event = true then
        (pair.observer.step call event).map fun observer => { pair with observer := observer }
      else none

/-- Two fresh nodes. -/
def machine [DecidableEq η] (call : Call η ω) (writer observer : Discovery η ω) :
    Machine (Pair η ω) (PairEvent η) where
  start := {
    writer := writer, registering := none, snapshots := [], replies := [], observer := observer }
  step := step call

/-- The two halves of a service registration are the method. -/
theorem register_service_eq (call : Call η ω) (serviceName : Text) (port : Int)
    (pair : Pair η ω)
    (free : ¬ (pair.writer.manager.checkLocalService serviceName = true ∨
      (pair.writer.manager.getServiceInfo serviceName).isSome = true)) :
    ((pair.beginService serviceName port).finishRegistration call .service).writer.manager =
      (registerLocalService serviceName port).after pair.writer.manager := by
  rw [after_registerLocalService, if_neg free]
  simp only [beginService, if_neg free]
  rfl

/-- The two halves of a publisher registration are the method. -/
theorem register_publisher_eq (call : Call η ω) (topicName : Text) (port : Int)
    (pair : Pair η ω) :
    ((pair.beginPublisher topicName port).finishRegistration call .publisher).writer.world =
      (registerLocalPublisher call topicName port).after pair.writer.world := by
  unfold registerLocalPublisher
  rw [Action.after_bind_of_ok (run_onManager_modify _ pair.writer.world)]
  rfl

end Pair

end Pyzlc
