import Pyzlc.Utils.HeartbeatFormat
import Pyzlc.Utils.Subnet

/-!
# Multicast discovery

A node's heartbeat carries its group name behind a fixed header, and the receiver reads
at most 1024 bytes of a datagram.  Whether a heartbeat reaches exactly the nodes of its
group is decided by what the cut leaves of the name.
-/

namespace Pyzlc

open Foundation

/-- The fields of a worker that its sending and receiving loops read. -/
structure MulticastWorker where
  localInfo : NodeInfo
  servicePort : Int
  groupName : Text
  protocolVersion : Int × Int × Int
  deriving DecidableEq, Repr

namespace MulticastWorker

def localIp (worker : MulticastWorker) : Text := worker.localInfo.ip

/-- The message of one round of `_multicast_loop`. -/
def heartbeat (worker : MulticastWorker) : HeartbeatMessage where
  zlcVersion := worker.protocolVersion
  nodeId := worker.localInfo.nodeID
  infoId := worker.localInfo.infoID
  servicePort := worker.servicePort
  groupName := worker.groupName

/-- What `_multicast_loop` sends. -/
def multicastDatagram (worker : MulticastWorker) : Except PyError Bytes :=
  worker.heartbeat.toBytes

/-- Handle incoming multicast discovery messages: the arguments of the submitted
`handle_heartbeat_async`, absent when nothing is submitted. -/
def handleDatagram (worker : MulticastWorker) (data : Bytes) (nodeIp : Text) :
    Option (HeartbeatMessage × Text) :=
  if isInSameSubnet worker.localIp nodeIp = false then
    none
  else
    match decodeHeartbeatMessage data with
    | none => none
    | some heartbeat =>
        if heartbeat.groupName ≠ worker.groupName then
          none
        else if heartbeat.nodeId = worker.localInfo.nodeID then
          none
        else
          some (heartbeat, nodeIp)

/-- `sock.recvfrom(1024)` in `_discovery_loop`: the rest of the datagram is lost. -/
def recvfrom (datagram : Bytes) : Bytes := datagram.take 1024

/-- One datagram through `_discovery_loop`. -/
def discover (worker : MulticastWorker) (datagram : Bytes) (nodeIp : Text) :
    Option (HeartbeatMessage × Text) :=
  worker.handleDatagram (recvfrom datagram) nodeIp

/-- What is submitted for accepted bytes. -/
theorem handleDatagram_eq_some {worker : MulticastWorker} {data : Bytes} {nodeIp : Text}
    {submitted : HeartbeatMessage × Text} :
    worker.handleDatagram data nodeIp = some submitted ↔
      isInSameSubnet worker.localIp nodeIp = true ∧
      decodeHeartbeatMessage data = some submitted.1 ∧
      submitted.1.groupName = worker.groupName ∧
      submitted.1.nodeId ≠ worker.localInfo.nodeID ∧ submitted.2 = nodeIp := by
  rcases submitted with ⟨message, address⟩
  unfold handleDatagram
  split
  next other => simp [other]
  next same =>
    cases decodeHeartbeatMessage data with
    | none => simp
    | some heartbeat =>
        simp only [Option.some.injEq]
        split
        next otherGroup =>
          simp only [reduceCtorEq, false_iff]
          rintro ⟨-, rfl, sameGroup, -⟩
          exact otherGroup sameGroup
        next sameGroup =>
          split
          next own =>
            simp only [reduceCtorEq, false_iff]
            rintro ⟨-, rfl, -, foreign, -⟩
            exact foreign own
          next foreign =>
            simp only [Option.some.injEq, Prod.mk.injEq]
            constructor
            · rintro ⟨rfl, rfl⟩
              exact ⟨by simpa using same, rfl, not_not.1 sameGroup, foreign, rfl⟩
            · rintro ⟨-, rfl, -, -, rfl⟩
              exact ⟨rfl, rfl⟩

end MulticastWorker

end Pyzlc
