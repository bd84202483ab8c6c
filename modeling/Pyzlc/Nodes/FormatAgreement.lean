import Pyzlc.Nodes.GroupDelivery
import Pyzlc.Nodes.MulticastLoops
import Pyzlc.Nodes.NodesInfoManager
import Pyzlc.Utils.NodeInfoFormat

/-!
# Identity and version in both wire formats

A description carries its version as an unsigned field, a heartbeat the same counter as a
signed one, and the heartbeat strips its identifier.  A receiver compares what it reads from
either, so both have to say the same wherever a description can be encoded.
-/

namespace Pyzlc

open Foundation

/-! ## Descriptions read back -/

/-- The address of a socket is not on the wire. -/
theorem socketsBytes_map_ip (ip : Text) (infos : List SocketInfo) :
    socketsBytes (infos.map fun info => { info with ip := ip }) = socketsBytes infos := by
  have sockets : Format.encodeAll socketInfoBytes (infos.map fun info => { info with ip := ip }) =
      Format.encodeAll socketInfoBytes infos := by
    induction infos with
    | nil => rfl
    | cons info rest ih =>
        simp only [List.map_cons, Format.encodeAll, ih]
        rfl
  rw [socketsBytes, socketsBytes, sockets, List.length_map]

theorem encodeNodeInfo_bindSockets (info : NodeInfo) :
    encodeNodeInfo info.bindSockets = encodeNodeInfo info := by
  rw [encodeNodeInfo_eq, encodeNodeInfo_eq]
  simp only [nodeInfoBytes, NodeInfo.bindSockets, socketsBytes_map_ip]

/-- An encoded description is read back with its sockets at the address of the node. -/
theorem decodeNodeInfo_of_encode {info : NodeInfo} {bytes : Bytes} (fills : info.FillsIdField)
    (encoded : encodeNodeInfo info = .ok bytes) :
    decodeNodeInfo bytes = .ok info.bindSockets := by
  rw [← encodeNodeInfo_bindSockets] at encoded
  have boundFills : info.bindSockets.FillsIdField := fills
  apply decodeNodeInfo_of_fills _ boundFills encoded
  constructor
  · intro socket member
    rcases List.mem_map.1 member with ⟨topic, _, rfl⟩
    rfl
  · intro socket member
    rcases List.mem_map.1 member with ⟨service, _, rfl⟩
    rfl

theorem infoID_nonneg_of_encode {info : NodeInfo} {bytes : Bytes}
    (encoded : encodeNodeInfo info = .ok bytes) : 0 ≤ info.infoID := by
  rw [encodeNodeInfo_eq] at encoded
  simp only [nodeInfoBytes, except_bind_eq_ok] at encoded
  rcases encoded with ⟨_, _, _, ⟨_, packed, _⟩, _⟩
  exact (packUnsigned_eq_ok.1 packed).1

namespace MulticastWorker

variable {worker : MulticastWorker} {bytes : Bytes} {described : NodeInfo}

/-- Version numbers of 32 bits, a port, and a group name that has an encoding. -/
structure Ordinary (worker : MulticastWorker) : Prop where
  major : -2147483648 ≤ worker.protocolVersion.1 ∧ worker.protocolVersion.1 ≤ 2147483647
  minor : -2147483648 ≤ worker.protocolVersion.2.1 ∧ worker.protocolVersion.2.1 ≤ 2147483647
  patch : -2147483648 ≤ worker.protocolVersion.2.2 ∧ worker.protocolVersion.2.2 ≤ 2147483647
  servicePort : 0 ≤ worker.servicePort ∧ worker.servicePort ≤ 65535
  groupName : ∃ bytes, worker.groupName.encode = some bytes

/-- The heartbeat has bytes, and they are read with the identifier and the version of the
description. -/
def FormatsAgree (worker : MulticastWorker) (described : NodeInfo) : Prop :=
  ∃ datagram, worker.multicastDatagram = .ok datagram ∧
    ∃ message, decodeHeartbeatMessage datagram = some message ∧
      message.nodeId = described.nodeID ∧ message.infoId = described.infoID

theorem Ordinary.sendable (ordinary : worker.Ordinary)
    (identifier : IsHashIdentifier worker.localInfo.nodeID) : worker.Sendable where
  major := ordinary.major
  minor := ordinary.minor
  patch := ordinary.patch
  servicePort := by
    have range := ordinary.servicePort
    omega
  nodeId := by
    rcases identifier.encode with ⟨idBytes, encoded, _⟩
    exact ⟨idBytes, encoded⟩
  groupName := ordinary.groupName

/-- A datagram brings the version of its sender, and the identifier stripped. -/
theorem decode_multicastDatagram (identifier : IsHashIdentifier worker.localInfo.nodeID)
    {datagram : Bytes} (sent : worker.multicastDatagram = .ok datagram) :
    decodeHeartbeatMessage datagram = some { worker.heartbeat with
      nodeId := Padding.strip 0 worker.localInfo.nodeID } := by
  rcases toBytes_eq_ok.1 sent with ⟨idBytes, idEncoded, header, packed, name, nameEncoded, rfl⟩
  rcases identifier.encode with ⟨others, encoded, length⟩
  cases encoded.symm.trans idEncoded
  have decoded := decodeHeartbeatMessage_append packed encoded (Nat.le_of_eq length) nameEncoded
  rw [length, Nat.sub_self, List.replicate_zero, List.append_nil] at decoded
  exact decoded

/-- The formats agree on the identity and the version of a node if and only if the version
fits the signed field and the identifier has no NUL at its ends. -/
theorem formatsAgree_iff (ordinary : worker.Ordinary)
    (identifier : IsHashIdentifier worker.localInfo.nodeID)
    (encoded : encodeNodeInfo worker.localInfo = .ok bytes)
    (decoded : decodeNodeInfo bytes = .ok described) :
    worker.FormatsAgree described ↔
      worker.localInfo.infoID ≤ 2147483647 ∧
        worker.localInfo.nodeID.head? ≠ some 0 ∧ worker.localInfo.nodeID.getLast? ≠ some 0 := by
  have nonneg := infoID_nonneg_of_encode encoded
  have fills : worker.localInfo.FillsIdField := by
    rcases identifier.encode with ⟨idBytes, idEncoded, length⟩
    exact ⟨idBytes, encodeUtf8_eq_ok.2 idEncoded, length⟩
  have back := decodeNodeInfo_of_encode fills encoded
  cases decoded.symm.trans back
  rw [← Padding.strip_eq_self_iff]
  constructor
  · intro agree
    rcases agree with ⟨datagram, sent, message, received, sameId, _⟩
    have read := decode_multicastDatagram identifier sent
    cases received.symm.trans read
    refine ⟨?_, sameId⟩
    rcases toBytes_eq_ok.1 sent with ⟨_, _, header, packed, _⟩
    rcases packHeader_eq_ok.1 packed with ⟨_, _, _, _, _, _, _, info, _⟩
    exact (packInt32_eq_ok.1 info).1.2
  · intro both
    have sendable := ordinary.sendable identifier
    rcases (exists_multicastDatagram_iff ⟨nonneg, both.1⟩).2 sendable with ⟨datagram, sent⟩
    exact ⟨datagram, sent, _, decode_multicastDatagram identifier sent, both.2, rfl⟩

/-- A worker whose description has the given version. -/
def versioned (infoID : Int) : MulticastWorker :=
  { camera "zlc" with localInfo := { cameraInfo with infoID := infoID } }

theorem versioned_ordinary (infoID : Int) : (versioned infoID).Ordinary := by
  have inRange : ∀ value : Int, 0 ≤ value → value ≤ 5555 →
      -2147483648 ≤ value ∧ value ≤ 2147483647 := by omega
  have port : ∀ value : Int, value = 5555 → 0 ≤ value ∧ value ≤ 65535 := by omega
  exact
    { major := inRange 1 (by decide) (by decide)
      minor := inRange 1 (by decide) (by decide)
      patch := inRange 5 (by decide) (by decide)
      servicePort := port 5555 rfl
      groupName := ⟨_, rfl⟩ }

theorem versioned_id (infoID : Int) : IsHashIdentifier (versioned infoID).localInfo.nodeID :=
  cameraInfo_id

theorem versioned_encodable {infoID : Int} (range : 0 ≤ infoID ∧ infoID < 2 ^ 32) :
    (versioned infoID).localInfo.Encodable where
  nodeID := (versioned_id infoID).encode
  infoID := range
  name := ⟨_, rfl, by decide⟩
  ip := ⟨_, rfl, by decide⟩
  topics_length := Nat.zero_le _
  services_length := Nat.zero_le _
  sockets := by
    intro socket member
    cases member

theorem exists_described_versioned {infoID : Int} (range : 0 ≤ infoID ∧ infoID < 2 ^ 32) :
    ∃ bytes, encodeNodeInfo (versioned infoID).localInfo = .ok bytes ∧
      decodeNodeInfo bytes = .ok (versioned infoID).localInfo := by
  rcases (NodeInfo.encodable_iff _).1 (versioned_encodable range) with ⟨bytes, format⟩
  rcases (nodeInfoFormat_iff _ _).1 format with ⟨fills, atNode, encoded⟩
  exact ⟨bytes, encoded, decodeNodeInfo_of_fills atNode fills encoded⟩

/-- The last version both formats can say. -/
theorem formatsAgree_iff_versioned :
    (versioned 2147483647).FormatsAgree (versioned 2147483647).localInfo := by
  have range : 0 ≤ (2147483647 : Int) ∧ (2147483647 : Int) < 2 ^ 32 := by omega
  rcases exists_described_versioned range with ⟨bytes, encoded, decoded⟩
  apply (formatsAgree_iff (versioned_ordinary _) (versioned_id _) encoded decoded).2
  exact ⟨Int.le_refl 2147483647, by decide +kernel, by decide +kernel⟩

/-- A description with version 2³¹ is encoded and read back, and has no heartbeat. -/
theorem not_formatsAgree_versioned :
    (versioned 2147483648).Ordinary ∧
    IsHashIdentifier (versioned 2147483648).localInfo.nodeID ∧
    (∃ bytes, encodeNodeInfo (versioned 2147483648).localInfo = .ok bytes ∧
      decodeNodeInfo bytes = .ok (versioned 2147483648).localInfo) ∧
    ¬ (versioned 2147483648).FormatsAgree (versioned 2147483648).localInfo := by
  have range : 0 ≤ (2147483648 : Int) ∧ (2147483648 : Int) < 2 ^ 32 := by omega
  refine ⟨versioned_ordinary _, versioned_id _, exists_described_versioned range, ?_⟩
  intro agree
  rcases agree with ⟨datagram, sent, _⟩
  rcases toBytes_eq_ok.1 sent with ⟨_, _, header, packed, _⟩
  rcases packHeader_eq_ok.1 packed with ⟨_, _, _, _, _, _, _, info, _⟩
  have fits : (2147483648 : Int) ≤ 2147483647 := (packInt32_eq_ok.1 info).1.2
  omega

end MulticastWorker

end Pyzlc
