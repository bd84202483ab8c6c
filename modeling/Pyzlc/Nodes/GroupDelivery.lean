import Pyzlc.Nodes.Multicast

/-!
# Group delivery and isolation

A heartbeat has to be heard by the nodes of its group and by no others.  The receiver
compares its own group name with what the buffer holds of the sent one, so the names
that stay distinguishable behind 968 bytes are exactly those for which this holds.
-/

namespace Pyzlc

open Foundation

namespace MulticastWorker

/-- An identifier of the shape `create_hash_identifier` makes. -/
structure IsHashIdentifier (identifier : HashIdentifier) : Prop where
  length : identifier.length = 36
  ascii : ∀ point ∈ identifier, point.val < 128

/-- Such an identifier fills its field. -/
theorem IsHashIdentifier.encode {identifier : HashIdentifier}
    (wellFormed : IsHashIdentifier identifier) :
    ∃ bytes, Text.encode identifier = some bytes ∧ bytes.length = 36 :=
  ⟨_, Text.encode_ascii wellFormed.ascii, by rw [List.length_map, wellFormed.length]⟩

variable {sender receiver : MulticastWorker} {datagram : Bytes}

/-- What the receiver's buffer holds: the header and the first 968 bytes of the name. -/
theorem recvfrom_eq (identifier : IsHashIdentifier sender.localInfo.nodeID)
    (sent : sender.multicastDatagram = .ok datagram) :
    ∃ name header, sender.groupName.encode = some name ∧ header.length = 56 ∧
      datagram = header ++ name ∧ recvfrom datagram = header ++ name.take 968 ∧
      ∀ group : Text, group.encode = some (name.take 968) →
        decodeHeartbeatMessage (header ++ name.take 968) =
          some { sender.heartbeat with
            nodeId := Padding.strip 0 sender.localInfo.nodeID, groupName := group } := by
  rcases toBytes_eq_ok.1 sent with
    ⟨idBytes, idEncoded, header, packed, name, nameEncoded, rfl⟩
  rcases identifier.encode with ⟨bytes, encoded, length⟩
  cases encoded.symm.trans idEncoded
  have headerLength := length_header packed
  refine ⟨name, header, nameEncoded, headerLength, rfl, ?_, ?_⟩
  · rw [recvfrom, List.take_append, List.take_of_length_le (by omega), headerLength]
  · intro group groupEncoded
    rw [decodeHeartbeatMessage_append packed idEncoded (by omega) groupEncoded, length,
      Nat.sub_self, List.replicate_zero, List.append_nil]
    rfl

/-- What is submitted for a heartbeat that was cut to the buffer. -/
theorem discover_eq_some (identifier : IsHashIdentifier sender.localInfo.nodeID)
    (sent : sender.multicastDatagram = .ok datagram) {name : Bytes}
    (nameEncoded : sender.groupName.encode = some name)
    (sameNetwork : SameNetwork receiver.localIp sender.localIp)
    (submitted : HeartbeatMessage × Text) :
    receiver.discover datagram sender.localIp = some submitted ↔
      receiver.groupName.encode = some (name.take 968) ∧
      Padding.strip 0 sender.localInfo.nodeID ≠ receiver.localInfo.nodeID ∧
      submitted = ({ sender.heartbeat with
        nodeId := Padding.strip 0 sender.localInfo.nodeID, groupName := receiver.groupName },
        sender.localIp) := by
  rcases recvfrom_eq identifier sent with
    ⟨bytes, header, encoded, headerLength, -, received, decodes⟩
  cases encoded.symm.trans nameEncoded
  rw [discover, received, handleDatagram_eq_some, isInSameSubnet_iff]
  constructor
  · rintro ⟨-, decoded, sameGroup, foreign, address⟩
    have accepted := (decodeHeartbeatMessage_isSome_iff _).1 ⟨_, decoded⟩
    rcases accepted.2.2 with ⟨group, groupDecoded⟩
    rw [List.drop_left' headerLength, Text.decode_eq_some_iff] at groupDecoded
    have message := decodes group groupDecoded
    rw [decoded] at message
    have fields := Option.some.inj message
    rw [fields] at sameGroup foreign
    change group = receiver.groupName at sameGroup
    subst sameGroup
    exact ⟨groupDecoded, foreign, Prod.ext fields address⟩
  · rintro ⟨cutName, foreign, rfl⟩
    exact ⟨sameNetwork, decodes _ cutName, rfl, foreign, rfl⟩

/-- A foreign identifier stays foreign: stripping it can only shorten it. -/
theorem strip_ne (identifier : IsHashIdentifier sender.localInfo.nodeID)
    (other : IsHashIdentifier receiver.localInfo.nodeID)
    (distinct : sender.localInfo.nodeID ≠ receiver.localInfo.nodeID) :
    Padding.strip 0 sender.localInfo.nodeID ≠ receiver.localInfo.nodeID := by
  intro same
  have kept : (Padding.strip 0 sender.localInfo.nodeID).length =
      sender.localInfo.nodeID.length := by
    rw [same, identifier.length, other.length]
  rw [Padding.strip_eq_of_length kept] at same
  exact distinct same

/-- The receiver submits the heartbeat with the sender's identifier, version and port. -/
def Hears (receiver sender : MulticastWorker) (datagram : Bytes) : Prop :=
  ∃ message, receiver.discover datagram sender.localIp = some (message, sender.localIp) ∧
    message.nodeId = sender.localInfo.nodeID ∧ message.infoId = sender.localInfo.infoID ∧
    message.servicePort = sender.servicePort

/-- A heartbeat is heard in its own group and nowhere else. -/
def GroupDelivery (sender receiver : MulticastWorker) (datagram : Bytes) : Prop :=
  (sender.groupName = receiver.groupName → receiver.Hears sender datagram) ∧
  (sender.groupName ≠ receiver.groupName →
    receiver.discover datagram sender.localIp = none)

/-- The buffer keeps the two names apart or together as they are: in one group the name
is at most 968 bytes long and the identifier survives the stripping, in two groups the
first 968 bytes of the sent name are not the other name. -/
structure Distinguishable (sender receiver : MulticastWorker) : Prop where
  fits : sender.groupName = receiver.groupName →
    ∀ name, sender.groupName.encode = some name → name.length ≤ 968
  identifier : sender.groupName = receiver.groupName →
    sender.localInfo.nodeID.head? ≠ some 0 ∧ sender.localInfo.nodeID.getLast? ≠ some 0
  apart : sender.groupName ≠ receiver.groupName →
    ∀ name other, sender.groupName.encode = some name →
      receiver.groupName.encode = some other → name.take 968 ≠ other

/-- Group delivery and isolation hold of a heartbeat exactly when the buffer keeps the
names distinguishable. -/
theorem groupDelivery_iff (sameNetwork : SameNetwork receiver.localIp sender.localIp)
    (senderId : IsHashIdentifier sender.localInfo.nodeID)
    (receiverId : IsHashIdentifier receiver.localInfo.nodeID)
    (distinct : sender.localInfo.nodeID ≠ receiver.localInfo.nodeID)
    (sent : sender.multicastDatagram = .ok datagram) :
    GroupDelivery sender receiver datagram ↔ Distinguishable sender receiver := by
  rcases recvfrom_eq senderId sent with ⟨name, -, nameEncoded, -⟩
  have submits := discover_eq_some senderId sent nameEncoded sameNetwork
  have foreign := strip_ne senderId receiverId distinct
  constructor
  · intro delivery
    constructor
    · intro sameGroup bytes encoded
      cases encoded.symm.trans nameEncoded
      rcases delivery.1 sameGroup with ⟨message, heard, -⟩
      have cut := ((submits _).1 heard).1
      rw [← sameGroup, nameEncoded] at cut
      have lengths := congrArg List.length (Option.some.inj cut)
      rw [List.length_take] at lengths
      omega
    · intro sameGroup
      rcases delivery.1 sameGroup with ⟨message, heard, sameId, -⟩
      have stripped := (Prod.mk.inj ((submits _).1 heard).2.2).1
      rw [stripped] at sameId
      exact Padding.strip_eq_self_iff.1 sameId
    · intro otherGroup bytes other encoded otherEncoded equal
      cases encoded.symm.trans nameEncoded
      subst equal
      have heard := (submits _).2 ⟨otherEncoded, foreign, rfl⟩
      rw [delivery.2 otherGroup] at heard
      cases heard
  · intro distinguishable
    constructor
    · intro sameGroup
      have short := distinguishable.fits sameGroup name nameEncoded
      have unstripped := Padding.strip_eq_self_iff.2 (distinguishable.identifier sameGroup)
      have cut : receiver.groupName.encode = some (name.take 968) := by
        rw [← sameGroup, nameEncoded, List.take_of_length_le short]
      exact ⟨_, (submits _).2 ⟨cut, foreign, rfl⟩, unstripped, rfl, rfl⟩
    · intro otherGroup
      cases outcome : receiver.discover datagram sender.localIp with
      | none => rfl
      | some submitted =>
          have cut := ((submits _).1 outcome).1
          exact absurd rfl (distinguishable.apart otherGroup name _ nameEncoded cut)

/-! ## Names at the limit of the buffer -/

/-- Two nodes on one network. -/
def cameraInfo : NodeInfo where
  nodeID := "123e4567-e89b-12d3-a456-426614174000"
  infoID := 3
  name := "camera"
  ip := "192.168.0.7"
  topics := []
  services := []

def viewerInfo : NodeInfo where
  nodeID := "123e4567-e89b-12d3-a456-426614174001"
  infoID := 0
  name := "viewer"
  ip := "192.168.0.9"
  topics := []
  services := []

/-- Their workers in a group. -/
def camera (groupName : Text) : MulticastWorker where
  localInfo := cameraInfo
  servicePort := 5555
  groupName := groupName
  protocolVersion := (1, 1, 5)

def viewer (groupName : Text) : MulticastWorker where
  localInfo := viewerInfo
  servicePort := 5556
  groupName := groupName
  protocolVersion := (1, 1, 5)

theorem isHashIdentifier_of_all {identifier : HashIdentifier} (length : identifier.length = 36)
    (ascii : identifier.all (fun point => point.val < 128) = true) :
    IsHashIdentifier identifier :=
  ⟨length, fun point member => of_decide_eq_true (List.all_eq_true.1 ascii point member)⟩

theorem cameraInfo_id : IsHashIdentifier cameraInfo.nodeID :=
  isHashIdentifier_of_all (by decide +kernel) (by decide +kernel)

theorem viewerInfo_id : IsHashIdentifier viewerInfo.nodeID :=
  isHashIdentifier_of_all (by decide +kernel) (by decide +kernel)

theorem cameraInfo_ne_viewerInfo : cameraInfo.nodeID ≠ viewerInfo.nodeID := by decide +kernel

theorem sameNetwork_infos : SameNetwork viewerInfo.ip cameraInfo.ip :=
  isInSameSubnet_iff.1 (by decide +kernel)

theorem sameNetwork_viewer_camera (first second : Text) :
    SameNetwork (viewer first).localIp (camera second).localIp := sameNetwork_infos

/-- A group name of the letter a. -/
def letters (count : Nat) : Text := List.replicate count (CodePoint.ofChar 'a')

theorem encode_letters (count : Nat) :
    Text.encode (letters count) = some (List.replicate count 97) := by
  rw [Text.encode_ascii, letters, List.map_replicate]
  · rfl
  · intro point member
    rw [List.eq_of_mem_replicate member]
    decide

theorem exists_datagram_letters (count : Nat) :
    ∃ datagram, (camera (letters count)).multicastDatagram = .ok datagram ∧
      datagram.length = 56 + count := by
  have identifier := cameraInfo_id
  rcases identifier.encode with ⟨bytes, encoded, length⟩
  have inRange : ∀ value : Int, 0 ≤ value → value ≤ 5555 →
      -2147483648 ≤ value ∧ value ≤ 2147483647 := by omega
  have encodable : (camera (letters count)).heartbeat.Encodable :=
    { major := inRange 1 (by decide) (by decide)
      minor := inRange 1 (by decide) (by decide)
      patch := inRange 5 (by decide) (by decide)
      infoId := inRange 3 (by decide) (by decide)
      servicePort := inRange 5555 (by decide) (by decide)
      nodeId := ⟨bytes, encoded, length.le⟩
      groupName := ⟨_, encode_letters count⟩ }
  rcases encodable.exists_toBytes with ⟨datagram, sent⟩
  rcases recvfrom_eq identifier sent with ⟨name, header, nameEncoded, headerLength, rfl, -⟩
  cases nameEncoded.symm.trans (encode_letters count)
  exact ⟨_, sent, by rw [List.length_append, headerLength, List.length_replicate]⟩

/-- The longest name that is delivered. -/
theorem groupDelivery_iff_letters :
    ∃ datagram, (camera (letters 968)).multicastDatagram = .ok datagram ∧
      GroupDelivery (camera (letters 968)) (viewer (letters 968)) datagram := by
  rcases exists_datagram_letters 968 with ⟨datagram, sent, -⟩
  refine ⟨datagram, sent, (groupDelivery_iff (sameNetwork_viewer_camera _ _) cameraInfo_id
    viewerInfo_id
    cameraInfo_ne_viewerInfo sent).2 ⟨?_, ?_, ?_⟩⟩
  · intro _ name encoded
    cases encoded.symm.trans (encode_letters 968)
    rw [List.length_replicate]
  · intro _
    decide +kernel
  · intro other
    exact absurd rfl other

/-- A name of 969 letters is not heard in its own group, and is heard in the group of 968
letters. -/
theorem not_groupDelivery_letters :
    SameNetwork (viewer (letters 969)).localIp (camera (letters 969)).localIp ∧
    IsHashIdentifier (camera (letters 969)).localInfo.nodeID ∧
    IsHashIdentifier (viewer (letters 969)).localInfo.nodeID ∧
    (camera (letters 969)).localInfo.nodeID ≠ (viewer (letters 969)).localInfo.nodeID ∧
    ∃ datagram, (camera (letters 969)).multicastDatagram = .ok datagram ∧
      datagram.length ≤ 65507 ∧
      ¬ GroupDelivery (camera (letters 969)) (viewer (letters 969)) datagram ∧
      ¬ GroupDelivery (camera (letters 969)) (viewer (letters 968)) datagram := by
  rcases exists_datagram_letters 969 with ⟨datagram, sent, length⟩
  have submits := fun group =>
    discover_eq_some cameraInfo_id sent (encode_letters 969)
      (sameNetwork_viewer_camera group (letters 969))
  refine ⟨sameNetwork_infos, cameraInfo_id, viewerInfo_id, cameraInfo_ne_viewerInfo,
    datagram, sent, by omega, ?_, ?_⟩
  · intro delivery
    rcases delivery.1 rfl with ⟨message, heard, -⟩
    have cut := ((submits _ _).1 heard).1
    have lengths := congrArg List.length (Option.some.inj ((encode_letters 969).symm.trans cut))
    rw [List.length_take, List.length_replicate] at lengths
    omega
  · intro delivery
    have otherGroup : letters 969 ≠ letters 968 := by
      intro same
      have lengths := congrArg List.length same
      rw [letters, letters, List.length_replicate, List.length_replicate] at lengths
      omega
    have cut : Text.encode (letters 968) = some ((List.replicate 969 97).take 968) := by
      rw [encode_letters, List.take_replicate]
      rfl
    have heard := (submits (letters 968) _).2 ⟨cut, by decide +kernel, rfl⟩
    rw [delivery.2 otherGroup] at heard
    cases heard

end MulticastWorker

end Pyzlc
