import Pyzlc.Utils.Msg

/-!
# The heartbeat format

The node identifier is padded as bytes and stripped as text.  Both agree because NUL
is one byte in UTF-8 and the only character whose encoding begins with that byte.
-/

namespace Pyzlc

open Foundation

/-! ## The header -/

theorem packInt32_eq_ok {value : Int} {bytes : Bytes} :
    packInt32 value = .ok bytes ↔
      (-2147483648 ≤ value ∧ value ≤ 2147483647) ∧ BigEndian.packSigned 4 value = bytes := by
  unfold packInt32
  split
  next fits => simp [fits]
  next outside => simp [outside]

theorem length_of_packInt32 {value : Int} {bytes : Bytes} (packed : packInt32 value = .ok bytes) :
    bytes.length = 4 := by
  rw [← (packInt32_eq_ok.1 packed).2, BigEndian.length_packSigned]

theorem unpackSigned_of_packInt32 {value : Int} {bytes : Bytes}
    (packed : packInt32 value = .ok bytes) : BigEndian.unpackSigned bytes = value := by
  rcases packInt32_eq_ok.1 packed with ⟨range, rfl⟩
  exact BigEndian.unpackSigned_packSigned (by omega) (by omega)

/-- Any four bytes are the field of the integer they unpack to. -/
theorem packInt32_unpackSigned {bytes : Bytes} (length : bytes.length = 4) :
    packInt32 (BigEndian.unpackSigned bytes) = .ok bytes := by
  have range := BigEndian.unpackSigned_range bytes
  have packed := BigEndian.packSigned_unpackSigned bytes
  rw [length] at range packed
  exact packInt32_eq_ok.2 ⟨by omega, packed⟩

/-- What a packed header consists of. -/
theorem packHeader_eq_ok {zlcVersion : Int × Int × Int} {nodeId : Bytes}
    {infoId servicePort : Int} {header : Bytes} :
    packHeader zlcVersion nodeId infoId servicePort = .ok header ↔
      ∃ major, packInt32 zlcVersion.1 = .ok major ∧
      ∃ minor, packInt32 zlcVersion.2.1 = .ok minor ∧
      ∃ patch, packInt32 zlcVersion.2.2 = .ok patch ∧
      ∃ info, packInt32 infoId = .ok info ∧ ∃ port, packInt32 servicePort = .ok port ∧
        major ++ minor ++ patch ++ Padding.fit 0 36 nodeId ++ info ++ port = header := by
  simp only [packHeader, except_bind_eq_ok, pure, Except.pure, Except.ok.injEq]

theorem slice_take {data : Bytes} {pos width limit : Nat} (within : pos + width ≤ limit) :
    slice (data.take limit) pos width = slice data pos width := by
  rw [slice, slice, List.drop_take, List.take_take, Nat.min_eq_left (by omega)]

theorem length_slice {data : Bytes} {pos width : Nat} (within : pos + width ≤ data.length) :
    (slice data pos width).length = width := by
  rw [slice, List.length_take, List.length_drop]
  omega

/-- Adjacent slices join. -/
theorem take_append_slice (data : Bytes) (pos width : Nat) :
    data.take pos ++ slice data pos width = data.take (pos + width) := by
  rw [slice, List.take_add]

/-- A slice that starts and ends at the seams of an append. -/
theorem slice_append {before field behind : Bytes} {pos width : Nat}
    (start : before.length = pos) (size : field.length = width) :
    slice (before ++ (field ++ behind)) pos width = field := by
  rw [slice, ← start, ← size, List.drop_left, List.take_left]

/-- Unpacking reverses packing, the text field still padded. -/
theorem unpackHeader_packHeader {zlcVersion : Int × Int × Int} {nodeId : Bytes}
    {infoId servicePort : Int} {header : Bytes}
    (packed : packHeader zlcVersion nodeId infoId servicePort = .ok header) :
    unpackHeader header = .ok (zlcVersion, Padding.fit 0 36 nodeId, infoId, servicePort) := by
  rcases packHeader_eq_ok.1 packed with
    ⟨major, majorPacked, minor, minorPacked, patch, patchPacked, info, infoPacked,
      port, portPacked, rfl⟩
  have majorLength := length_of_packInt32 majorPacked
  have minorLength := length_of_packInt32 minorPacked
  have patchLength := length_of_packInt32 patchPacked
  have infoLength := length_of_packInt32 infoPacked
  have portLength := length_of_packInt32 portPacked
  have idLength := Padding.length_fit (0 : UInt8) 36 nodeId
  generalize Padding.fit 0 36 nodeId = field at idLength
  have whole : (major ++ minor ++ patch ++ field ++ info ++ port).length = 56 := by
    simp only [List.length_append]
    omega
  have seams : ∀ (pos : Nat) (before behind : Bytes) {part : Bytes} {width : Nat},
      before ++ (part ++ behind) = major ++ minor ++ patch ++ field ++ info ++ port →
      before.length = pos → part.length = width →
      slice (major ++ minor ++ patch ++ field ++ info ++ port) pos width = part := by
    intro pos before behind part width split start size
    rw [← split, slice_append start size]
  rw [unpackHeader, if_pos whole,
    seams 0 [] (minor ++ patch ++ field ++ info ++ port) (by simp) rfl majorLength,
    seams 4 major (patch ++ field ++ info ++ port) (by simp) majorLength minorLength,
    seams 8 (major ++ minor) (field ++ info ++ port) (by simp) (by simp [*]) patchLength,
    seams 12 (major ++ minor ++ patch) (info ++ port) (by simp) (by simp [*]) idLength,
    seams 48 (major ++ minor ++ patch ++ field) port (by simp) (by simp [*]) infoLength,
    seams 52 (major ++ minor ++ patch ++ field ++ info) [] (by simp) (by simp [*]) portLength,
    unpackSigned_of_packInt32 majorPacked, unpackSigned_of_packInt32 minorPacked,
    unpackSigned_of_packInt32 patchPacked, unpackSigned_of_packInt32 infoPacked,
    unpackSigned_of_packInt32 portPacked]

/-- Every 56 bytes are the header of what they unpack to. -/
theorem packHeader_unpackHeader {data : Bytes} (long : 56 ≤ data.length) {nodeId : Bytes}
    (padded : Padding.fit 0 36 nodeId = slice data 12 36) :
    packHeader (BigEndian.unpackSigned (slice data 0 4), BigEndian.unpackSigned (slice data 4 4),
        BigEndian.unpackSigned (slice data 8 4)) nodeId
      (BigEndian.unpackSigned (slice data 48 4)) (BigEndian.unpackSigned (slice data 52 4)) =
        .ok (data.take 56) := by
  have field : ∀ pos, pos + 4 ≤ 56 →
      packInt32 (BigEndian.unpackSigned (slice data pos 4)) = .ok (slice data pos 4) := by
    intro pos within
    exact packInt32_unpackSigned (length_slice (by omega))
  apply packHeader_eq_ok.2
  refine ⟨_, field 0 (by decide), _, field 4 (by decide), _, field 8 (by decide), _,
    field 48 (by decide), _, field 52 (by decide), ?_⟩
  rw [padded, show slice data 0 4 = data.take 4 from rfl, take_append_slice, take_append_slice,
    take_append_slice, take_append_slice, take_append_slice]

/-! ## The message -/

theorem toBytes_eq_ok {message : HeartbeatMessage} {data : Bytes} :
    message.toBytes = .ok data ↔
      ∃ nodeId, message.nodeId.encode = some nodeId ∧
      ∃ header, packHeader message.zlcVersion nodeId message.infoId message.servicePort =
        .ok header ∧
      ∃ groupName, message.groupName.encode = some groupName ∧ header ++ groupName = data := by
  simp only [HeartbeatMessage.toBytes, except_bind_eq_ok, encodeUtf8_eq_ok, pure, Except.pure,
    Except.ok.injEq]

theorem decodeHeartbeatMessage_eq_some {data : Bytes} {message : HeartbeatMessage} :
    decodeHeartbeatMessage data = some message ↔ parseHeartbeatMessage data = .ok message := by
  unfold decodeHeartbeatMessage
  cases parseHeartbeatMessage data <;> simp

/-- What an accepted datagram consists of. -/
theorem parseHeartbeatMessage_eq_ok {data : Bytes} {message : HeartbeatMessage} :
    parseHeartbeatMessage data = .ok message ↔
      56 ≤ data.length ∧ ∃ fields, unpackHeader (data.take 56) = .ok fields ∧
      ∃ nodeId, Text.encode nodeId = some fields.2.1 ∧
      ∃ groupName, Text.encode groupName = some (data.drop 56) ∧
        HeartbeatMessage.mk fields.1 (Padding.strip 0 nodeId) fields.2.2.1 fields.2.2.2
          groupName = message := by
  unfold parseHeartbeatMessage
  split
  next short =>
    simp only [reduceCtorEq, false_iff]
    intro holds
    omega
  next long =>
    simp only [except_bind_eq_ok, decodeUtf8_eq_ok, pure, Except.pure, Except.ok.injEq]
    exact ⟨fun holds => ⟨by omega, holds⟩, fun holds => holds.2⟩

theorem unpackHeader_take {data : Bytes} (long : 56 ≤ data.length) :
    unpackHeader (data.take 56) =
      .ok ((BigEndian.unpackSigned (slice data 0 4), BigEndian.unpackSigned (slice data 4 4),
          BigEndian.unpackSigned (slice data 8 4)),
        slice data 12 36, BigEndian.unpackSigned (slice data 48 4),
        BigEndian.unpackSigned (slice data 52 4)) := by
  have length : (data.take 56).length = 56 := by
    rw [List.length_take]
    omega
  rw [unpackHeader, if_pos length]
  iterate 6 rw [slice_take (by decide)]

/-- A message whose integers fit their fields and whose texts have an encoding, the
identifier's no longer than its field. -/
structure HeartbeatMessage.Encodable (message : HeartbeatMessage) : Prop where
  major : -2147483648 ≤ message.zlcVersion.1 ∧ message.zlcVersion.1 ≤ 2147483647
  minor : -2147483648 ≤ message.zlcVersion.2.1 ∧ message.zlcVersion.2.1 ≤ 2147483647
  patch : -2147483648 ≤ message.zlcVersion.2.2 ∧ message.zlcVersion.2.2 ≤ 2147483647
  infoId : -2147483648 ≤ message.infoId ∧ message.infoId ≤ 2147483647
  servicePort : -2147483648 ≤ message.servicePort ∧ message.servicePort ≤ 2147483647
  nodeId : ∃ bytes, message.nodeId.encode = some bytes ∧ bytes.length ≤ 36
  groupName : ∃ bytes, message.groupName.encode = some bytes

theorem HeartbeatMessage.Encodable.exists_toBytes {message : HeartbeatMessage}
    (encodable : message.Encodable) : ∃ data, message.toBytes = .ok data := by
  rcases encodable.nodeId with ⟨nodeId, idEncoded, -⟩
  rcases encodable.groupName with ⟨groupName, groupEncoded⟩
  have majorPacked := packInt32_eq_ok.2 ⟨encodable.major, rfl⟩
  have minorPacked := packInt32_eq_ok.2 ⟨encodable.minor, rfl⟩
  have patchPacked := packInt32_eq_ok.2 ⟨encodable.patch, rfl⟩
  have infoPacked := packInt32_eq_ok.2 ⟨encodable.infoId, rfl⟩
  have portPacked := packInt32_eq_ok.2 ⟨encodable.servicePort, rfl⟩
  have packed : ∃ header, packHeader message.zlcVersion nodeId message.infoId
      message.servicePort = .ok header :=
    ⟨_, packHeader_eq_ok.2
      ⟨_, majorPacked, _, minorPacked, _, patchPacked, _, infoPacked, _, portPacked, rfl⟩⟩
  rcases packed with ⟨header, packed⟩
  exact ⟨_, toBytes_eq_ok.2 ⟨nodeId, idEncoded, header, packed, groupName, groupEncoded, rfl⟩⟩

theorem length_header {zlcVersion : Int × Int × Int} {nodeId : Bytes}
    {infoId servicePort : Int} {header : Bytes}
    (packed : packHeader zlcVersion nodeId infoId servicePort = .ok header) :
    header.length = 56 := by
  have unpacked := unpackHeader_packHeader packed
  by_contra other
  rw [unpackHeader, if_neg other] at unpacked
  cases unpacked

/-- Bytes of a text that fill up a field decode to the text behind which NUL stands. -/
theorem encode_padded {text : Text} {bytes : Bytes} (encoded : text.encode = some bytes)
    (short : bytes.length ≤ 36) :
    Text.encode (text ++ List.replicate (36 - bytes.length) 0) =
      some (Padding.fit 0 36 bytes) := by
  rw [Padding.fit_of_le 0 short]
  exact Text.encode_append_eq_some_iff.2
    ⟨bytes, _, encoded, Text.encode_replicate_nul _, rfl⟩

/-- What comes back of a datagram is the message, its padded identifier stripped. -/
theorem decodeHeartbeatMessage_append {zlcVersion : Int × Int × Int} {nodeId groupName : Text}
    {infoId servicePort : Int} {idBytes header groupBytes : Bytes}
    (packed : packHeader zlcVersion idBytes infoId servicePort = .ok header)
    (idEncoded : nodeId.encode = some idBytes) (short : idBytes.length ≤ 36)
    (groupEncoded : groupName.encode = some groupBytes) :
    decodeHeartbeatMessage (header ++ groupBytes) =
      some (HeartbeatMessage.mk zlcVersion
        (Padding.strip 0 (nodeId ++ List.replicate (36 - idBytes.length) 0)) infoId servicePort
        groupName) := by
  have length := length_header packed
  apply decodeHeartbeatMessage_eq_some.2
  apply parseHeartbeatMessage_eq_ok.2
  rw [List.take_left' length, List.drop_left' length, List.length_append]
  exact ⟨by omega, _, unpackHeader_packHeader packed, _, encode_padded idEncoded short, _,
    groupEncoded, rfl⟩

theorem head?_slice (data : Bytes) (pos width : Nat) (positive : width ≠ 0) :
    (slice data pos width).head? = data[pos]? := by
  rw [slice, List.head?_take, if_neg positive, List.head?_drop]

/-- A text that begins with NUL is encoded from a NUL byte on. -/
theorem head?_encode_of_nul {text : Text} {bytes : Bytes} (encoded : text.encode = some bytes)
    (nul : text.head? = some 0) : bytes.head? = some 0 := by
  rcases List.head?_eq_some_iff.1 nul with ⟨rest, rfl⟩
  have split : [0] ++ rest = 0 :: rest := rfl
  rw [← split] at encoded
  rcases Text.encode_append_eq_some_iff.1 encoded with
    ⟨head, behind, headEncoded, -, rfl⟩
  cases headEncoded.symm.trans (Text.encode_replicate_nul 1)
  rfl

/-- Whatever is accepted with an identifier that does not begin with NUL is rebuilt. -/
theorem toBytes_of_decode {data : Bytes} {message : HeartbeatMessage}
    (decoded : decodeHeartbeatMessage data = some message) (first : data[12]? ≠ some 0) :
    message.toBytes = .ok data := by
  rcases parseHeartbeatMessage_eq_ok.1 (decodeHeartbeatMessage_eq_some.1 decoded) with
    ⟨long, fields, unpacked, nodeId, idEncoded, groupName, groupEncoded, rfl⟩
  rw [unpackHeader_take long] at unpacked
  cases unpacked
  change Text.encode nodeId = some (slice data 12 36) at idEncoded
  have begins : nodeId.head? ≠ some 0 := by
    intro nul
    apply first
    rw [← head?_slice data 12 36 (by decide)]
    exact head?_encode_of_nul idEncoded nul
  rcases Padding.exists_strip begins with ⟨count, split⟩
  rw [split] at idEncoded
  rcases Text.encode_append_eq_some_iff.1 idEncoded with
    ⟨idBytes, filling, idEncoded, fillingEncoded, padded⟩
  cases fillingEncoded.symm.trans (Text.encode_replicate_nul count)
  have filled : Padding.fit 0 36 idBytes = slice data 12 36 := by
    have lengths := congrArg List.length padded
    rw [List.length_append, List.length_replicate, length_slice (by omega)] at lengths
    rw [Padding.fit_of_le 0 (by omega), ← padded, show 36 - idBytes.length = count by omega]
  apply toBytes_eq_ok.2
  exact ⟨idBytes, idEncoded, _, packHeader_unpackHeader long filled, _, groupEncoded,
    List.take_append_drop 56 data⟩

/-- The bytes that are accepted. -/
theorem decodeHeartbeatMessage_isSome_iff (data : Bytes) :
    (∃ message, decodeHeartbeatMessage data = some message) ↔
      56 ≤ data.length ∧ (∃ nodeId : Text, Text.decode (slice data 12 36) = some nodeId) ∧
        ∃ groupName : Text, Text.decode (data.drop 56) = some groupName := by
  simp only [decodeHeartbeatMessage_eq_some, parseHeartbeatMessage_eq_ok, Text.decode_eq_some_iff]
  constructor
  · rintro ⟨message, long, fields, unpacked, nodeId, idEncoded, groupName, groupEncoded, rfl⟩
    rw [unpackHeader_take long] at unpacked
    cases unpacked
    exact ⟨long, ⟨nodeId, idEncoded⟩, groupName, groupEncoded⟩
  · rintro ⟨long, ⟨nodeId, idEncoded⟩, groupName, groupEncoded⟩
    exact ⟨_, long, _, unpackHeader_take long, nodeId, idEncoded, groupName, groupEncoded, rfl⟩

/-- An identifier that comes back: it has no NUL at its ends. -/
theorem decodeHeartbeatMessage_toBytes {message : HeartbeatMessage}
    (encodable : message.Encodable) (first : message.nodeId.head? ≠ some 0)
    (last : message.nodeId.getLast? ≠ some 0) :
    ∃ data, message.toBytes = .ok data ∧ decodeHeartbeatMessage data = some message := by
  rcases encodable.exists_toBytes with ⟨data, encoded⟩
  rcases toBytes_eq_ok.1 encoded with
    ⟨idBytes, idEncoded, header, packed, groupBytes, groupEncoded, rfl⟩
  rcases encodable.nodeId with ⟨bytes, bytesEncoded, short⟩
  cases bytesEncoded.symm.trans idEncoded
  refine ⟨_, encoded, ?_⟩
  rw [decodeHeartbeatMessage_append packed idEncoded short groupEncoded,
    Padding.strip_append_replicate _ first last]

/-- Both directions of the heartbeat format.  Encodable messages whose identifier has no
NUL at its ends survive the trip; what is accepted with an identifier that does not
begin with NUL was encoded so; and the accepted bytes are the ones that hold a header
and two UTF-8 texts. -/
theorem heartbeat_format :
    (∀ message : HeartbeatMessage, message.Encodable →
      message.nodeId.head? ≠ some 0 → message.nodeId.getLast? ≠ some 0 →
      ∃ data, message.toBytes = .ok data ∧ decodeHeartbeatMessage data = some message) ∧
    (∀ (data : Bytes) (message : HeartbeatMessage),
      decodeHeartbeatMessage data = some message → data[12]? ≠ some 0 →
      message.toBytes = .ok data) ∧
    (∀ data : Bytes, (∃ message, decodeHeartbeatMessage data = some message) ↔
      56 ≤ data.length ∧ (∃ nodeId, Text.decode (slice data 12 36) = some nodeId) ∧
        ∃ groupName, Text.decode (data.drop 56) = some groupName) :=
  ⟨fun _ => decodeHeartbeatMessage_toBytes, fun _ _ => toBytes_of_decode,
    decodeHeartbeatMessage_isSome_iff⟩

/-- A heartbeat with a negative field, an identifier that leaves room and a group name
outside ASCII. -/
def HeartbeatMessage.sample : HeartbeatMessage where
  zlcVersion := (1, 0, -3)
  nodeId := "node-7"
  infoId := 2147483647
  servicePort := 5555
  groupName := "café"

theorem HeartbeatMessage.sample_encodable : HeartbeatMessage.sample.Encodable where
  major := by decide
  minor := by decide
  patch := by decide
  infoId := by decide
  servicePort := by decide
  nodeId := ⟨_, rfl, by decide⟩
  groupName := ⟨_, rfl⟩

theorem heartbeat_format_sample :
    (∃ data, HeartbeatMessage.sample.toBytes = .ok data ∧
      decodeHeartbeatMessage data = some HeartbeatMessage.sample) ∧
    (HeartbeatMessage.mk (0, 0, 0) "a" 0 0 "").toBytes =
      .ok (List.replicate 12 0 ++ [97] ++ List.replicate 43 0) :=
  ⟨heartbeat_format.1 HeartbeatMessage.sample HeartbeatMessage.sample_encodable (by decide)
    (by decide), heartbeat_format.2.1 _ _ (by decide +kernel) (by decide)⟩

end Pyzlc
