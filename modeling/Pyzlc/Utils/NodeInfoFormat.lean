import Mathlib.Algebra.Group.Int.Defs
import Pyzlc.Utils.NodeInfo

/-!
# The NodeInfo wire format

The reader of a node description never compares a string's length with what is left
of the data, so each string read is only sound in the sense of `Foundation.Reader`.
Behind every string, however, stands a checked fixed-width field, and counted lists
end in one or are empty behind their count.  Composing the three reader laws along
the wire order gives both inclusions between encoder and decoder at once.
-/

namespace Pyzlc

open Foundation BinWriter BinReader

/-! ## Formats of the fields -/

/-- One unsigned big-endian field. -/
def unsignedFormat (width : Nat) : Format UInt8 Int :=
  fun value bytes => packUnsigned width value = .ok bytes

/-- UTF-8 text filling exactly the given number of bytes. -/
def fixedStringFormat (length : Nat) : Format UInt8 Text :=
  fun text bytes => encodeUtf8 text = .ok bytes ∧ bytes.length = length

/-- A 16-bit length and a text of that length. -/
def stringFormat : Format UInt8 Text :=
  (unsignedFormat 2).bind fun length => fixedStringFormat length.toNat

/-- A socket of a node with the given address, which is not on the wire. -/
def socketInfoFormat (ip : Text) : Format UInt8 SocketInfo :=
  stringFormat.bind fun name => (unsignedFormat 2).bind fun port =>
    Format.pure { name := name, ip := ip, port := port }

/-- A counted list of sockets. -/
def socketsFormat (ip : Text) : Format UInt8 (List SocketInfo) :=
  (unsignedFormat 2).bind fun count => (socketInfoFormat ip).times count.toNat

def nodeInfoFormat : Format UInt8 NodeInfo :=
  (fixedStringFormat 36).bind fun nodeId => (unsignedFormat 4).bind fun infoId =>
    stringFormat.bind fun name => stringFormat.bind fun ip =>
      (socketsFormat ip).bind fun topics => (socketsFormat ip).bind fun services =>
        Format.pure {
          nodeID := nodeId, infoID := infoId, name := name, ip := ip,
          topics := topics, services := services }

/-! ## The readers follow the formats -/

theorem packUnsigned_eq_ok {width : Nat} {value : Int} {bytes : Bytes} :
    packUnsigned width value = .ok bytes ↔
      0 ≤ value ∧ value.toNat < 256 ^ width ∧ BigEndian.pack width value.toNat = bytes := by
  unfold packUnsigned
  split
  next fits => simp [fits]
  next outside =>
    simp only [reduceCtorEq, false_iff]
    intro holds
    exact outside ⟨holds.1, holds.2.1⟩

theorem length_of_packUnsigned {width : Nat} {value : Int} {bytes : Bytes}
    (packed : packUnsigned width value = .ok bytes) : bytes.length = width := by
  rw [← (packUnsigned_eq_ok.1 packed).2.2, BigEndian.length_pack]

theorem complete_readUnsigned (width : Nat) :
    Reader.Complete (unsignedFormat width) (readUnsigned width) := by
  intro value bytes packed before behind
  have length := length_of_packUnsigned packed
  rcases packUnsigned_eq_ok.1 packed with ⟨nonneg, fits, rfl⟩
  have within : before.length + width ≤
      (before ++ BigEndian.pack width value.toNat ++ behind).length := by simp
  have field : ((before ++ BigEndian.pack width value.toNat ++ behind).drop before.length).take
      width = BigEndian.pack width value.toNat := by
    rw [List.append_assoc, List.drop_left]
    exact List.take_left' length
  apply Reader.readAt_field_eq_ok.2
  rw [unpackUnsignedFrom, if_pos within, field, BigEndian.unpack_pack fits,
    Int.toNat_of_nonneg nonneg, length]
  exact ⟨rfl, rfl⟩

/-- What a successful fixed-width read has seen. -/
theorem readAt_readUnsigned {width : Nat} {data : Bytes} {pos next : Nat} {value : Int}
    (read : (readUnsigned width).readAt data pos = .ok (value, next)) :
    pos + width ≤ data.length ∧ next = pos + width ∧
      value = BigEndian.unpack ((data.drop pos).take width) := by
  rcases Reader.readAt_field_eq_ok.1 read with ⟨unpacked, rfl⟩
  unfold unpackUnsignedFrom at unpacked
  split at unpacked
  next within =>
    cases unpacked
    exact ⟨within, rfl, rfl⟩
  next => cases unpacked

theorem checked_readUnsigned (width : Nat) : Reader.Checked (readUnsigned width) := by
  intro data pos value next read
  rcases readAt_readUnsigned read with ⟨within, rfl, -⟩
  exact within

theorem sound_readUnsigned (width : Nat) :
    Reader.Sound (unsignedFormat width) (readUnsigned width) := by
  intro data pos value next read
  rcases readAt_readUnsigned read with ⟨within, rfl, rfl⟩
  refine ⟨Nat.le_add_right _ _, fun _ => ?_⟩
  have sliceEq : Reader.slice data pos (pos + width) = (data.drop pos).take width := by
    rw [Reader.slice, Nat.add_sub_cancel_left]
  have length : ((data.drop pos).take width).length = width := by
    rw [List.length_take, List.length_drop]
    omega
  have bound := BigEndian.unpack_lt ((data.drop pos).take width)
  rw [length] at bound
  rw [sliceEq]
  apply packUnsigned_eq_ok.2
  rw [Int.toNat_natCast]
  refine ⟨Int.natCast_nonneg _, bound, ?_⟩
  have packed := BigEndian.pack_unpack ((data.drop pos).take width)
  rwa [length] at packed

theorem complete_readFixedString (length : Nat) :
    Reader.Complete (fixedStringFormat length) (readFixedString length) := by
  intro text bytes encoded before behind
  rcases encoded with ⟨encodedText, rfl⟩
  have field : ((before ++ bytes ++ behind).drop before.length).take bytes.length = bytes := by
    rw [List.append_assoc, List.drop_left, List.take_left]
  have decoded : decodeUtf8 bytes = .ok text :=
    decodeUtf8_eq_ok.2 (encodeUtf8_eq_ok.1 encodedText)
  apply Reader.readAt_field_eq_ok.2
  rw [field]
  exact ⟨decoded, rfl⟩

theorem sound_readFixedString (length : Nat) :
    Reader.Sound (fixedStringFormat length) (readFixedString length) := by
  intro data pos text next read
  rcases Reader.readAt_field_eq_ok.1 read with ⟨decoded, rfl⟩
  refine ⟨Nat.le_add_right _ _, fun within => ?_⟩
  have sliceEq : Reader.slice data pos (pos + length) = (data.drop pos).take length := by
    rw [Reader.slice, Nat.add_sub_cancel_left]
  rw [sliceEq]
  refine ⟨encodeUtf8_eq_ok.2 (decodeUtf8_eq_ok.1 decoded), ?_⟩
  rw [List.length_take, List.length_drop]
  omega

theorem complete_readString : Reader.Complete stringFormat readString :=
  Reader.complete_bind (complete_readUnsigned 2) fun _ => complete_readFixedString _

theorem sound_readString : Reader.Sound stringFormat readString :=
  Reader.sound_bind (sound_readUnsigned 2) fun _ => sound_readFixedString _

theorem complete_decodeSocketInfo (ip : Text) :
    Reader.Complete (socketInfoFormat ip) (decodeSocketInfo ip) :=
  Reader.complete_bind complete_readString fun _ =>
    Reader.complete_bind (complete_readUnsigned 2) fun _ => Reader.complete_pure _

theorem sound_decodeSocketInfo (ip : Text) :
    Reader.Sound (socketInfoFormat ip) (decodeSocketInfo ip) :=
  Reader.sound_bind sound_readString fun _ =>
    Reader.sound_bind (sound_readUnsigned 2) fun _ => Reader.sound_pure _

/-- The port behind the name checks the name. -/
theorem checked_decodeSocketInfo (ip : Text) : Reader.Checked (decodeSocketInfo ip) :=
  Reader.checked_bind fun _ =>
    Reader.checked_bind_of_bounded (checked_readUnsigned 2) fun _ => Reader.bounded_pure _

/-- A counted list of sockets, as the decoder's two loops read it. -/
def readSockets (ip : Text) : BinReader (List SocketInfo) := do
  let count ← readU16
  (decodeSocketInfo ip).times count.toNat

theorem complete_readSockets (ip : Text) :
    Reader.Complete (socketsFormat ip) (readSockets ip) :=
  Reader.complete_bind (complete_readUnsigned 2) fun _ =>
    Reader.complete_times (complete_decodeSocketInfo ip) _

theorem sound_readSockets (ip : Text) : Reader.Sound (socketsFormat ip) (readSockets ip) :=
  Reader.sound_bind (sound_readUnsigned 2) fun _ =>
    Reader.sound_times (sound_decodeSocketInfo ip) _

theorem checked_readSockets (ip : Text) : Reader.Checked (readSockets ip) :=
  Reader.checked_bind_of_bounded (checked_readUnsigned 2) fun _ =>
    Reader.bounded_times (checked_decodeSocketInfo ip).bounded _

theorem nodeInfoReader_eq : nodeInfoReader = (do
    let nodeId ← readFixedString 36
    let infoId ← readU32
    let name ← readString
    let ip ← readString
    let topics ← readSockets ip
    let services ← readSockets ip
    return {
      nodeID := nodeId, infoID := infoId, name := name, ip := ip,
      topics := topics, services := services }) := by
  simp only [nodeInfoReader, readSockets, bind_assoc]

theorem complete_nodeInfoReader : Reader.Complete nodeInfoFormat nodeInfoReader := by
  rw [nodeInfoReader_eq]
  exact Reader.complete_bind (complete_readFixedString 36) fun _ =>
    Reader.complete_bind (complete_readUnsigned 4) fun _ =>
      Reader.complete_bind complete_readString fun _ =>
        Reader.complete_bind complete_readString fun ip =>
          Reader.complete_bind (complete_readSockets ip) fun _ =>
            Reader.complete_bind (complete_readSockets ip) fun _ => Reader.complete_pure _

theorem sound_nodeInfoReader : Reader.Sound nodeInfoFormat nodeInfoReader := by
  rw [nodeInfoReader_eq]
  exact Reader.sound_bind (sound_readFixedString 36) fun _ =>
    Reader.sound_bind (sound_readUnsigned 4) fun _ =>
      Reader.sound_bind sound_readString fun _ =>
        Reader.sound_bind sound_readString fun ip =>
          Reader.sound_bind (sound_readSockets ip) fun _ =>
            Reader.sound_bind (sound_readSockets ip) fun _ => Reader.sound_pure _

/-- The counted services at the end check everything before them. -/
theorem checked_nodeInfoReader : Reader.Checked nodeInfoReader := by
  rw [nodeInfoReader_eq]
  apply Reader.checked_bind
  intro nodeId
  apply Reader.checked_bind
  intro infoId
  apply Reader.checked_bind
  intro name
  apply Reader.checked_bind
  intro ip
  apply Reader.checked_bind
  intro topics
  apply Reader.checked_bind_of_bounded (checked_readSockets ip)
  intro services
  exact Reader.bounded_pure _

/-! ## The writers produce the formats -/

/-- The bytes `write_string` appends. -/
def stringBytes (text : Text) : Except PyError Bytes := do
  let bytes ← encodeUtf8 text
  let head ← packUnsigned 2 bytes.length
  .ok (head ++ bytes)

/-- The bytes `encode_socket_info_to` appends. -/
def socketInfoBytes (info : SocketInfo) : Except PyError Bytes := do
  let head ← stringBytes info.name
  let tail ← packUnsigned 2 info.port
  .ok (head ++ tail)

theorem appends_writeString (text : Text) :
    Writer.Appends (writeString text) (stringBytes text) := by
  apply Writer.appends_of_except
  intro bytes
  exact Writer.appends_bind (Writer.appends_extend _) (Writer.appends_extend (.ok bytes))

theorem appends_encodeSocketInfoTo (info : SocketInfo) :
    Writer.Appends (encodeSocketInfoTo info) (socketInfoBytes info) :=
  Writer.appends_bind (appends_writeString info.name) (Writer.appends_extend _)

/-- The bytes of a counted list of sockets. -/
def socketsBytes (infos : List SocketInfo) : Except PyError Bytes := do
  let count ← packUnsigned 2 infos.length
  let sockets ← Format.encodeAll socketInfoBytes infos
  .ok (count ++ sockets)

/-- A counted list of sockets, as the encoder's two loops write it. -/
def writeSockets (infos : List SocketInfo) : BinWriter Unit := do
  writeU16 infos.length
  forM infos encodeSocketInfoTo

theorem appends_writeSockets (infos : List SocketInfo) :
    Writer.Appends (writeSockets infos) (socketsBytes infos) :=
  Writer.appends_bind (Writer.appends_extend _)
    (Writer.appends_forM appends_encodeSocketInfoTo infos)

/-- The bytes `encode_node_info` returns, nested as the writes follow each other. -/
def nodeInfoBytes (info : NodeInfo) : Except PyError Bytes := do
  let nodeId ← encodeUtf8 info.nodeID
  let tail ← (do
    let infoId ← packUnsigned 4 info.infoID
    let tail ← (do
      let name ← stringBytes info.name
      let tail ← (do
        let ip ← stringBytes info.ip
        let tail ← (do
          let topics ← socketsBytes info.topics
          let services ← socketsBytes info.services
          .ok (topics ++ services))
        .ok (ip ++ tail))
      .ok (name ++ tail))
    .ok (infoId ++ tail))
  .ok (nodeId ++ tail)

theorem encodeNodeInfoTo_eq (info : NodeInfo) : encodeNodeInfoTo info = (do
    writeFixedString info.nodeID 36
    writeU32 info.infoID
    writeString info.name
    writeString info.ip
    writeSockets info.topics
    writeSockets info.services) := by
  simp only [encodeNodeInfoTo, writeSockets, bind_assoc]

theorem appends_encodeNodeInfoTo (info : NodeInfo) :
    Writer.Appends (encodeNodeInfoTo info) (nodeInfoBytes info) := by
  rw [encodeNodeInfoTo_eq]
  apply Writer.appends_bind (Writer.appends_extend _)
  apply Writer.appends_bind (Writer.appends_extend _)
  apply Writer.appends_bind (appends_writeString info.name)
  apply Writer.appends_bind (appends_writeString info.ip)
  exact Writer.appends_bind (appends_writeSockets info.topics)
    (appends_writeSockets info.services)

theorem encodeNodeInfo_eq (info : NodeInfo) : encodeNodeInfo info = nodeInfoBytes info := by
  rw [encodeNodeInfo, appends_encodeNodeInfoTo info []]
  cases nodeInfoBytes info <;> rfl

theorem stringFormat_iff (text : Text) (bytes : Bytes) :
    stringFormat text bytes ↔ stringBytes text = .ok bytes := by
  simp only [stringFormat, Format.bind, unsignedFormat, fixedStringFormat, stringBytes,
    except_bind_eq_ok]
  constructor
  · rintro ⟨length, head, body, packed, ⟨encoded, bodyLength⟩, rfl⟩
    have nonneg := (packUnsigned_eq_ok.1 packed).1
    have lengthEq : (body.length : Int) = length := by
      rw [bodyLength, Int.toNat_of_nonneg nonneg]
    exact ⟨body, encoded, head, lengthEq ▸ packed, rfl⟩
  · rintro ⟨body, encoded, head, packed, joined⟩
    cases joined
    exact ⟨body.length, head, body, packed, ⟨encoded, (Int.toNat_natCast _).symm⟩, rfl⟩

theorem socketInfoFormat_iff (ip : Text) (info : SocketInfo) (bytes : Bytes) :
    socketInfoFormat ip info bytes ↔ info.ip = ip ∧ socketInfoBytes info = .ok bytes := by
  simp only [socketInfoFormat, Format.bind, Format.pure, unsignedFormat, socketInfoBytes,
    stringFormat_iff, except_bind_eq_ok]
  constructor
  · rintro ⟨name, head, tail, named, ⟨port, middle, last, packed, ⟨rfl, rfl⟩, rfl⟩, rfl⟩
    exact ⟨rfl, head, named, middle, packed, by simp⟩
  · rintro ⟨rfl, head, named, tail, packed, joined⟩
    cases joined
    exact ⟨info.name, head, tail, named, ⟨info.port, tail, [], packed, ⟨rfl, rfl⟩, by simp⟩, rfl⟩

theorem socketsFormat_iff (ip : Text) (infos : List SocketInfo) (bytes : Bytes) :
    socketsFormat ip infos bytes ↔
      (∀ info ∈ infos, info.ip = ip) ∧ socketsBytes infos = .ok bytes := by
  simp only [socketsFormat, Format.bind, unsignedFormat, socketsBytes, except_bind_eq_ok,
    Format.times_iff (socketInfoFormat_iff ip)]
  constructor
  · rintro ⟨count, head, body, packed, ⟨length, atIp, encoded⟩, rfl⟩
    have nonneg := (packUnsigned_eq_ok.1 packed).1
    have countEq : (infos.length : Int) = count := by
      rw [length, Int.toNat_of_nonneg nonneg]
    exact ⟨atIp, head, countEq ▸ packed, body, encoded, rfl⟩
  · rintro ⟨atIp, head, packed, body, encoded, joined⟩
    cases joined
    exact ⟨infos.length, head, body, packed, ⟨(Int.toNat_natCast _).symm, atIp, encoded⟩, rfl⟩

/-- Every socket of a node carries the node's address. -/
def NodeInfo.SocketsAtNode (info : NodeInfo) : Prop :=
  (∀ topic ∈ info.topics, topic.ip = info.ip) ∧
    ∀ service ∈ info.services, service.ip = info.ip

/-- The format is what the encoder produces from a 36-byte identifier and sockets at
the node's address; every other limit is a range check of the encoder itself. -/
theorem nodeInfoFormat_iff (info : NodeInfo) (bytes : Bytes) :
    nodeInfoFormat info bytes ↔
      (∃ nodeId, encodeUtf8 info.nodeID = .ok nodeId ∧ nodeId.length = 36) ∧
        info.SocketsAtNode ∧ encodeNodeInfo info = .ok bytes := by
  rw [encodeNodeInfo_eq]
  simp only [nodeInfoFormat, Format.bind, Format.pure, unsignedFormat, fixedStringFormat,
    nodeInfoBytes, stringFormat_iff, socketsFormat_iff, except_bind_eq_ok]
  constructor
  · rintro ⟨nodeId, idBytes, _, ⟨idEncoded, idLength⟩, ⟨infoId, infoBytes, _, infoPacked,
      ⟨name, nameBytes, _, nameEncoded, ⟨ip, ipBytes, _, ipEncoded,
      ⟨topics, topicsBytes, _, ⟨topicsAt, topicsEncoded⟩,
      ⟨services, servicesBytes, _, ⟨servicesAt, servicesEncoded⟩, ⟨rfl, rfl⟩, rfl⟩, rfl⟩,
      rfl⟩, rfl⟩, rfl⟩, rfl⟩
    rw [List.append_nil]
    exact ⟨⟨idBytes, idEncoded, idLength⟩, ⟨topicsAt, servicesAt⟩,
      idBytes, idEncoded, _, ⟨infoBytes, infoPacked, _, ⟨nameBytes, nameEncoded, _,
        ⟨ipBytes, ipEncoded, _, ⟨topicsBytes, topicsEncoded, servicesBytes, servicesEncoded,
        rfl⟩, rfl⟩, rfl⟩, rfl⟩, rfl⟩
  · rintro ⟨⟨idBytes, idEncoded, idLength⟩, ⟨topicsAt, servicesAt⟩,
      _, idEncoded', _, ⟨infoBytes, infoPacked, _, ⟨nameBytes, nameEncoded, _,
        ⟨ipBytes, ipEncoded, _, ⟨topicsBytes, topicsEncoded, servicesBytes, servicesEncoded,
        servicesJoined⟩, ipJoined⟩, nameJoined⟩, infoJoined⟩, joined⟩
    cases servicesJoined
    cases ipJoined
    cases nameJoined
    cases infoJoined
    cases joined
    cases idEncoded.symm.trans idEncoded'
    exact ⟨info.nodeID, idBytes, _, ⟨idEncoded, idLength⟩, ⟨info.infoID, infoBytes, _,
      infoPacked, ⟨info.name, nameBytes, _, nameEncoded, ⟨info.ip, ipBytes, _, ipEncoded,
      ⟨info.topics, topicsBytes, _, ⟨topicsAt, topicsEncoded⟩, ⟨info.services, servicesBytes,
      [], ⟨servicesAt, servicesEncoded⟩, ⟨rfl, rfl⟩, (List.append_nil _).symm⟩, rfl⟩, rfl⟩,
      rfl⟩, rfl⟩, rfl⟩

/-! ## Round trip and rejection -/

/-- What the format can represent. -/
structure NodeInfo.Encodable (info : NodeInfo) : Prop where
  nodeID : ∃ bytes, info.nodeID.encode = some bytes ∧ bytes.length = 36
  infoID : 0 ≤ info.infoID ∧ info.infoID < 2 ^ 32
  name : ∃ bytes, info.name.encode = some bytes ∧ bytes.length ≤ 65535
  ip : ∃ bytes, info.ip.encode = some bytes ∧ bytes.length ≤ 65535
  topics_length : info.topics.length ≤ 65535
  services_length : info.services.length ≤ 65535
  sockets : ∀ socket ∈ info.topics ++ info.services,
    (∃ bytes, socket.name.encode = some bytes ∧ bytes.length ≤ 65535) ∧
      0 ≤ socket.port ∧ socket.port ≤ 65535 ∧ socket.ip = info.ip

theorem exists_packUnsigned (width : Nat) (value : Int) :
    (∃ bytes, packUnsigned width value = .ok bytes) ↔
      0 ≤ value ∧ value.toNat < 256 ^ width := by
  simp only [packUnsigned_eq_ok]
  constructor
  · rintro ⟨bytes, nonneg, fits, -⟩
    exact ⟨nonneg, fits⟩
  · rintro ⟨nonneg, fits⟩
    exact ⟨_, nonneg, fits, rfl⟩

theorem exists_stringBytes {text : Text} :
    (∃ bytes, stringBytes text = .ok bytes) ↔
      ∃ bytes, text.encode = some bytes ∧ bytes.length ≤ 65535 := by
  simp only [stringBytes, except_bind_eq_ok, encodeUtf8_eq_ok]
  constructor
  · rintro ⟨_, bytes, encoded, head, packed, -⟩
    have fits := (packUnsigned_eq_ok.1 packed).2.1
    exact ⟨bytes, encoded, by omega⟩
  · rintro ⟨bytes, encoded, short⟩
    rcases (exists_packUnsigned 2 bytes.length).2
      ⟨by omega, by omega⟩ with ⟨head, packed⟩
    exact ⟨head ++ bytes, bytes, encoded, head, packed, rfl⟩

theorem exists_socketInfoBytes {info : SocketInfo} :
    (∃ bytes, socketInfoBytes info = .ok bytes) ↔
      (∃ bytes, info.name.encode = some bytes ∧ bytes.length ≤ 65535) ∧
        0 ≤ info.port ∧ info.port ≤ 65535 := by
  rw [← exists_stringBytes]
  simp only [socketInfoBytes, except_bind_eq_ok]
  constructor
  · rintro ⟨_, name, named, port, packed, -⟩
    have range := packUnsigned_eq_ok.1 packed
    exact ⟨⟨name, named⟩, range.1, by omega⟩
  · rintro ⟨⟨name, named⟩, nonneg, fits⟩
    rcases (exists_packUnsigned 2 info.port).2
      ⟨nonneg, by omega⟩ with ⟨port, packed⟩
    exact ⟨name ++ port, name, named, port, packed, rfl⟩

theorem exists_socketsBytes {infos : List SocketInfo} :
    (∃ bytes, socketsBytes infos = .ok bytes) ↔
      infos.length ≤ 65535 ∧ ∀ info ∈ infos, ∃ bytes, socketInfoBytes info = .ok bytes := by
  rw [← Format.exists_encodeAll]
  simp only [socketsBytes, except_bind_eq_ok]
  constructor
  · rintro ⟨_, count, packed, sockets, encoded, -⟩
    have range := packUnsigned_eq_ok.1 packed
    exact ⟨by omega, sockets, encoded⟩
  · rintro ⟨short, sockets, encoded⟩
    rcases (exists_packUnsigned 2 infos.length).2
      ⟨by omega, by omega⟩ with ⟨count, packed⟩
    exact ⟨count ++ sockets, count, packed, sockets, encoded, rfl⟩

/-- The encoder's own range checks, for a node whose sockets are at its address and
whose identifier fills its field, are exactly the limits of the format. -/
theorem NodeInfo.encodable_iff (info : NodeInfo) :
    info.Encodable ↔ ∃ bytes, nodeInfoFormat info bytes := by
  simp only [nodeInfoFormat_iff, encodeNodeInfo_eq, nodeInfoBytes, except_bind_eq_ok,
    encodeUtf8_eq_ok]
  constructor
  · intro encodable
    rcases encodable.nodeID with ⟨idBytes, idEncoded, idLength⟩
    rcases (exists_packUnsigned 4 info.infoID).2
      ⟨encodable.infoID.1, by have := encodable.infoID; omega⟩ with ⟨infoBytes, infoPacked⟩
    rcases exists_stringBytes.2 encodable.name with ⟨nameBytes, nameEncoded⟩
    rcases exists_stringBytes.2 encodable.ip with ⟨ipBytes, ipEncoded⟩
    have each : ∀ socket ∈ info.topics ++ info.services,
        ∃ bytes, socketInfoBytes socket = .ok bytes := by
      intro socket member
      have limits := encodable.sockets socket member
      exact exists_socketInfoBytes.2 ⟨limits.1, limits.2.1, limits.2.2.1⟩
    rcases exists_socketsBytes.2 ⟨encodable.topics_length, fun socket member =>
      each socket (List.mem_append_left _ member)⟩ with ⟨topicsBytes, topicsEncoded⟩
    rcases exists_socketsBytes.2 ⟨encodable.services_length, fun socket member =>
      each socket (List.mem_append_right _ member)⟩ with ⟨servicesBytes, servicesEncoded⟩
    exact ⟨_, ⟨idBytes, idEncoded, idLength⟩,
      ⟨fun socket member => (encodable.sockets socket (List.mem_append_left _ member)).2.2.2,
        fun socket member => (encodable.sockets socket (List.mem_append_right _ member)).2.2.2⟩,
      idBytes, idEncoded, _, ⟨infoBytes, infoPacked, _, ⟨nameBytes, nameEncoded, _,
        ⟨ipBytes, ipEncoded, _, ⟨topicsBytes, topicsEncoded, servicesBytes, servicesEncoded,
        rfl⟩, rfl⟩, rfl⟩, rfl⟩, rfl⟩
  · rintro ⟨_, ⟨idBytes, idEncoded, idLength⟩, ⟨topicsAt, servicesAt⟩,
      _, _, _, ⟨infoBytes, infoPacked, _, ⟨nameBytes, nameEncoded, _,
        ⟨ipBytes, ipEncoded, _, ⟨topicsBytes, topicsEncoded, servicesBytes, servicesEncoded,
        _⟩, _⟩, _⟩, _⟩, _⟩
    have infoRange := packUnsigned_eq_ok.1 infoPacked
    have topicsRange := exists_socketsBytes.1 ⟨topicsBytes, topicsEncoded⟩
    have servicesRange := exists_socketsBytes.1 ⟨servicesBytes, servicesEncoded⟩
    refine ⟨⟨idBytes, idEncoded, idLength⟩, ⟨infoRange.1, by omega⟩,
      exists_stringBytes.1 ⟨nameBytes, nameEncoded⟩, exists_stringBytes.1 ⟨ipBytes, ipEncoded⟩,
      topicsRange.1, servicesRange.1, ?_⟩
    intro socket member
    rcases List.mem_append.1 member with topic | service
    · have limits := exists_socketInfoBytes.1 (topicsRange.2 socket topic)
      exact ⟨limits.1, limits.2.1, limits.2.2, topicsAt socket topic⟩
    · have limits := exists_socketInfoBytes.1 (servicesRange.2 socket service)
      exact ⟨limits.1, limits.2.1, limits.2.2, servicesAt socket service⟩

/-- Both directions of the NodeInfo format.  Encodable values survive the trip with
any bytes behind them; whatever is decoded was encoded there, inside the data, and
no strict prefix of it is accepted. -/
theorem nodeInfo_format :
    (∀ info : NodeInfo, info.Encodable → ∀ behind : Bytes,
      ∃ bytes, encodeNodeInfo info = .ok bytes ∧
        decodeNodeInfoAt (bytes ++ behind) = .ok (info, bytes.length)) ∧
    (∀ (data : Bytes) (info : NodeInfo) (pos : Nat),
      decodeNodeInfoAt data = .ok (info, pos) →
        pos ≤ data.length ∧ info.Encodable ∧
        encodeNodeInfo info = .ok (data.take pos) ∧
        ∀ length < pos, ∃ error, decodeNodeInfo (data.take length) = .error error) := by
  constructor
  · intro info encodable behind
    rcases (NodeInfo.encodable_iff info).1 encodable with ⟨bytes, encoded⟩
    refine ⟨bytes, ((nodeInfoFormat_iff info bytes).1 encoded).2.2, ?_⟩
    have read := complete_nodeInfoReader info bytes encoded [] behind
    simpa [decodeNodeInfoAt] using read
  · intro data info pos decoded
    have within := checked_nodeInfoReader _ _ _ _ decoded
    have encoded := (sound_nodeInfoReader _ _ _ _ decoded).2 within
    rw [show Reader.slice data 0 pos = data.take pos by simp [Reader.slice]] at encoded
    refine ⟨within, (NodeInfo.encodable_iff info).2 ⟨_, encoded⟩,
      ((nodeInfoFormat_iff info _).1 encoded).2.2, ?_⟩
    intro length shorter
    have rejected := Reader.readAt_take_of_lt complete_nodeInfoReader sound_nodeInfoReader
      checked_nodeInfoReader decoded shorter
    cases outcome : decodeNodeInfoAt (data.take length) with
    | ok read => exact absurd outcome (rejected read)
    | error error => exact ⟨error, by rw [decodeNodeInfo, outcome]; rfl⟩

/-- A node with one topic and one service. -/
def NodeInfo.sample : NodeInfo where
  nodeID := "123e4567-e89b-12d3-a456-426614174000"
  infoID := 2
  name := "caméra"
  ip := "192.168.0.7"
  topics := [{ name := "image", ip := "192.168.0.7", port := 65535 }]
  services := [{ name := "get_node_info", ip := "192.168.0.7", port := 0 }]

theorem NodeInfo.sample_encodable : NodeInfo.sample.Encodable where
  nodeID := ⟨_, rfl, by decide⟩
  infoID := by decide
  name := ⟨_, rfl, by decide⟩
  ip := ⟨_, rfl, by decide⟩
  topics_length := by decide
  services_length := by decide
  sockets := by
    intro socket member
    rcases List.mem_cons.1 member with rfl | member
    · exact ⟨⟨_, rfl, by decide⟩, by decide, by decide, rfl⟩
    · rcases List.mem_singleton.1 member with rfl
      exact ⟨⟨_, rfl, by decide⟩, by decide, by decide, rfl⟩

theorem nodeInfo_format_sample :
    ∃ bytes, encodeNodeInfo NodeInfo.sample = .ok bytes ∧
      decodeNodeInfoAt (bytes ++ [7]) = .ok (NodeInfo.sample, bytes.length) ∧
      ∀ length < bytes.length,
        ∃ error, decodeNodeInfo ((bytes ++ [7]).take length) = .error error := by
  rcases nodeInfo_format.1 NodeInfo.sample NodeInfo.sample_encodable [7] with
    ⟨bytes, encoded, decoded⟩
  exact ⟨bytes, encoded, decoded, (nodeInfo_format.2 _ _ _ decoded).2.2.2⟩

/-! ## Identifiers that do not fill their field -/

/-- The identifier takes up its whole field. -/
def NodeInfo.FillsIdField (info : NodeInfo) : Prop :=
  ∃ nodeId, encodeUtf8 info.nodeID = .ok nodeId ∧ nodeId.length = 36

/-- The encoder raises, or its bytes are mapped back to the value. -/
def NodeInfo.RaisesOrSurvives (info : NodeInfo) : Prop :=
  ∀ bytes, encodeNodeInfo info = .ok bytes → decodeNodeInfo bytes = .ok info

theorem decodeNodeInfo_of_fills {info : NodeInfo} {bytes : Bytes} (atNode : info.SocketsAtNode)
    (fills : info.FillsIdField) (encoded : encodeNodeInfo info = .ok bytes) :
    decodeNodeInfo bytes = .ok info := by
  have format := (nodeInfoFormat_iff info bytes).2 ⟨fills, atNode, encoded⟩
  have read := complete_nodeInfoReader info bytes format [] []
  rw [List.nil_append, List.append_nil] at read
  rw [decodeNodeInfo, decodeNodeInfoAt]
  exact congrArg (Except.map Prod.fst) read

theorem fills_of_decodeNodeInfo {info : NodeInfo} {bytes : Bytes}
    (decoded : decodeNodeInfo bytes = .ok info) : info.FillsIdField := by
  rw [decodeNodeInfo] at decoded
  cases read : decodeNodeInfoAt bytes with
  | error error =>
      rw [read] at decoded
      cases decoded
  | ok found =>
      rw [read] at decoded
      cases decoded
      have within := checked_nodeInfoReader _ _ _ _ read
      have format := (sound_nodeInfoReader _ _ _ _ read).2 within
      exact ((nodeInfoFormat_iff _ _).1 format).1

/-- What the encoder returns for a node whose sockets are at its address is mapped back to
it if and only if its identifier fills the field it is written to. -/
theorem raisesOrSurvives_iff (info : NodeInfo) (atNode : info.SocketsAtNode) :
    info.RaisesOrSurvives ↔ ∀ bytes, encodeNodeInfo info = .ok bytes → info.FillsIdField := by
  constructor
  · intro survives bytes encoded
    exact fills_of_decodeNodeInfo (survives bytes encoded)
  · intro fills bytes encoded
    exact decodeNodeInfo_of_fills atNode (fills bytes encoded) encoded

/-- The node with a topic and a service is encoded, and mapped back to itself. -/
theorem raisesOrSurvives_sample :
    (encodeNodeInfo NodeInfo.sample).toOption.isSome = true ∧
      NodeInfo.sample.RaisesOrSurvives := by
  refine ⟨by decide +kernel, ?_⟩
  apply (raisesOrSurvives_iff _ ⟨by decide +kernel, by decide +kernel⟩).2
  intro bytes _
  exact ⟨_, rfl, by decide⟩

/-- A node without sockets under a given identifier. -/
def NodeInfo.bare (nodeID : Text) : NodeInfo where
  nodeID := nodeID
  infoID := 0
  name := ""
  ip := ""
  topics := []
  services := []

/-- Four bytes too many are read as the version, and the bytes of the version as the lengths
that follow it. -/
theorem long_identifier_is_cut :
    (encodeNodeInfo (NodeInfo.bare "123e4567-e89b-12d3-a456-426614174000node")).toOption.map
        (fun bytes => (decodeNodeInfo bytes).toOption) =
      some (some { NodeInfo.bare "123e4567-e89b-12d3-a456-426614174000" with
        infoID := 1852793957 }) ∧
    ¬ (NodeInfo.bare "123e4567-e89b-12d3-a456-426614174000node").RaisesOrSurvives := by
  have cut : (encodeNodeInfo
        (NodeInfo.bare "123e4567-e89b-12d3-a456-426614174000node")).toOption.map
        (fun bytes => (decodeNodeInfo bytes).toOption) =
      some (some { NodeInfo.bare "123e4567-e89b-12d3-a456-426614174000" with
        infoID := 1852793957 }) := by
    decide +kernel
  constructor
  · exact cut
  · intro survives
    cases encoded : encodeNodeInfo
        (NodeInfo.bare "123e4567-e89b-12d3-a456-426614174000node") with
    | error error =>
        rw [encoded] at cut
        cases cut
    | ok bytes =>
        rw [encoded, Except.toOption, Option.map_some, survives bytes encoded] at cut
        exact absurd (congrArg (Option.map (Option.map NodeInfo.infoID)) cut) (by decide)

end Pyzlc
