import Pyzlc.Foundation.BigEndian
import Pyzlc.Foundation.Writer
import Pyzlc.Utils.Exception

/-!
# Node information and its binary codec

`SocketInfo` and `NodeInfo` are the typed dictionaries nodes exchange; the writer
and the reader are the ones of `node_info.py`, field by field in wire order.
-/

namespace Pyzlc

open Foundation

abbrev HashIdentifier := Text
abbrev TopicName := Text
abbrev ServiceName := Text

/-- Socket information structure. -/
structure SocketInfo where
  name : Text
  ip : Text
  port : Int
  deriving DecidableEq, Repr

/-- Node information structure. -/
structure NodeInfo where
  nodeID : HashIdentifier
  infoID : Int
  name : Text
  ip : Text
  topics : List SocketInfo
  services : List SocketInfo
  deriving DecidableEq, Repr

/-! ## Fixed-width unsigned fields -/

/-- `struct.pack` of one unsigned big-endian field of the given width. -/
def packUnsigned (width : Nat) (value : Int) : Except PyError Bytes :=
  if 0 ≤ value ∧ value.toNat < 256 ^ width then
    .ok (BigEndian.pack width value.toNat)
  else
    .error .structError

/-- `struct.unpack_from` of one unsigned big-endian field of the given width. -/
def unpackUnsignedFrom (width : Nat) (view : Bytes) (pos : Nat) : Except PyError Int :=
  if pos + width ≤ view.length then
    .ok (BigEndian.unpack ((view.drop pos).take width))
  else
    .error .structError

/-! ## BinWriter -/

/-- A method of `BinWriter`; the state is `buf`. -/
abbrev BinWriter (α : Type) := Writer UInt8 PyError α

namespace BinWriter

def writeU16 (value : Int) : BinWriter Unit := Writer.extend (packUnsigned 2 value)

def writeU32 (value : Int) : BinWriter Unit := Writer.extend (packUnsigned 4 value)

def writeString (text : Text) : BinWriter Unit := do
  let bytes ← encodeUtf8 text
  writeU16 bytes.length
  Writer.extend (.ok bytes)

/-- The declared length is not compared with the text. -/
def writeFixedString (text : Text) (_length : Nat) : BinWriter Unit :=
  Writer.extend (encodeUtf8 text)

end BinWriter

/-! ## BinReader -/

/-- A method of `BinReader`; the data is `view`, the state is `pos`. -/
abbrev BinReader (α : Type) := Reader UInt8 PyError α

namespace BinReader

/-- `unpack_from` at the position, which then moves over the field. -/
def readUnsigned (width : Nat) : BinReader Int :=
  Reader.field (unpackUnsignedFrom width) width

def readU16 : BinReader Int := readUnsigned 2

def readU32 : BinReader Int := readUnsigned 4

/-- Slicing past the end of the view yields what is left; only the position tells. -/
def readFixedString (length : Nat) : BinReader Text :=
  Reader.field (fun view pos => decodeUtf8 ((view.drop pos).take length)) length

def readString : BinReader Text := do
  let length ← readU16
  readFixedString length.toNat

end BinReader

open BinWriter BinReader

/-- Writes directly into an existing writer. -/
def encodeSocketInfoTo (info : SocketInfo) : BinWriter Unit := do
  writeString info.name
  writeU16 info.port

def encodeNodeInfoTo (info : NodeInfo) : BinWriter Unit := do
  writeFixedString info.nodeID 36
  writeU32 info.infoID
  writeString info.name
  writeString info.ip
  writeU16 info.topics.length
  forM info.topics encodeSocketInfoTo
  writeU16 info.services.length
  forM info.services encodeSocketInfoTo

def encodeNodeInfo (info : NodeInfo) : Except PyError Bytes :=
  ((encodeNodeInfoTo info).run []).map Prod.snd

/-- Decode SocketInfo from bytes; the address is the node's. -/
def decodeSocketInfo (ip : Text) : BinReader SocketInfo := do
  let name ← readString
  let port ← readU16
  return { name := name, ip := ip, port := port }

def nodeInfoReader : BinReader NodeInfo := do
  let nodeId ← readFixedString 36
  let infoId ← readU32
  let name ← readString
  let ip ← readString
  let topicsCount ← readU16
  let topics ← (decodeSocketInfo ip).times topicsCount.toNat
  let servicesCount ← readU16
  let services ← (decodeSocketInfo ip).times servicesCount.toNat
  return {
    nodeID := nodeId, infoID := infoId, name := name, ip := ip,
    topics := topics, services := services }

/-- The decoded value together with the reader's final position. -/
def decodeNodeInfoAt (data : Bytes) : Except PyError (NodeInfo × Nat) :=
  nodeInfoReader.readAt data 0

/-- Decode NodeInfo from bytes. -/
def decodeNodeInfo (data : Bytes) : Except PyError NodeInfo :=
  (decodeNodeInfoAt data).map Prod.fst

end Pyzlc
