import Pyzlc.Nodes.UntypedRegistry
import Pyzlc.Sockets.RemoteCalls

/-!
# Descriptions on the wire

A node answers `get_node_info` with the dictionary it keeps about itself.  It can be packed and
unpacked whatever it lists: its keys are texts, no key comes twice, and it is nested three deep.
-/

namespace Pyzlc

open Foundation
open MessagePack (Scalar Value DistinctKeys ItemsDistinct strictKeys itemsStrict depth itemsDepth)

variable {φ : Type}

/-! ## Unpacked objects -/

namespace PyObject

def ofScalar : Scalar → PyObject φ
  | .nil => .nil
  | .bool value => .bool value
  | .int value => .int value
  | .str value => .str value
  | .bin value => .bytes value

/-- A key of an unpacked dictionary; the decoder refuses the others. -/
def keyOf : Scalar → Option PyKey
  | .str value => some (.str value)
  | .bin value => some (.bytes value)
  | .nil | .bool _ | .int _ => none

mutual

/-- The object that is unpacked from the encoding of a value. -/
def ofValue : Value → Option (PyObject φ)
  | .scalar value => some (ofScalar value)
  | .list items => (ofItems items).map .list
  | .map entries => (ofValues entries).map .dict

def ofItems : List Value → Option (List (PyObject φ))
  | [] => some []
  | item :: others => do
      let first ← ofValue item
      let rest ← ofItems others
      return first :: rest

def ofValues : List (Scalar × Value) → Option (List (PyKey × PyObject φ))
  | [] => some []
  | (key, value) :: others => do
      let firstKey ← keyOf key
      let first ← ofValue value
      let rest ← ofValues others
      return (firstKey, first) :: rest

end

end PyObject

/-! ## Descriptions as they are packed -/

/-- A socket as the dictionary it is. -/
def SocketInfo.value (info : SocketInfo) : Value :=
  .map [(.str "name", .scalar (.str info.name)), (.str "ip", .scalar (.str info.ip)),
    (.str "port", .scalar (.int info.port))]

/-- The dictionary `local_node_info`. -/
def NodeInfo.value (info : NodeInfo) : Value :=
  .map [(.str "name", .scalar (.str info.name)), (.str "nodeID", .scalar (.str info.nodeID)),
    (.str "infoID", .scalar (.int info.infoID)), (.str "ip", .scalar (.str info.ip)),
    (.str "topics", .list (info.topics.map SocketInfo.value)),
    (.str "services", .list (info.services.map SocketInfo.value))]

theorem ofItems_sockets (infos : List SocketInfo) :
    PyObject.ofItems (infos.map SocketInfo.value) =
      some (infos.map (PyObject.ofSocketInfo (φ := φ))) := by
  induction infos with
  | nil => simp [PyObject.ofItems]
  | cons info rest ih =>
      rw [List.map_cons, PyObject.ofItems, ih]
      simp [SocketInfo.value, PyObject.ofValue, PyObject.ofValues, PyObject.keyOf,
        PyObject.ofScalar, PyObject.ofSocketInfo]

/-- What is unpacked is the dictionary of the description. -/
theorem ofValue_value (info : NodeInfo) :
    PyObject.ofValue info.value = some (PyObject.ofNodeInfo (φ := φ) info) := by
  simp [NodeInfo.value, PyObject.ofValue, PyObject.ofValues, PyObject.keyOf, PyObject.ofScalar,
    PyObject.ofNodeInfo, ofItems_sockets]

theorem itemsStrict_sockets (infos : List SocketInfo) :
    itemsStrict (infos.map SocketInfo.value) = true := by
  induction infos with
  | nil => simp [itemsStrict]
  | cons info rest ih =>
      rw [List.map_cons, itemsStrict, ih]
      simp [SocketInfo.value, strictKeys, MessagePack.entriesStrict, MessagePack.isStrictKey]

theorem strictKeys_value (info : NodeInfo) : strictKeys info.value = true := by
  simp [NodeInfo.value, strictKeys, MessagePack.entriesStrict, MessagePack.isStrictKey,
    itemsStrict_sockets]

theorem itemsDistinct_sockets (infos : List SocketInfo) :
    ItemsDistinct (infos.map SocketInfo.value) := by
  induction infos with
  | nil => simp [ItemsDistinct]
  | cons info rest ih =>
      rw [List.map_cons, ItemsDistinct]
      refine ⟨?_, ih⟩
      rw [SocketInfo.value, DistinctKeys]
      have keys : [Scalar.str "name", .str "ip", .str "port"].Nodup := by decide
      exact ⟨keys, by simp [MessagePack.EntriesDistinct, DistinctKeys]⟩

theorem distinctKeys_value (info : NodeInfo) : DistinctKeys info.value := by
  rw [NodeInfo.value, DistinctKeys]
  have keys : [Scalar.str "name", .str "nodeID", .str "infoID", .str "ip", .str "topics",
      .str "services"].Nodup := by decide
  exact ⟨keys, by simp [MessagePack.EntriesDistinct, DistinctKeys, itemsDistinct_sockets]⟩

theorem itemsDepth_sockets (infos : List SocketInfo) :
    itemsDepth (infos.map SocketInfo.value) ≤ 1 := by
  induction infos with
  | nil => simp [itemsDepth]
  | cons info rest ih =>
      rw [List.map_cons, itemsDepth]
      simp [SocketInfo.value, depth, MessagePack.entriesDepth, ih]

/-- A description is nested three deep: the dictionary, its lists, and the sockets in them. -/
theorem depth_value (info : NodeInfo) : depth info.value ≤ 3 := by
  have topics := itemsDepth_sockets info.topics
  have services := itemsDepth_sockets info.services
  simp [NodeInfo.value, depth, MessagePack.entriesDepth]
  omega

end Pyzlc
