import Pyzlc.Foundation.Padding
import Pyzlc.Utils.NodeInfo

/-!
# Messages between nodes
-/

namespace Pyzlc

open Foundation

/-- Heartbeat message components. -/
structure HeartbeatMessage where
  zlcVersion : Int × Int × Int
  nodeId : HashIdentifier
  infoId : Int
  servicePort : Int
  groupName : Text
  deriving DecidableEq, Repr

/-! ## The heartbeat datagram -/

/-- `struct.pack` of one signed 32-bit field. -/
def packInt32 (value : Int) : Except PyError Bytes :=
  if -2147483648 ≤ value ∧ value ≤ 2147483647 then
    .ok (BigEndian.packSigned 4 value)
  else
    .error .structError

/-- `struct.pack("!3i36s2i", ...)`; the text field is cut or filled up with NUL. -/
def packHeader (zlcVersion : Int × Int × Int) (nodeId : Bytes) (infoId servicePort : Int) :
    Except PyError Bytes := do
  let major ← packInt32 zlcVersion.1
  let minor ← packInt32 zlcVersion.2.1
  let patch ← packInt32 zlcVersion.2.2
  let info ← packInt32 infoId
  let port ← packInt32 servicePort
  return major ++ minor ++ patch ++ Padding.fit 0 36 nodeId ++ info ++ port

/-- The bytes `data[pos : pos + width]`. -/
def slice (data : Bytes) (pos width : Nat) : Bytes := (data.drop pos).take width

/-- `struct.unpack("!3i36s2i", data)`. -/
def unpackHeader (data : Bytes) : Except PyError ((Int × Int × Int) × Bytes × Int × Int) :=
  if data.length = 56 then
    .ok ((BigEndian.unpackSigned (slice data 0 4), BigEndian.unpackSigned (slice data 4 4),
        BigEndian.unpackSigned (slice data 8 4)),
      slice data 12 36, BigEndian.unpackSigned (slice data 48 4),
      BigEndian.unpackSigned (slice data 52 4))
  else
    .error .structError

/-- Serialize the heartbeat message to bytes. -/
def HeartbeatMessage.toBytes (message : HeartbeatMessage) : Except PyError Bytes := do
  let nodeId ← encodeUtf8 message.nodeId
  let header ← packHeader message.zlcVersion nodeId message.infoId message.servicePort
  let groupName ← encodeUtf8 message.groupName
  return header ++ groupName

/-- What the decoder does before its exception handler. -/
def parseHeartbeatMessage (data : Bytes) : Except PyError HeartbeatMessage :=
  if data.length < 56 then
    .error .valueError
  else do
    let (zlcVersion, idField, infoId, servicePort) ← unpackHeader (data.take 56)
    let nodeId ← decodeUtf8 idField
    let groupName ← decodeUtf8 (data.drop 56)
    return {
      zlcVersion := zlcVersion, nodeId := Padding.strip 0 nodeId, infoId := infoId,
      servicePort := servicePort, groupName := groupName }

/-- Decode the binary heartbeat message.  Every error above is an `Exception`. -/
def decodeHeartbeatMessage (data : Bytes) : Option HeartbeatMessage :=
  match parseHeartbeatMessage data with
  | .ok message => some message
  | .error _ => none

/-! ## Response statuses -/

/-- The status of a service response. -/
inductive ResponseStatus where
  | success
  | noService
  | invalidResponse
  | serviceFail
  | serviceTimeout
  | invalidRequest
  | unknownError
  deriving DecidableEq, Repr

/-- The status as it is on the wire. -/
def ResponseStatus.text : ResponseStatus → Text
  | .success => "SUCCESS"
  | .noService => "NOSERVICE"
  | .invalidResponse => "INVALID_RESPONSE"
  | .serviceFail => "SERVICE_FAIL"
  | .serviceTimeout => "SERVICE_TIMEOUT"
  | .invalidRequest => "INVALID_REQUEST"
  | .unknownError => "UNKNOWN_ERROR"

/-- `status.encode()`. -/
def ResponseStatus.encode (status : ResponseStatus) : Bytes := (Text.encode status.text).getD []

/-- Every status has an encoding, so the default above is never taken. -/
theorem ResponseStatus.encode_text (status : ResponseStatus) :
    Text.encode status.text = some status.encode := by
  cases status <;> decide

theorem ResponseStatus.encode_injective {first second : ResponseStatus}
    (same : first.encode = second.encode) : first = second := by
  cases first <;> cases second <;> first | rfl | exact absurd same (by decide)

end Pyzlc
