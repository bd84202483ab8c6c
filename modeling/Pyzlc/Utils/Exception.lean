import Pyzlc.Foundation.Text

/-!
# Exceptions the modelled code raises or handles

One constructor for each exception class that some handler of the source names or
that a modelled operation raises.  `exception` stands for every other subclass of
`Exception`, `baseException` for the subclasses of `BaseException` outside it.
-/

namespace Pyzlc

open Foundation

inductive PyError where
  | keyError (key : Text)
  | valueError
  | unicodeEncodeError
  | unicodeDecodeError
  | structError
  | assertionError
  | runtimeError
  | timeoutError
  | cancelledError
  | extraData
  | zmqError
  | exception (name : Text)
  | baseException (name : Text)
  deriving DecidableEq, Repr

/-- Membership in the class `Exception`, which `except Exception` catches. -/
def PyError.isException : PyError → Bool
  | .cancelledError | .baseException _ => false
  | _ => true

theorem PyError.isException_timeoutError : PyError.timeoutError.isException = true := rfl

theorem PyError.isException_zmqError : PyError.zmqError.isException = true := rfl

/-- `str.encode("utf-8")`. -/
def encodeUtf8 (text : Text) : Except PyError Bytes :=
  match text.encode with
  | some bytes => .ok bytes
  | none => .error .unicodeEncodeError

/-- `bytes.decode("utf-8")`. -/
def decodeUtf8 (bytes : Bytes) : Except PyError Text :=
  match Text.decode bytes with
  | some text => .ok text
  | none => .error .unicodeDecodeError

theorem encodeUtf8_eq_ok {text : Text} {bytes : Bytes} :
    encodeUtf8 text = .ok bytes ↔ text.encode = some bytes := by
  unfold encodeUtf8
  cases text.encode <;> simp

theorem decodeUtf8_eq_ok {text : Text} {bytes : Bytes} :
    decodeUtf8 bytes = .ok text ↔ text.encode = some bytes := by
  rw [← Text.decode_eq_some_iff]
  unfold decodeUtf8
  cases Text.decode bytes <;> simp

end Pyzlc
