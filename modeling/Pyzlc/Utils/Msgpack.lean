import Pyzlc.Foundation.MessagePack
import Pyzlc.Utils.Exception

/-!
# The msgpack package

The package is a parameter: two functions over objects of any type.  What the code relies
on is stated of them here, together with the implementation for the values of
`Foundation.MessagePack` that behaves so.
-/

namespace Pyzlc

open Foundation

/-- The keyword arguments of `packb` the code passes, with their defaults. -/
structure PackOptions where
  useBinType : Bool := true
  deriving DecidableEq, Repr

/-- The keyword arguments of `unpackb` the code passes or relies on, with their defaults. -/
structure UnpackOptions where
  raw : Bool := false
  strictMapKey : Bool := true
  deriving DecidableEq, Repr

structure Msgpack (α : Type) where
  packb : PackOptions → α → Except PyError (Option Bytes)
  unpackb : UnpackOptions → Bytes → Except PyError α

namespace Msgpack

variable {α : Type}

/-- Bytes follow a complete object, whether the package accepts that object or not. -/
def HasExtraData (data : Bytes) : Prop :=
  ∃ object rest, data = object ++ rest ∧ rest ≠ [] ∧ MessagePack.Object object

/-- Bytes follow an object that the package accepts by itself. -/
def AcceptsFront (msgpack : Msgpack α) (data : Bytes) : Prop :=
  ∃ object rest, data = object ++ rest ∧ rest ≠ [] ∧ ∃ value, msgpack.unpackb {} object = .ok value

/-- Packing yields at least one byte and does not raise the decoder's error; unpacking
raises `ExtraData` exactly when bytes follow an object that it accepts. -/
structure Documented (msgpack : Msgpack α) : Prop where
  packb_ne_nil : ∀ value bytes, msgpack.packb {} value = .ok (some bytes) → bytes ≠ []
  packb_ne_extraData : ∀ value, msgpack.packb {} value ≠ .error .extraData
  extraData_iff : ∀ data, msgpack.unpackb {} data = .error .extraData ↔ msgpack.AcceptsFront data

/-- What can be unpacked is one complete object of the format. -/
def UnpacksObjects (msgpack : Msgpack α) : Prop :=
  ∀ data value, msgpack.unpackb {} data = .ok value → MessagePack.Object data

theorem AcceptsFront.hasExtraData {msgpack : Msgpack α} {data : Bytes}
    (unpacksObjects : msgpack.UnpacksObjects) (accepts : msgpack.AcceptsFront data) :
    HasExtraData data := by
  rcases accepts with ⟨object, rest, split, more, value, unpacked⟩
  exact ⟨object, rest, split, more, unpacksObjects object value unpacked⟩

/-- The package speaks MessagePack: what it packs is the encoding of the value, and it
unpacks the first object of the data if its keys are strict and nothing is behind it. -/
structure SpeaksMessagePack (msgpack : Msgpack MessagePack.Value) (limit : Nat) : Prop where
  packb : ∀ value bytes, msgpack.packb {} value = .ok (some bytes) →
    MessagePack.encode value = some bytes
  unpackb : ∀ data value rest, MessagePack.decode limit data = some (value, rest) →
    MessagePack.DistinctKeys value →
    msgpack.unpackb {} data =
      if MessagePack.strictKeys value then
        if rest = [] then .ok value else .error .extraData
      else .error .valueError

/-- Packing for values nested at most to a limit. -/
def packValue (limit : Nat) (value : MessagePack.Value) : Except PyError (Option Bytes) :=
  match MessagePack.encode value with
  | some bytes => if MessagePack.depth value ≤ limit then .ok (some bytes) else .error .valueError
  | none => .error .valueError

/-- Unpacking with strict keys. -/
def unpackValue (limit : Nat) (data : Bytes) : Except PyError MessagePack.Value :=
  match MessagePack.decode limit data with
  | some (value, rest) =>
      if MessagePack.strictKeys value then
        if rest = [] then .ok value else .error .extraData
      else .error .valueError
  | none => .error .valueError

/-- The package for the values of the format, under the options above. -/
def standard (limit : Nat) : Msgpack MessagePack.Value where
  packb _ value := packValue limit value
  unpackb _ data := unpackValue limit data

theorem packValue_eq_ok {limit : Nat} {value : MessagePack.Value} {packed : Option Bytes} :
    packValue limit value = .ok packed ↔
      ∃ bytes, MessagePack.encode value = some bytes ∧ MessagePack.depth value ≤ limit ∧
        some bytes = packed := by
  unfold packValue
  cases MessagePack.encode value with
  | none => simp
  | some bytes =>
      by_cases shallow : MessagePack.depth value ≤ limit <;> simp [shallow]

theorem packValue_ne_extraData (limit : Nat) (value : MessagePack.Value) :
    packValue limit value ≠ .error .extraData := by
  unfold packValue
  cases MessagePack.encode value with
  | none => simp
  | some bytes =>
      by_cases shallow : MessagePack.depth value ≤ limit <;> simp [shallow]

theorem unpackValue_of_decode {limit : Nat} {data rest : Bytes} {value : MessagePack.Value}
    (decoded : MessagePack.decode limit data = some (value, rest)) :
    unpackValue limit data =
      if MessagePack.strictKeys value then
        if rest = [] then .ok value else .error .extraData
      else .error .valueError := by
  rw [unpackValue, decoded]

theorem unpackValue_of_not_decode {limit : Nat} {data : Bytes}
    (undecoded : MessagePack.decode limit data = none) :
    unpackValue limit data = .error .valueError := by
  rw [unpackValue, undecoded]

/-- Both ways in which the first object can end the unpacking without an error of its own. -/
theorem unpackValue_eq_ok {limit : Nat} {data : Bytes} {value : MessagePack.Value} :
    unpackValue limit data = .ok value ↔
      MessagePack.decode limit data = some (value, []) ∧
        MessagePack.strictKeys value = true := by
  cases decoded : MessagePack.decode limit data with
  | none => simp [unpackValue_of_not_decode decoded]
  | some read =>
      rcases read with ⟨found, rest⟩
      rw [unpackValue_of_decode decoded]
      by_cases strict : MessagePack.strictKeys found = true
      · by_cases whole : rest = []
        · rw [if_pos strict, if_pos whole, whole]
          constructor
          · intro same
            cases same
            exact ⟨rfl, strict⟩
          · rintro ⟨same, -⟩
            cases same
            rfl
        · simp [strict, whole]
      · rw [if_neg strict]
        constructor
        · intro same
          cases same
        · rintro ⟨same, accepted⟩
          cases same
          exact absurd accepted strict

theorem unpackValue_eq_extraData {limit : Nat} {data : Bytes} :
    unpackValue limit data = .error .extraData ↔
      ∃ value rest, MessagePack.decode limit data = some (value, rest) ∧
        MessagePack.strictKeys value = true ∧ rest ≠ [] := by
  cases decoded : MessagePack.decode limit data with
  | none => simp [unpackValue_of_not_decode decoded]
  | some read =>
      rcases read with ⟨found, rest⟩
      rw [unpackValue_of_decode decoded]
      by_cases strict : MessagePack.strictKeys found = true
      · by_cases whole : rest = [] <;> simp [strict, whole]
      · simp [strict]

theorem standard_documented (limit : Nat) : (standard limit).Documented where
  packb_ne_nil := by
    intro value bytes packed
    rcases packValue_eq_ok.1 packed with ⟨_, encoded, -, same⟩
    cases same
    exact MessagePack.encode_ne_nil encoded
  packb_ne_extraData := packValue_ne_extraData limit
  extraData_iff := by
    intro data
    constructor
    · intro raised
      rcases unpackValue_eq_extraData.1 raised with ⟨value, rest, decoded, strict, more⟩
      rcases MessagePack.prefixed_decode limit _ _ _ decoded with ⟨front, rfl, again⟩
      have alone := again []
      rw [List.append_nil] at alone
      exact ⟨front, rest, rfl, more, value, unpackValue_eq_ok.2 ⟨alone, strict⟩⟩
    · rintro ⟨object, rest, rfl, more, value, unpacked⟩
      rcases unpackValue_eq_ok.1 unpacked with ⟨decoded, strict⟩
      rcases MessagePack.prefixed_decode limit _ _ _ decoded with ⟨front, split, again⟩
      rw [List.append_nil] at split
      subst split
      exact unpackValue_eq_extraData.2 ⟨value, rest, again rest, strict, more⟩

theorem standard_unpacksObjects (limit : Nat) : (standard limit).UnpacksObjects := by
  intro data value unpacked
  rcases MessagePack.takes_decode limit _ _ _ (unpackValue_eq_ok.1 unpacked).1 with
    ⟨front, split, object⟩
  rw [split, List.append_nil]
  exact object

theorem standard_speaksMessagePack (limit : Nat) :
    (standard limit).SpeaksMessagePack limit where
  packb := by
    intro value bytes packed
    rcases packValue_eq_ok.1 packed with ⟨_, encoded, -, same⟩
    cases same
    exact encoded
  unpackb := by
    intro data value rest decoded _
    exact unpackValue_of_decode decoded

end Msgpack

end Pyzlc
