import Pyzlc.Foundation.Entries
import Pyzlc.Utils.Exception

/-!
# Objects as they are unpacked

`msgpack.unpackb` returns an object of any of these types, with strict keys in its
dictionaries.  What the operations of the language do with an object depends on its type,
and most types raise `TypeError`.
-/

namespace Pyzlc

open Foundation

/-- A key of an unpacked dictionary. -/
inductive PyKey where
  | str (value : Text)
  | bytes (value : Bytes)
  deriving DecidableEq

/-- An unpacked object.  `φ` is the type of float objects: two NaN are different objects. -/
inductive PyObject (φ : Type) where
  | nil
  | bool (value : Bool)
  | int (value : Int)
  | float (object : φ)
  | str (value : Text)
  | bytes (value : Bytes)
  | list (items : List (PyObject φ))
  | dict (entries : List (PyKey × PyObject φ))
  | extType (code : Int) (data : Bytes)
  | timestamp (seconds : Int) (nanoseconds : Nat)

/-- The comparisons of the language: `==`, and whether two objects are one key of a
dictionary, which also compares identities and hashes. -/
structure PyEquality (φ : Type) where
  equal : PyObject φ → PyObject φ → Bool
  sameKey : PyObject φ → PyObject φ → Bool

/-- `TypeError`. -/
def PyError.typeError : PyError := .exception "TypeError"

def PyKey.object {φ : Type} : PyKey → PyObject φ
  | .str value => .str value
  | .bytes value => .bytes value

namespace PyObject

variable {φ : Type}

/-- `object[key]` for a text. -/
def item (key : Text) : PyObject φ → Except PyError (PyObject φ)
  | .dict entries =>
      match Entries.find (· = PyKey.str key) entries with
      | some value => .ok value
      | none => .error (.keyError key)
  | _ => .error .typeError

/-- `object[key] = value` for a text, with the object as it is afterwards. -/
def setItem (object : PyObject φ) (key : Text) (value : PyObject φ) :
    Except PyError (PyObject φ) :=
  match object with
  | .dict entries => .ok (.dict (Entries.put (· = PyKey.str key) (.str key) value entries))
  | _ => .error .typeError

/-- What a `for` loop over the object takes one after the other. -/
def iterate : PyObject φ → Except PyError (List (PyObject φ))
  | .str value => .ok (value.map fun point => .str [point])
  | .bytes value => .ok (value.map fun byte => .int byte.toNat)
  | .list items => .ok items
  | .dict entries => .ok (entries.map fun entry => entry.1.object)
  | .extType code data => .ok [.int code, .bytes data]
  | .nil | .bool _ | .int _ | .float _ | .timestamp .. => .error .typeError

/-- `hash(object)`, as far as it raises. -/
def hash : PyObject φ → Except PyError Unit
  | .list _ | .dict _ => .error .typeError
  | _ => .ok ()

/-- Comparison with a text: only texts equal texts. -/
def isText (name : Text) : PyObject φ → Bool
  | .str value => value = name
  | _ => false

/-! ## Items -/

/-- Only dictionaries have items under texts. -/
theorem exists_entries_of_item {object value : PyObject φ} {key : Text}
    (present : object.item key = .ok value) :
    ∃ entries, object = .dict entries ∧ Entries.find (· = PyKey.str key) entries = some value := by
  cases object with
  | dict entries =>
      rw [item] at present
      split at present
      next found same =>
        cases present
        exact ⟨entries, rfl, same⟩
      next => cases present
  | nil | bool | int | float | str | bytes | list | extType | timestamp => cases present

theorem item_dict_eq_ok {entries : List (PyKey × PyObject φ)} {key : Text} {value : PyObject φ} :
    (dict entries).item key = .ok value ↔
      Entries.find (· = PyKey.str key) entries = some value := by
  rw [item]
  cases Entries.find (· = PyKey.str key) entries with
  | none => exact ⟨nofun, nofun⟩
  | some found => exact ⟨fun same => congrArg some (Except.ok.inj same),
      fun same => congrArg Except.ok (Option.some.inj same)⟩

theorem item_setItem_self {object next value : PyObject φ} {key : Text}
    (stored : object.setItem key value = .ok next) : next.item key = .ok value := by
  cases object with
  | dict entries =>
      cases stored
      exact item_dict_eq_ok.2 (Entries.find_put_self (decide_eq_true rfl))
  | nil | bool | int | float | str | bytes | list | extType | timestamp => cases stored

theorem item_setItem_of_ne {object next value : PyObject φ} {key other : Text}
    (different : other ≠ key) (stored : object.setItem key value = .ok next) :
    next.item other = object.item other := by
  cases object with
  | dict entries =>
      cases stored
      rw [item, item, Entries.find_put_other]
      · apply decide_eq_false
        intro same
        exact different (PyKey.str.inj same).symm
      · intro found same
        apply decide_eq_false
        intro again
        rw [of_decide_eq_true same] at again
        exact different (PyKey.str.inj again).symm
  | nil | bool | int | float | str | bytes | list | extType | timestamp => cases stored

/-- What has an item can be given another. -/
theorem exists_setItem_of_item {object found : PyObject φ} {key : Text}
    (present : object.item key = .ok found) (other : Text) (value : PyObject φ) :
    ∃ next, object.setItem other value = .ok next := by
  rcases exists_entries_of_item present with ⟨entries, rfl, _⟩
  exact ⟨_, rfl⟩

end PyObject

end Pyzlc
