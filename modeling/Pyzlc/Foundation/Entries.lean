import Mathlib.Data.List.Basic

/-!
# Entries found by a test of their keys

Dictionaries whose keys are compared by a test that need not be equality: a list of entries
in insertion order, in which the first entry whose key passes the test is the one meant.
-/

namespace Pyzlc.Foundation.Entries

universe u v

variable {κ : Type u} {ν : Type v} {same : κ → Bool} {entries : List (κ × ν)} {key : κ}
  {value : ν}

/-- The value of the key that passes a test. -/
def find (same : κ → Bool) : List (κ × ν) → Option ν
  | [] => none
  | entry :: rest => if same entry.1 then some entry.2 else find same rest

/-- Store a value: in place under the key that passes the test, at the end if there is none. -/
def put (same : κ → Bool) (key : κ) (value : ν) : List (κ × ν) → List (κ × ν)
  | [] => [(key, value)]
  | entry :: rest =>
      if same entry.1 then (entry.1, value) :: rest else entry :: put same key value rest

/-- Drop the entry whose key passes the test. -/
def drop (same : κ → Bool) (entries : List (κ × ν)) : List (κ × ν) :=
  entries.eraseP fun entry => same entry.1

/-- A stored entry has the new value or was there before. -/
theorem value_of_mem_put {entry : κ × ν} (member : entry ∈ put same key value entries) :
    entry.2 = value ∨ entry ∈ entries := by
  induction entries with
  | nil =>
      rw [put, List.mem_singleton] at member
      rw [member]
      exact Or.inl rfl
  | cons first rest ih =>
      rw [put] at member
      split at member
      next =>
        rcases List.mem_cons.1 member with rfl | later
        · exact Or.inl rfl
        · exact Or.inr (List.mem_cons_of_mem _ later)
      next =>
        rcases List.mem_cons.1 member with rfl | later
        · exact Or.inr List.mem_cons_self
        · exact (ih later).imp_right (List.mem_cons_of_mem _)

/-- What is stored is there. -/
theorem exists_mem_put (same : κ → Bool) (key : κ) (value : ν) (entries : List (κ × ν)) :
    ∃ entry ∈ put same key value entries, entry.2 = value := by
  induction entries with
  | nil => exact ⟨_, List.mem_singleton_self _, rfl⟩
  | cons first rest ih =>
      rw [put]
      split
      next => exact ⟨_, List.mem_cons_self, rfl⟩
      next =>
        rcases ih with ⟨entry, member, found⟩
        exact ⟨entry, List.mem_cons_of_mem _ member, found⟩

theorem find_put_self (passes : same key = true) :
    find same (put same key value entries) = some value := by
  induction entries with
  | nil => simp only [put, find, passes, if_true]
  | cons first rest ih =>
      rw [put]
      split
      next found => simp only [find, found, if_true]
      next missed =>
        rw [find, if_neg missed]
        exact ih

/-- Storing leaves the keys alone that another test accepts. -/
theorem find_put_other {other : κ → Bool} (fresh : other key = false)
    (apart : ∀ key, same key = true → other key = false) :
    find other (put same key value entries) = find other entries := by
  induction entries with
  | nil => simp only [put, find, fresh, Bool.false_eq_true, if_false]
  | cons first rest ih =>
      rw [put]
      split
      next found => simp only [find, apart _ found, Bool.false_eq_true, if_false]
      next => simp only [find, ih]

theorem mem_of_mem_drop {entry : κ × ν} (member : entry ∈ drop same entries) : entry ∈ entries :=
  List.mem_of_mem_eraseP member

end Pyzlc.Foundation.Entries
