import Mathlib.Data.List.Basic

/-!
# Records under serial numbers

A list addressed by position, the way a program keeps the objects it makes one after another
and changes in place: a new record gets the next serial number, an update leaves every other
record where it is, and nothing is taken out.
-/

namespace Pyzlc.Foundation.Serials

universe u

variable {α : Type u} {records : List α} {record : α} {serial : Nat}

/-- What an update of a record does to every lookup. -/
theorem getElem?_update (found : records[serial]? = some record) (updated : α) (other : Nat) :
    (records.set serial updated)[other]? =
      if other = serial then some updated else records[other]? := by
  have within : serial < records.length := (List.getElem?_eq_some_iff.1 found).1
  rw [List.getElem?_set]
  by_cases same : other = serial
  · rw [if_pos same.symm, if_pos same, if_pos within]
  · rw [if_neg (Ne.symm same), if_neg same]

/-- A record found after an update is the new one, or one of the others as it was. -/
theorem found_of_update {updated there : α} {other : Nat} (found : records[serial]? = some record)
    (after : (records.set serial updated)[other]? = some there) :
    (other = serial ∧ there = updated) ∨ (other ≠ serial ∧ records[other]? = some there) := by
  rw [getElem?_update found] at after
  by_cases same : other = serial
  · rw [if_pos same] at after
    exact Or.inl ⟨same, (Option.some.inj after).symm⟩
  · rw [if_neg same] at after
    exact Or.inr ⟨same, after⟩

/-- A record found after an addition is the new one, or one of the others. -/
theorem found_of_add {added : α} (after : (records ++ [added])[serial]? = some record) :
    (serial < records.length ∧ records[serial]? = some record) ∨
      (serial = records.length ∧ record = added) := by
  have within : serial < (records ++ [added]).length := (List.getElem?_eq_some_iff.1 after).1
  rw [List.length_append, List.length_singleton] at within
  rcases Nat.lt_succ_iff_lt_or_eq.1 within with earlier | last
  · rw [List.getElem?_append_left earlier] at after
    exact Or.inl ⟨earlier, after⟩
  · rw [last, List.getElem?_concat_length] at after
    exact Or.inr ⟨last, (Option.some.inj after).symm⟩

end Pyzlc.Foundation.Serials
