import Mathlib.Data.List.DropRight
import Mathlib.Data.List.Induction

/-!
# Padded fields

A fixed-width field holds a shorter value by filling it up and a longer one by
cutting it.  The reader strips the fill at both ends, so only values without fill at
their ends come back, and only fields that do not begin with fill are rebuilt.
-/

namespace Pyzlc.Foundation

namespace Padding

universe u

variable {α : Type u} (fill : α)

/-- Cut or fill up a list to the given width. -/
def fit (width : Nat) (list : List α) : List α :=
  list.take width ++ List.replicate (width - list.length) fill

@[simp] theorem length_fit (width : Nat) (list : List α) :
    (fit fill width list).length = width := by
  simp only [fit, List.length_append, List.length_take, List.length_replicate]
  omega

theorem fit_of_le {width : Nat} {list : List α} (short : list.length ≤ width) :
    fit fill width list = list ++ List.replicate (width - list.length) fill := by
  rw [fit, List.take_of_length_le short]

variable [DecidableEq α]

/-- Drop the fill from both ends. -/
def strip (list : List α) : List α :=
  (list.dropWhile (· == fill)).rdropWhile (· == fill)

variable {fill}

theorem dropWhile_eq_self {list : List α} (first : list.head? ≠ some fill) :
    list.dropWhile (· == fill) = list := by
  cases list with
  | nil => rfl
  | cons head tail =>
      apply List.dropWhile_cons_of_neg
      intro equal
      exact first (congrArg some (beq_iff_eq.1 equal))

theorem rdropWhile_append_replicate {list : List α} (count : Nat)
    (last : list.getLast? ≠ some fill) :
    (list ++ List.replicate count fill).rdropWhile (· == fill) = list := by
  induction count with
  | zero =>
      rw [List.replicate_zero, List.append_nil, List.rdropWhile_eq_self_iff]
      intro nonempty equal
      apply last
      rw [List.getLast?_eq_some_getLast nonempty, beq_iff_eq.1 equal]
  | succ count ih =>
      rw [List.replicate_succ', ← List.append_assoc, List.rdropWhile_concat_pos _ _ _ (by simp), ih]

/-- Padding behind a list that has no fill at its ends is what stripping removes. -/
theorem strip_append_replicate {list : List α} (count : Nat)
    (first : list.head? ≠ some fill) (last : list.getLast? ≠ some fill) :
    strip fill (list ++ List.replicate count fill) = list := by
  cases list with
  | nil => rw [List.nil_append, strip, List.dropWhile_replicate]; simp
  | cons head tail =>
      have unchanged : (head :: tail ++ List.replicate count fill).dropWhile (· == fill) =
          head :: tail ++ List.replicate count fill := dropWhile_eq_self first
      rw [strip, unchanged, rdropWhile_append_replicate count last]

theorem exists_rdropWhile (list : List α) :
    ∃ count, list = list.rdropWhile (· == fill) ++ List.replicate count fill := by
  induction list using List.reverseRecOn with
  | nil => exact ⟨0, rfl⟩
  | append_singleton list last ih =>
      by_cases filled : last = fill
      · rcases ih with ⟨count, split⟩
        refine ⟨count + 1, ?_⟩
        have dropped : (list ++ [last]).rdropWhile (· == fill) = list.rdropWhile (· == fill) :=
          List.rdropWhile_concat_pos _ _ _ (beq_iff_eq.2 filled)
        rw [dropped, List.replicate_succ', ← List.append_assoc, ← split, filled]
      · refine ⟨0, ?_⟩
        rw [List.rdropWhile_concat_neg _ _ _ (by simpa using filled), List.replicate_zero,
          List.append_nil]

/-- Stripping a list that does not begin with the fill removes fill at its end only. -/
theorem exists_strip {list : List α} (first : list.head? ≠ some fill) :
    ∃ count, list = strip fill list ++ List.replicate count fill := by
  rw [strip, dropWhile_eq_self first]
  exact exists_rdropWhile list

theorem dropWhile_eq_of_length {list : List α} (kept : (strip fill list).length = list.length) :
    list.dropWhile (· == fill) = list := by
  have outer := (List.rdropWhile_prefix (· == fill) (list.dropWhile (· == fill))).length_le
  have inner := List.dropWhile_suffix (l := list) (· == fill)
  have shorter := inner.length_le
  apply inner.eq_of_length
  rw [strip] at kept
  omega

/-- Only a list that is its own stripped form keeps its length. -/
theorem strip_eq_of_length {list : List α} (kept : (strip fill list).length = list.length) :
    strip fill list = list := by
  have front := dropWhile_eq_of_length kept
  rw [strip, front] at kept ⊢
  exact (List.rdropWhile_prefix _ _).eq_of_length kept

theorem strip_eq_self_iff {list : List α} :
    strip fill list = list ↔ list.head? ≠ some fill ∧ list.getLast? ≠ some fill := by
  constructor
  · intro same
    have front := dropWhile_eq_of_length (congrArg List.length same)
    rw [strip, front] at same
    constructor
    · intro first
      cases list with
      | nil => cases first
      | cons head tail =>
          cases first
          have dropped : (fill :: tail).dropWhile (· == fill) = tail.dropWhile (· == fill) :=
            List.dropWhile_cons_of_pos (beq_self_eq_true _)
          have shorter := (List.dropWhile_suffix (l := tail) (· == fill)).length_le
          rw [← dropped, front, List.length_cons] at shorter
          omega
    · intro last
      have nonempty : list ≠ [] := by
        intro empty
        rw [empty] at last
        cases last
      rw [List.getLast?_eq_some_getLast nonempty] at last
      exact List.rdropWhile_eq_self_iff.1 same nonempty (beq_iff_eq.2 (Option.some.inj last))
  · intro ends
    have stripped := strip_append_replicate 0 ends.1 ends.2
    rwa [List.replicate_zero, List.append_nil] at stripped

end Padding

end Pyzlc.Foundation
