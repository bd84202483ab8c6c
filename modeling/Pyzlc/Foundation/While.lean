import Mathlib.Data.Nat.Find

/-!
# Loops without a bound

A loop whose body goes on with a state or yields a result.  It is run with a number of
iterations, and yields what it yields with enough of them.
-/

namespace Pyzlc.Foundation

universe u v

variable {σ : Type u} {β : Type v}

/-- Repeat a body until it yields, at most so many times. -/
def whileLoop (body : σ → σ ⊕ β) : Nat → σ → Option β
  | 0, _ => none
  | fuel + 1, state =>
      match body state with
      | .inl next => whileLoop body fuel next
      | .inr result => some result

/-- With enough iterations, the loop yields this result. -/
def Yields (body : σ → σ ⊕ β) (state : σ) (result : β) : Prop :=
  ∃ fuel, whileLoop body fuel state = some result

variable {body : σ → σ ⊕ β}

theorem whileLoop_of_inl {state next : σ} (goesOn : body state = .inl next) (fuel : Nat) :
    whileLoop body (fuel + 1) state = whileLoop body fuel next := by
  rw [whileLoop, goesOn]

theorem whileLoop_of_inr {state : σ} {result : β} (yields : body state = .inr result)
    (fuel : Nat) : whileLoop body (fuel + 1) state = some result := by
  rw [whileLoop, yields]

/-- More iterations do not change a result. -/
theorem whileLoop_mono {fuel : Nat} {state : σ} {result : β}
    (yields : whileLoop body fuel state = some result) (more : Nat) :
    whileLoop body (fuel + more) state = some result := by
  induction fuel generalizing state with
  | zero => cases yields
  | succ fuel ih =>
      rw [Nat.succ_add_eq_add_succ]
      cases outcome : body state with
      | inl next =>
          rw [whileLoop_of_inl outcome] at yields
          exact (whileLoop_of_inl outcome (fuel + more)).trans (ih yields)
      | inr found =>
          rw [whileLoop_of_inr outcome] at yields
          exact (whileLoop_of_inr outcome (fuel + more)).trans yields

theorem Yields.unique {state : σ} {first second : β} (one : Yields body state first)
    (other : Yields body state second) : first = second := by
  rcases one with ⟨fuel, yields⟩
  rcases other with ⟨more, yieldsMore⟩
  have same := (whileLoop_mono yields more).symm
  rw [Nat.add_comm, whileLoop_mono yieldsMore fuel] at same
  exact Option.some.inj same

/-- A loop that goes through these states and yields in one of them. -/
theorem whileLoop_of_iterations {states : Nat → σ} {last : Nat} {result : β}
    (goesOn : ∀ index < last, body (states index) = .inl (states (index + 1)))
    (yields : body (states last) = .inr result) :
    whileLoop body (last + 1) (states 0) = some result := by
  have remaining : ∀ left index, index + left = last →
      whileLoop body (left + 1) (states index) = some result := by
    intro left
    induction left with
    | zero =>
        intro index same
        rw [Nat.add_zero] at same
        rw [same]
        exact whileLoop_of_inr yields 0
    | succ left ih =>
        intro index same
        rw [whileLoop_of_inl (goesOn index (by omega))]
        exact ih (index + 1) (by omega)
  exact remaining last 0 (Nat.zero_add last)

/-- A loop that never leaves a sequence of states yields nothing. -/
theorem not_yields_of_iterations {states : Nat → σ}
    (goesOn : ∀ index, body (states index) = .inl (states (index + 1))) (result : β) :
    ¬ Yields body (states 0) result := by
  have never : ∀ fuel index, whileLoop body fuel (states index) = none := by
    intro fuel
    induction fuel with
    | zero => exact fun _ => rfl
    | succ fuel ih =>
        intro index
        rw [whileLoop_of_inl (goesOn index)]
        exact ih (index + 1)
  rintro ⟨fuel, yields⟩
  exact nomatch (never fuel 0).symm.trans yields

/-- A loop along a sequence of states that may yield in each of them: it yields where the
first of them does, if any does. -/
theorem yields_iff_of_iterations {states : Nat → σ} {stops : Nat → Prop} {results : Nat → β}
    (goesOn : ∀ index, ¬ stops index → body (states index) = .inl (states (index + 1)))
    (yields : ∀ index, stops index → body (states index) = .inr (results index)) (result : β) :
    Yields body (states 0) result ↔
      ∃ last, (∀ index < last, ¬ stops index) ∧ stops last ∧ result = results last := by
  classical
  constructor
  · intro found
    by_cases stopping : ∃ index, stops index
    · refine ⟨Nat.find stopping, fun index earlier => Nat.find_min stopping earlier,
        Nat.find_spec stopping, ?_⟩
      apply found.unique
      exact ⟨_, whileLoop_of_iterations
        (fun index earlier => goesOn index (Nat.find_min stopping earlier))
        (yields _ (Nat.find_spec stopping))⟩
    · exact absurd found
        (not_yields_of_iterations
          (fun index => goesOn index fun stop => stopping ⟨index, stop⟩) result)
  · rintro ⟨last, earlier, stop, rfl⟩
    exact ⟨_, whileLoop_of_iterations (fun index before => goesOn index (earlier index before))
      (yields last stop)⟩

end Pyzlc.Foundation
