import Pyzlc.Foundation.Machine

/-!
# Inevitable states

A goal is inevitable in a state if, as long as it is not reached, some permitted event is
possible, and every way of going on by permitted events gets to it.
-/

namespace Pyzlc.Foundation.Machine

universe u v

variable {σ : Type u} {ε : Type v}

/-- Permitted events are possible until they get to the goal, whichever of them occur. -/
inductive Inevitable (machine : Machine σ ε) (permitted : ε → Prop) (goal : σ → Prop) :
    σ → Prop where
  | reached {state : σ} (holds : goal state) : Inevitable machine permitted goal state
  | later {state : σ}
      (possible : ∃ event next, permitted event ∧ machine.step state event = some next)
      (every : ∀ event next, permitted event → machine.step state event = some next →
        Inevitable machine permitted goal next) :
      Inevitable machine permitted goal state

variable {machine : Machine σ ε} {permitted : ε → Prop} {goal awaiting : σ → Prop} {state : σ}

/-- What is awaited is inevitable if some permitted event is always possible and each of
them gets there or makes a measure smaller. -/
theorem inevitable_of_measure (measure : σ → Nat)
    (possible : ∀ state, awaiting state →
      ∃ event next, permitted event ∧ machine.step state event = some next)
    (closer : ∀ state event next, awaiting state → permitted event →
      machine.step state event = some next →
      goal next ∨ (awaiting next ∧ measure next < measure state))
    (awaits : awaiting state) : machine.Inevitable permitted goal state := by
  generalize same : measure state = bound
  induction bound using Nat.strongRecOn generalizing state with
  | ind bound ih =>
      apply Inevitable.later (possible state awaits)
      intro event next allowed stepped
      rcases closer state event next awaits allowed stepped with there | ⟨still, smaller⟩
      · exact .reached there
      · rw [same] at smaller
        exact ih (measure next) smaller still rfl

/-- Where every counted event makes a measure smaller and no other event makes it larger, a run
counts no more of them than the measure allows. -/
theorem execFrom_measure_le (invariant : σ → Prop) (measure : σ → Nat) (counted : ε → Bool)
    (step : ∀ state event next, invariant state → machine.step state event = some next →
      invariant next ∧ measure next + (counted event).toNat ≤ measure state)
    {trace : List ε} {next : σ} (holds : invariant state)
    (run : machine.execFrom state trace = some next) :
    invariant next ∧ measure next + trace.countP counted ≤ measure state := by
  induction trace generalizing state with
  | nil =>
      cases run
      exact ⟨holds, Nat.le_refl _⟩
  | cons event rest ih =>
      rcases Option.bind_eq_some_iff.1 run with ⟨middle, stepped, later⟩
      rcases step state event middle holds stepped with ⟨kept, smaller⟩
      rcases ih kept later with ⟨last, within⟩
      refine ⟨last, ?_⟩
      rw [List.countP_cons]
      cases counts : counted event with
      | true =>
          rw [counts, Bool.toNat_true] at smaller
          rw [if_pos rfl]
          omega
      | false =>
          rw [counts, Bool.toNat_false] at smaller
          rw [if_neg Bool.false_ne_true]
          omega

end Pyzlc.Foundation.Machine
