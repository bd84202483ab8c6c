import Mathlib.Algebra.BigOperators.Group.List.Basic
import Mathlib.Data.Rat.Floor
import Pyzlc.Foundation.While
import Pyzlc.Nodes.NodesInfoManager

/-!
# Waiting for a service

`wait_for_service` polls the registry, which other threads change meanwhile, and sleeps
between two polls.  It measures its wait by the intervals it asked to sleep for, so it gets
closer to its timeout only if these are positive.
-/

namespace Pyzlc

open Foundation NodesInfoManager

/-- The time waited, how often the registry was polled, and the sleeps that were made. -/
structure Waiting where
  waitedTime : ℚ
  polls : Nat
  slept : List ℚ

namespace Waiting

variable {η : Type} (serviceName : Text) (timeout checkInterval : ℚ)
  (history : Nat → NodesInfoManager η)

def start : Waiting where
  waitedTime := 0
  polls := 0
  slept := []

/-- One iteration of the loop, with the registry as it is at that poll.  `time.sleep` refuses
a negative interval. -/
def iterate (state : Waiting) : Waiting ⊕ (Except PyError Bool × Waiting) :=
  let polled := { state with polls := state.polls + 1 }
  if ((history state.polls).getServiceInfo serviceName).isSome then
    .inr (.ok true, polled)
  else if timeout ≤ state.waitedTime then
    .inr (.ok false, polled)
  else if checkInterval < 0 then
    .inr (.error .valueError, polled)
  else
    .inl { polled with
      waitedTime := state.waitedTime + checkInterval
      slept := state.slept ++ [checkInterval] }

/-- The call returns an answer, in a state. -/
def Returns (answer : Bool) (state : Waiting) : Prop :=
  Yields (iterate serviceName timeout checkInterval history) start (.ok answer, state)

/-- The service is found at a poll. -/
def FoundAt (poll : Nat) : Prop :=
  ((history poll).getServiceInfo serviceName).isSome = true

/-- The call returns after finitely many polls, at most one more than the intervals that
make up the timeout; its answer tells whether a poll found the service, and is `False` only
after sleeps that add up to the timeout. -/
def Settles : Prop :=
  ∃ answer state, Returns serviceName timeout checkInterval history answer state ∧
    (0 < checkInterval → state.polls ≤ ⌈timeout / checkInterval⌉₊ + 1) ∧
    (answer = true ↔ ∃ poll < state.polls, FoundAt serviceName history poll) ∧
    (answer = false → timeout ≤ state.slept.sum)

/-! ## The states of the loop -/

/-- After so many sleeps. -/
def after (sleeps : Nat) : Waiting where
  waitedTime := sleeps * checkInterval
  polls := sleeps
  slept := List.replicate sleeps checkInterval

/-- The loop ends at the poll after so many sleeps. -/
def Stops (sleeps : Nat) : Prop :=
  FoundAt serviceName history sleeps ∨ timeout ≤ sleeps * checkInterval

variable {serviceName timeout checkInterval history}

theorem after_zero : after checkInterval 0 = start := by
  rw [after, Nat.cast_zero, zero_mul]
  rfl

theorem iterate_of_not_stops (accepted : 0 ≤ checkInterval) {sleeps : Nat}
    (goesOn : ¬ Stops serviceName timeout checkInterval history sleeps) :
    iterate serviceName timeout checkInterval history (after checkInterval sleeps) =
      .inl (after checkInterval (sleeps + 1)) := by
  rcases not_or.1 goesOn with ⟨missing, early⟩
  have missed : ¬ ((history (after checkInterval sleeps).polls).getServiceInfo
      serviceName).isSome = true := missing
  have waits : ¬ timeout ≤ (after checkInterval sleeps).waitedTime := early
  rw [iterate, if_neg missed, if_neg waits, if_neg (not_lt.2 accepted)]
  simp only [after, Nat.cast_add, Nat.cast_one, add_mul, one_mul, List.replicate_succ']

theorem iterate_of_stops {sleeps : Nat}
    (stops : Stops serviceName timeout checkInterval history sleeps) :
    iterate serviceName timeout checkInterval history (after checkInterval sleeps) =
      .inr (.ok ((history sleeps).getServiceInfo serviceName).isSome,
        { after checkInterval sleeps with polls := sleeps + 1 }) := by
  by_cases found : FoundAt serviceName history sleeps
  · have hit : ((history (after checkInterval sleeps).polls).getServiceInfo
        serviceName).isSome = true := found
    rw [iterate, if_pos hit]
    exact congrArg (fun answer => Sum.inr (Except.ok answer, _)) found.symm
  · have missed : ¬ ((history (after checkInterval sleeps).polls).getServiceInfo
        serviceName).isSome = true := found
    have late : timeout ≤ (after checkInterval sleeps).waitedTime := stops.resolve_left found
    rw [iterate, if_neg missed, if_pos late]
    exact congrArg (fun answer => Sum.inr (Except.ok answer, _))
      (Bool.eq_false_of_not_eq_true found).symm

/-- The call returns at the first poll at which the loop ends. -/
theorem returns_iff (accepted : 0 ≤ checkInterval) {answer : Bool} {state : Waiting} :
    Returns serviceName timeout checkInterval history answer state ↔
      ∃ sleeps,
        (∀ earlier < sleeps, ¬ Stops serviceName timeout checkInterval history earlier) ∧
        Stops serviceName timeout checkInterval history sleeps ∧
        answer = ((history sleeps).getServiceInfo serviceName).isSome ∧
        state = { after checkInterval sleeps with polls := sleeps + 1 } := by
  have goesOn : ∀ sleeps, ¬ Stops serviceName timeout checkInterval history sleeps →
      iterate serviceName timeout checkInterval history (after checkInterval sleeps) =
        .inl (after checkInterval (sleeps + 1)) :=
    fun _ => iterate_of_not_stops accepted
  have yields : ∀ sleeps, Stops serviceName timeout checkInterval history sleeps →
      iterate serviceName timeout checkInterval history (after checkInterval sleeps) =
        .inr (.ok ((history sleeps).getServiceInfo serviceName).isSome,
          { after checkInterval sleeps with polls := sleeps + 1 }) :=
    fun _ => iterate_of_stops
  have first := yields_iff_of_iterations goesOn yields (.ok answer, state)
  rw [after_zero] at first
  apply first.trans
  simp only [Prod.mk.injEq, Except.ok.injEq]

/-! ## When a call settles -/

/-- A positive interval adds up to the timeout. -/
theorem stops_ceil (positive : 0 < checkInterval) :
    Stops serviceName timeout checkInterval history ⌈timeout / checkInterval⌉₊ := by
  have enough := Nat.le_ceil (timeout / checkInterval)
  exact Or.inr ((div_le_iff₀ positive).1 enough)

theorem settles_of_stops (accepted : 0 ≤ checkInterval) {sleeps : Nat}
    (earlier : ∀ index < sleeps, ¬ Stops serviceName timeout checkInterval history index)
    (stops : Stops serviceName timeout checkInterval history sleeps) :
    Settles serviceName timeout checkInterval history := by
  refine ⟨_, _, (returns_iff accepted).2 ⟨sleeps, earlier, stops, rfl, rfl⟩, ?_, ?_, ?_⟩
  · intro positive
    apply Nat.succ_le_succ
    apply Nat.le_of_not_lt
    intro late
    exact earlier _ late (stops_ceil positive)
  · constructor
    · intro found
      exact ⟨sleeps, Nat.lt_succ_self sleeps, found⟩
    · rintro ⟨poll, before, found⟩
      rcases Nat.lt_succ_iff_lt_or_eq.1 before with less | same
      · exact absurd (Or.inl found) (earlier poll less)
      · exact same ▸ found
  · intro missed
    have missing : ¬ FoundAt serviceName history sleeps := by
      intro found
      cases missed.symm.trans found
    show timeout ≤ (List.replicate sleeps checkInterval).sum
    rw [List.sum_replicate, nsmul_eq_mul]
    exact stops.resolve_left missing

/-- With an interval that `time.sleep` accepts, a call returns as it should if and only if
the interval is positive, the timeout is over from the start, or some poll finds the
service. -/
theorem settles_iff (accepted : 0 ≤ checkInterval) :
    Settles serviceName timeout checkInterval history ↔
      0 < checkInterval ∨ timeout ≤ 0 ∨ ∃ poll, FoundAt serviceName history poll := by
  classical
  constructor
  · rintro ⟨answer, state, returns, _⟩
    rcases (returns_iff accepted).1 returns with ⟨sleeps, _, stops, _⟩
    rcases stops with found | late
    · exact Or.inr (Or.inr ⟨sleeps, found⟩)
    · rcases accepted.lt_or_eq with positive | zero
      · exact Or.inl positive
      · rw [← zero, mul_zero] at late
        exact Or.inr (Or.inl late)
  · intro condition
    have ends : ∃ sleeps, Stops serviceName timeout checkInterval history sleeps := by
      rcases condition with positive | late | ⟨poll, found⟩
      · exact ⟨_, stops_ceil positive⟩
      · refine ⟨0, Or.inr ?_⟩
        rw [Nat.cast_zero, zero_mul]
        exact late
      · exact ⟨poll, Or.inl found⟩
    exact settles_of_stops accepted (fun _ earlier => Nat.find_min ends earlier)
      (Nat.find_spec ends)

/-- A registry that never hears of a service. -/
def silent : Nat → NodesInfoManager Unit :=
  fun _ => NodesInfoManager.init "viewer" "192.168.0.9" "123e4567-e89b-12d3-a456-426614174001"

theorem settles_iff_silent :
    0 ≤ (1 / 10 : ℚ) ∧ Settles "grab" 5 (1 / 10) silent := by
  have accepted : 0 ≤ (1 / 10 : ℚ) := by norm_num
  exact ⟨accepted, (settles_iff accepted).2 (Or.inl (by norm_num))⟩

/-- A call that polls without a pause and finds nothing never returns. -/
theorem not_settles_silent : 0 ≤ (0 : ℚ) ∧ ¬ Settles "grab" 5 0 silent := by
  refine ⟨le_refl _, ?_⟩
  rintro ⟨answer, state, returns, _⟩
  rcases (returns_iff (le_refl _)).1 returns with ⟨sleeps, _, found | late, _⟩
  · cases found
  · rw [mul_zero] at late
    norm_num at late

end Waiting

end Pyzlc
