import Mathlib.Init

/-!
# Stateful actions whose exceptions undo nothing

An action reads and writes a state and may raise.  Raising keeps what was written
before, so a half-finished mutation stays visible: `EStateM` without backtracking.
The rules relate the state before an action to the state it leaves behind however
it ends, and describe a loop whose body never raises.
-/

namespace Pyzlc.Foundation

universe u

/-- An action on a state of type `σ` that may raise an `ε`. -/
abbrev Action (ε σ α : Type u) := EStateM ε σ α

namespace Action

variable {ε σ τ α β : Type u}

/-- The state left behind, whether the action returned or raised. -/
def after (action : Action ε σ α) (state : σ) : σ :=
  match action.run state with
  | .ok _ next => next
  | .error _ next => next

@[simp] theorem after_of_ok {action : Action ε σ α} {state next : σ} {value : α}
    (ran : action.run state = .ok value next) : action.after state = next := by
  simp [after, ran]

@[simp] theorem after_of_error {action : Action ε σ α} {state next : σ} {error : ε}
    (ran : action.run state = .error error next) : action.after state = next := by
  simp [after, ran]

/-- The result of an action followed by another. -/
theorem run_bind (action : Action ε σ α) (rest : α → Action ε σ β) (state : σ) :
    (action >>= rest).run state =
      match action.run state with
      | .ok value next => (rest value).run next
      | .error error next => .error error next := rfl

theorem bind_of_ok {action : Action ε σ α} {rest : α → Action ε σ β} {state next : σ}
    {value : α} (ran : action.run state = .ok value next) :
    (action >>= rest).run state = (rest value).run next := by
  rw [run_bind, ran]

theorem bind_of_error {action : Action ε σ α} {rest : α → Action ε σ β} {state next : σ}
    {error : ε} (ran : action.run state = .error error next) :
    (action >>= rest).run state = .error error next := by
  rw [run_bind, ran]

theorem run_get (state : σ) : (get : Action ε σ σ).run state = .ok state state := rfl

/-- What a sequence leaves behind, if its first part returned. -/
theorem after_bind_of_ok {action : Action ε σ α} {rest : α → Action ε σ β} {state next : σ}
    {value : α} (ran : action.run state = .ok value next) :
    (action >>= rest).after state = (rest value).after next := by
  simp only [after, bind_of_ok ran]

/-- An exception handler that goes on keeps what the action wrote. -/
theorem run_tryCatch (action : Action ε σ PUnit) (state : σ) :
    (tryCatch action fun _ => pure ⟨⟩).run state = .ok ⟨⟩ (action.after state) := by
  show EStateM.tryCatch action _ state = _
  delta EStateM.tryCatch
  simp only [after, EStateM.run]
  cases action state <;> rfl

/-! ## Acting on a part of the state -/

/-- Run an action on the part of a larger state that a pair of accessors selects. -/
def zoom (get : τ → σ) (put : σ → τ → τ) (action : Action ε σ α) : Action ε τ α :=
  fun whole =>
    match action.run (get whole) with
    | .ok value part => .ok value (put part whole)
    | .error error part => .error error (put part whole)

theorem run_zoom (get : τ → σ) (put : σ → τ → τ) (action : Action ε σ α) (whole : τ) :
    (zoom get put action).run whole =
      match action.run (get whole) with
      | .ok value part => .ok value (put part whole)
      | .error error part => .error error (put part whole) := rfl

theorem run_zoom_of_ok {get : τ → σ} {put : σ → τ → τ} {action : Action ε σ α} {whole : τ}
    {value : α} {part : σ} (ran : action.run (get whole) = .ok value part) :
    (zoom get put action).run whole = .ok value (put part whole) := by
  rw [run_zoom, ran]

theorem run_zoom_of_error {get : τ → σ} {put : σ → τ → τ} {action : Action ε σ α} {whole : τ}
    {error : ε} {part : σ} (ran : action.run (get whole) = .error error part) :
    (zoom get put action).run whole = .error error (put part whole) := by
  rw [run_zoom, ran]

theorem after_zoom (get : τ → σ) (put : σ → τ → τ) (action : Action ε σ α) (whole : τ) :
    (zoom get put action).after whole = put (action.after (get whole)) whole := by
  simp only [after, zoom, EStateM.run]
  cases action (get whole) <;> rfl

/-! ## What an action guarantees about the state it leaves -/

/-- However the action ends, the state before and the state after are related. -/
def Guarantees (relation : σ → σ → Prop) (action : Action ε σ α) : Prop :=
  ∀ state, relation state (action.after state)

section Guarantees

variable {relation : σ → σ → Prop}

theorem guarantees_zoom {get : τ → σ} {put : σ → τ → τ} {action : Action ε σ α}
    {whole : τ → τ → Prop} (part : Guarantees relation action)
    (lift : ∀ state next, relation (get state) next → whole state (put next state)) :
    Guarantees whole (zoom get put action) := by
  intro state
  rw [after_zoom]
  exact lift state _ (part (get state))

variable (refl : ∀ state, relation state state)

include refl in
theorem guarantees_pure (value : α) :
    Guarantees relation (pure value : Action ε σ α) := refl

include refl in
theorem guarantees_get : Guarantees relation (get : Action ε σ σ) := refl

include refl in
theorem guarantees_throw (error : ε) :
    Guarantees relation (throw error : Action ε σ α) := refl

variable (trans : ∀ first second third,
  relation first second → relation second third → relation first third)

include trans in
theorem guarantees_bind {action : Action ε σ α} {rest : α → Action ε σ β}
    (first : Guarantees relation action)
    (second : ∀ value, Guarantees relation (rest value)) :
    Guarantees relation (action >>= rest) := by
  intro state
  have step := first state
  cases ran : action.run state with
  | ok value next =>
      rw [after_of_ok ran] at step
      rw [after_bind_of_ok ran]
      exact trans _ _ _ step (second value next)
  | error error next =>
      rw [after_of_error ran] at step
      rw [after_of_error (bind_of_error ran)]
      exact step

include refl trans in
/-- The loop rule: what every iteration guarantees, the loop guarantees. -/
theorem guarantees_forM {body : α → Action ε σ PUnit} (items : List α)
    (every : ∀ item, Guarantees relation (body item)) :
    Guarantees relation (forM items body) := by
  induction items with
  | nil => exact guarantees_pure refl _
  | cons item rest ih =>
      rw [List.forM_cons]
      exact guarantees_bind trans (every item) fun _ => ih

end Guarantees

/-! ## Equal loops -/

/-- A loop over a part of the state is the part's loop, if the accessors select a part. -/
theorem run_forM_zoom (get : τ → σ) (put : σ → τ → τ)
    (get_put : ∀ part whole, get (put part whole) = part)
    (put_get : ∀ whole, put (get whole) whole = whole)
    (put_put : ∀ first second whole, put first (put second whole) = put first whole)
    (body : α → Action ε σ PUnit) (items : List α) (whole : τ) :
    (forM items fun item => zoom get put (body item)).run whole =
      (zoom get put (forM items body)).run whole := by
  induction items generalizing whole with
  | nil =>
      show EStateM.Result.ok _ whole = .ok _ (put (get whole) whole)
      rw [put_get]
  | cons item rest ih =>
      simp only [List.forM_cons, run_bind, run_zoom]
      cases ran : (body item).run (get whole) with
      | error error part => rfl
      | ok value part =>
          simp only [ih, run_zoom, get_put]
          cases (forM rest body).run part with
          | error error part => simp only [put_put]
          | ok value part => simp only [put_put]

/-- A loop over lists of items, one list for each outer item. -/
theorem forM_flatMap (parts : α → List β) (body : β → Action ε σ PUnit) (items : List α) :
    forM (items.flatMap parts) body = forM items fun item => forM (parts item) body := by
  induction items with
  | nil => rfl
  | cons item rest ih => rw [List.flatMap_cons, List.forM_append, List.forM_cons, ih]

/-- Two loops whose iterations agree on the states of an invariant. -/
theorem run_forM_congr {body other : α → Action ε σ PUnit} (invariant : σ → Prop)
    (kept : ∀ item state, invariant state → invariant ((other item).after state))
    (same : ∀ item state, invariant state → (body item).run state = (other item).run state)
    (items : List α) (state : σ) (holds : invariant state) :
    (forM items body).run state = (forM items other).run state := by
  induction items generalizing state with
  | nil => rfl
  | cons item rest ih =>
      have still := kept item state holds
      simp only [List.forM_cons, run_bind, same item state holds]
      cases ran : (other item).run state with
      | error error next => rfl
      | ok value next =>
          rw [after_of_ok ran] at still
          exact ih next still

/-! ## Loops that never raise -/

/-- If an invariant of the remaining items and the state lets every iteration
return, the loop returns and has folded the iterations' effects. -/
theorem forM_eq_ok {body : α → Action ε σ PUnit} {effect : σ → α → σ}
    (invariant : List α → σ → Prop)
    (iteration : ∀ item rest state, invariant (item :: rest) state →
      (body item).run state = .ok ⟨⟩ (effect state item) ∧ invariant rest (effect state item)) :
    ∀ (items : List α) (state : σ), invariant items state →
      (forM items body).run state = .ok ⟨⟩ (items.foldl effect state) := by
  intro items
  induction items with
  | nil => intro state _; rfl
  | cons item rest ih =>
      intro state holds
      obtain ⟨ran, remains⟩ := iteration item rest state holds
      rw [List.forM_cons, bind_of_ok ran]
      exact ih _ remains

end Action

end Pyzlc.Foundation
