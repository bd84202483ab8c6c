import Pyzlc.Foundation.Effect
import Pyzlc.Foundation.Machine

/-!
# Two levels of one program

An action mirrors an action on other states if, through a map of the states, both return or raise
the same and leave corresponding states.  Sequences, loops and parts of mirroring actions mirror
each other.  Where every step of a machine mirrors a step of another one, their runs do; where it
only corresponds to some steps of a specification, every run is one of the specification.
-/

namespace Pyzlc.Foundation

universe u v w x

namespace Action

variable {ε σ τ α β ρ π : Type u}

/-- The result with another state. -/
def mapState (image : σ → τ) : EStateM.Result ε σ α → EStateM.Result ε τ α
  | .ok value state => .ok value (image state)
  | .error error state => .error error (image state)

/-- The first action does on the image of a state what the second does on the state. -/
def Mirrors (image : σ → τ) (action : Action ε τ α) (other : Action ε σ α) : Prop :=
  ∀ state, action.run (image state) = mapState image (other.run state)

variable {image : σ → τ}

theorem mirrors_pure (value : α) :
    Mirrors image (pure value : Action ε τ α) (pure value) := fun _ => rfl

theorem mirrors_modify {write : τ → τ} {other : σ → σ}
    (same : ∀ state, write (image state) = image (other state)) :
    Mirrors image (modify write : Action ε τ PUnit) (modify other) := by
  intro state
  show EStateM.Result.ok PUnit.unit (write (image state)) = .ok PUnit.unit (image (other state))
  rw [same]

/-- An action that begins with reading the state. -/
theorem mirrors_get {action : τ → Action ε τ α} {other : σ → Action ε σ α}
    (rest : ∀ state, (action (image state)).run (image state) =
      mapState image ((other state).run state)) :
    Mirrors image (get >>= action) (get >>= other) := by
  intro state
  rw [bind_of_ok (run_get (image state)), bind_of_ok (run_get state)]
  exact rest state

theorem Mirrors.bind {action : Action ε τ α} {other : Action ε σ α} {rest : α → Action ε τ β}
    {otherRest : α → Action ε σ β} (first : Mirrors image action other)
    (second : ∀ value, Mirrors image (rest value) (otherRest value)) :
    Mirrors image (action >>= rest) (other >>= otherRest) := by
  intro state
  rw [run_bind, run_bind, first state]
  cases other.run state with
  | ok value next => exact second value next
  | error error next => rfl

/-- A loop over the images of the items. -/
theorem mirrors_forM {body : β → Action ε τ PUnit} {other : α → Action ε σ PUnit} {key : α → β}
    (every : ∀ item, Mirrors image (body (key item)) (other item)) (items : List α) :
    Mirrors image (forM (items.map key) body) (forM items other) := by
  induction items with
  | nil => exact mirrors_pure _
  | cons item rest ih =>
      rw [List.map_cons, List.forM_cons, List.forM_cons]
      exact (every item).bind fun _ => ih

/-- An action on a part. -/
theorem mirrors_zoom {part : ρ → π} {readPart : τ → π} {readOther : σ → ρ} {write : π → τ → τ}
    {writeOther : ρ → σ → σ} {action : Action ε π α} {other : Action ε ρ α}
    (inner : Mirrors part action other)
    (read : ∀ state, readPart (image state) = part (readOther state))
    (written : ∀ left state, write (part left) (image state) = image (writeOther left state)) :
    Mirrors image (zoom readPart write action) (zoom readOther writeOther other) := by
  intro state
  rw [run_zoom, run_zoom, read, inner (readOther state)]
  cases other.run (readOther state) with
  | ok value left =>
      show EStateM.Result.ok value (write (part left) (image state)) = _
      rw [written]
      rfl
  | error error left =>
      show EStateM.Result.error error (write (part left) (image state)) = _
      rw [written]
      rfl

theorem Mirrors.after {action : Action ε τ α} {other : Action ε σ α}
    (mirrors : Mirrors image action other) (state : σ) :
    action.after (image state) = image (other.after state) := by
  have ran := mirrors state
  cases outcome : other.run state with
  | ok value next =>
      rw [outcome] at ran
      rw [after_of_ok ran, after_of_ok outcome]
  | error error next =>
      rw [outcome] at ran
      rw [after_of_error ran, after_of_error outcome]

end Action

namespace Machine

section Mirroring

variable {σ : Type u} {ε : Type v} {τ : Type w} {δ : Type x} {machine : Machine σ ε}
  {other : Machine τ δ} {image : σ → τ} {carried : ε → δ → Prop}

theorem execFrom_of_mirrored
    (step : ∀ state event action, carried event action →
      other.step (image state) action = (machine.step state event).map image)
    {trace : List ε} {actions : List δ} (events : List.Forall₂ carried trace actions) (state : σ) :
    other.execFrom (image state) actions = (machine.execFrom state trace).map image := by
  induction events generalizing state with
  | nil => rfl
  | @cons event action trace actions first _ ih =>
      rw [execFrom, execFrom, step state event action first]
      cases machine.step state event with
      | none => rfl
      | some next => exact ih next

/-- The runs of a machine whose steps mirror those of another one mirror its runs. -/
theorem exec_of_mirrored (start : other.start = image machine.start)
    (step : ∀ state event action, carried event action →
      other.step (image state) action = (machine.step state event).map image)
    {trace : List ε} {actions : List δ} (events : List.Forall₂ carried trace actions) :
    other.exec actions = (machine.exec trace).map image := by
  rw [exec, start]
  exact execFrom_of_mirrored step events machine.start

end Mirroring

section Specification

variable {σ : Type u} {ε : Type v} {τ : Type w} {δ : Type x} {machine : Machine σ ε}
  {specification : Machine τ δ} {relation : σ → τ → Prop} {actions : σ → ε → List δ}

/-- What a run of a machine is to its specification. -/
def actionsAlong (machine : Machine σ ε) (actions : σ → ε → List δ) : σ → List ε → List δ
  | _, [] => []
  | state, event :: rest =>
      actions state event ++
        match machine.step state event with
        | some next => actionsAlong machine actions next rest
        | none => []

theorem execFrom_of_simulated
    (step : ∀ state event next abstract, relation state abstract →
      machine.step state event = some next →
      ∃ later, specification.execFrom abstract (actions state event) = some later ∧
        relation next later)
    {trace : List ε} {state final : σ} {abstract : τ} (related : relation state abstract)
    (run : machine.execFrom state trace = some final) :
    ∃ last, specification.execFrom abstract (machine.actionsAlong actions state trace) =
        some last ∧ relation final last := by
  induction trace generalizing state abstract with
  | nil =>
      cases run
      exact ⟨abstract, rfl, related⟩
  | cons event rest ih =>
      rcases Option.bind_eq_some_iff.1 run with ⟨next, stepped, later⟩
      rcases step state event next abstract related stepped with ⟨middle, taken, relatedNext⟩
      rcases ih relatedNext later with ⟨last, ends, relatedLast⟩
      refine ⟨last, ?_, relatedLast⟩
      rw [actionsAlong, stepped, execFrom_append, taken]
      exact ends

/-- Every run of a machine that is simulated is a run of its specification. -/
theorem exec_of_simulated (start : relation machine.start specification.start)
    (step : ∀ state event next abstract, relation state abstract →
      machine.step state event = some next →
      ∃ later, specification.execFrom abstract (actions state event) = some later ∧
        relation next later)
    {trace : List ε} {final : σ} (run : machine.exec trace = some final) :
    ∃ last, specification.exec (machine.actionsAlong actions machine.start trace) = some last ∧
      relation final last :=
  execFrom_of_simulated step start run

end Specification

end Machine

end Pyzlc.Foundation
