import Mathlib.Data.List.Basic
import Pyzlc.Foundation.Effect

/-!
# How far a loop gets

A loop whose iterations leave a known state and may raise a known exception.  It visits its
items up to the first one that raises, that one included, so it visits all of them exactly
if none but the last raises.
-/

namespace Pyzlc.Foundation.Action

universe u

variable {ε σ α : Type u}

/-- An iteration that leaves a state, by what it raises. -/
def ended : Option ε → σ → EStateM.Result ε σ PUnit
  | none, next => .ok ⟨⟩ next
  | some error, next => .error error next

variable (raises : σ → α → Option ε) (effect : σ → α → σ)

/-- No item raises. -/
def Passes : List α → σ → Prop
  | [], _ => True
  | item :: rest, state => raises state item = none ∧ Passes rest (effect state item)

/-- The items that are visited. -/
def visited : List α → σ → List α
  | [], _ => []
  | item :: rest, state =>
      item :: if (raises state item).isSome then [] else visited rest (effect state item)

instance decidablePasses : ∀ items state, Decidable (Passes raises effect items state)
  | [], _ => isTrue trivial
  | item :: rest, state =>
      have := decidablePasses rest (effect state item)
      decidable_of_iff ((raises state item).isNone ∧ Passes raises effect rest (effect state item))
        (by rw [Option.isNone_iff_eq_none]; rfl)

variable {raises effect}

theorem visited_cons_of_none {state : σ} {item : α} (returns : raises state item = none)
    (rest : List α) :
    visited raises effect (item :: rest) state =
      item :: visited raises effect rest (effect state item) := by
  rw [visited, returns]
  rfl

theorem visited_cons_of_some {state : σ} {item : α} {error : ε}
    (raised : raises state item = some error) (rest : List α) :
    visited raises effect (item :: rest) state = [item] := by
  rw [visited, raised]
  rfl

theorem visited_of_passes {items : List α} {state : σ}
    (passes : Passes raises effect items state) : visited raises effect items state = items := by
  induction items generalizing state with
  | nil => rfl
  | cons item rest ih => rw [visited_cons_of_none passes.1, ih passes.2]

/-- The items that are visited come first. -/
theorem visited_initial (items : List α) (state : σ) :
    visited raises effect items state <+: items := by
  induction items generalizing state with
  | nil => exact List.nil_prefix
  | cons item rest ih =>
      cases outcome : raises state item with
      | none =>
          rw [visited_cons_of_none outcome]
          exact List.cons_prefix_cons.2 ⟨rfl, ih (effect state item)⟩
      | some error =>
          rw [visited_cons_of_some outcome]
          exact List.cons_prefix_cons.2 ⟨rfl, List.nil_prefix⟩

/-- A loop visits all its items exactly if none but the last raises. -/
theorem visited_eq_self_iff {items : List α} {state : σ} :
    visited raises effect items state = items ↔ Passes raises effect items.dropLast state := by
  induction items generalizing state with
  | nil => exact iff_of_true rfl trivial
  | cons item rest ih =>
      cases outcome : raises state item with
      | none =>
          rw [visited_cons_of_none outcome, List.cons_inj_right, ih]
          cases rest with
          | nil => exact iff_of_true trivial trivial
          | cons next others =>
              rw [List.dropLast_cons_cons]
              exact (and_iff_right outcome).symm
      | some error =>
          rw [visited_cons_of_some outcome]
          cases rest with
          | nil => exact iff_of_true rfl trivial
          | cons next others =>
              apply iff_of_false
              · nofun
              · intro passes
                rw [List.dropLast_cons_cons] at passes
                exact nomatch outcome.symm.trans passes.1

/-- A loop visits all its items and more exactly if there is nothing more. -/
theorem visited_eq_append_iff {items others : List α} {state : σ} :
    visited raises effect items state = items ++ others ↔
      Passes raises effect items.dropLast state ∧ others = [] := by
  constructor
  · intro same
    have shorter : (visited raises effect items state).length ≤ items.length :=
      (visited_initial items state).length_le
    rw [same, List.length_append] at shorter
    have none : others = [] := List.length_eq_zero_iff.1 (by omega)
    rw [none, List.append_nil] at same
    exact ⟨visited_eq_self_iff.1 same, none⟩
  · rintro ⟨passes, rfl⟩
    rw [List.append_nil]
    exact visited_eq_self_iff.2 passes

variable {body : α → Action ε σ PUnit}
  (ends : ∀ state item, (body item).run state = ended (raises state item) (effect state item))

include ends

theorem run_forM_of_passes {items : List α} {state : σ}
    (passes : Passes raises effect items state) :
    (forM items body).run state = .ok ⟨⟩ (items.foldl effect state) := by
  induction items generalizing state with
  | nil => rfl
  | cons item rest ih =>
      have returned := ends state item
      rw [passes.1] at returned
      rw [List.forM_cons, bind_of_ok returned, ih passes.2]
      rfl

theorem run_forM_of_not_passes {items : List α} {state : σ}
    (stops : ¬ Passes raises effect items state) :
    ∃ error, (forM items body).run state =
      .error error ((visited raises effect items state).foldl effect state) := by
  induction items generalizing state with
  | nil => exact absurd trivial stops
  | cons item rest ih =>
      have ran := ends state item
      cases outcome : raises state item with
      | none =>
          rw [outcome] at ran
          rcases ih fun passes => stops ⟨outcome, passes⟩ with ⟨error, raised⟩
          refine ⟨error, ?_⟩
          rw [List.forM_cons, bind_of_ok ran, raised, visited_cons_of_none outcome]
          rfl
      | some error =>
          rw [outcome] at ran
          refine ⟨error, ?_⟩
          rw [List.forM_cons, bind_of_error ran, visited_cons_of_some outcome]
          rfl

/-- However a loop ends, it leaves the effects of the items it visited. -/
theorem after_forM_visited (items : List α) (state : σ) :
    (forM items body).after state = (visited raises effect items state).foldl effect state := by
  by_cases passes : Passes raises effect items state
  · rw [after_of_ok (run_forM_of_passes ends passes), visited_of_passes passes]
  · rcases run_forM_of_not_passes ends passes with ⟨error, raised⟩
    exact after_of_error raised

end Pyzlc.Foundation.Action
