import Mathlib.Data.List.Basic
import Pyzlc.Foundation.Effect

/-!
# Loops that raise

A loop whose iterations may raise does its items in order and stops at the first one that
fails.  What fails is a property of the state that the other items do not change, so it is
known before the loop starts, and with it how far the loop gets.
-/

namespace Pyzlc.Foundation.Action

universe u

variable {ε σ α : Type u}

/-- A list up to its first failing item, that item, and what is behind it. -/
structure FirstFailure (fails : α → Prop) (items before : List α) (failed : α)
    (behind : List α) : Prop where
  split : items = before ++ failed :: behind
  earlier : ∀ item ∈ before, ¬ fails item
  fails : fails failed

theorem FirstFailure.cons {fails : α → Prop} {items before behind : List α} {item failed : α}
    (first : FirstFailure fails items before failed behind) (succeeds : ¬ fails item) :
    FirstFailure fails (item :: items) (item :: before) failed behind where
  split := by rw [first.split, List.cons_append]
  earlier := by
    intro other member
    rcases List.mem_cons.1 member with rfl | earlier
    · exact succeeds
    · exact first.earlier other earlier
  fails := first.fails

/-- A list has one first failing item. -/
theorem FirstFailure.unique {fails : α → Prop} {items before behind before' behind' : List α}
    {failed failed' : α} (first : FirstFailure fails items before failed behind)
    (second : FirstFailure fails items before' failed' behind') :
    before = before' ∧ behind = behind' := by
  have same := first.split.symm.trans second.split
  rcases List.append_eq_append_iff.1 same with ⟨middle, longer, rest⟩ | ⟨middle, longer, rest⟩
  · cases middle with
    | nil =>
        cases rest
        exact ⟨by rw [longer, List.append_nil], rfl⟩
    | cons head others =>
        cases rest
        have member : failed ∈ before' := by
          rw [longer]
          exact List.mem_append_right _ List.mem_cons_self
        exact absurd first.fails (second.earlier failed member)
  · cases middle with
    | nil =>
        cases rest
        exact ⟨by rw [longer, List.append_nil], rfl⟩
    | cons head others =>
        cases rest
        have member : failed' ∈ before := by
          rw [longer]
          exact List.mem_append_right _ List.mem_cons_self
        exact absurd second.fails (first.earlier failed' member)

/-- What a loop attempts, one item after another: an item that does not fail is done and
changes nothing of what fails, one that fails raises. -/
structure Attempts (perform : α → Action ε σ PUnit) (fails done : σ → α → Prop) : Prop where
  returns : ∀ state item, ¬ fails state item → ∃ next, (perform item).run state = .ok ⟨⟩ next ∧
    (∀ other, fails next other ↔ fails state other) ∧
    ∀ other, done next other ↔ done state other ∨ other = item
  raises : ∀ state item, fails state item → ∃ error next,
    (perform item).run state = .error error next ∧
    ∀ other, ¬ fails state other → (done next other ↔ done state other)

namespace Attempts

variable {perform : α → Action ε σ PUnit} {fails done : σ → α → Prop}

/-- A loop does the items in front of the first failing one, or all if none fails. -/
theorem after_forM (attempts : Attempts perform fails done) (items : List α) (state : σ) :
    ∃ before, ((∀ item ∈ items, ¬ fails state item) ∧ before = items ∨
        ∃ failed behind, FirstFailure (fails state) items before failed behind) ∧
      ∀ other, ¬ fails state other →
        (done ((forM items perform).after state) other ↔ done state other ∨ other ∈ before) := by
  induction items generalizing state with
  | nil =>
      refine ⟨[], Or.inl ⟨nofun, rfl⟩, ?_⟩
      intro other _
      show done state other ↔ _
      simp
  | cons item rest ih =>
      rw [List.forM_cons]
      by_cases failing : fails state item
      · rcases attempts.raises state item failing with ⟨error, next, ran, left⟩
        refine ⟨[], Or.inr ⟨item, rest, rfl, nofun, failing⟩, ?_⟩
        intro other succeeds
        rw [after_of_error (bind_of_error ran), left other succeeds]
        simp
      · rcases attempts.returns state item failing with ⟨next, ran, sameFails, nowDone⟩
        have same : fails next = fails state := funext fun other => propext (sameFails other)
        rcases ih next with ⟨before, stops, effect⟩
        rw [same] at stops effect
        refine ⟨item :: before, ?_, ?_⟩
        · rcases stops with ⟨succeed, rfl⟩ | ⟨failed, behind, first⟩
          · exact Or.inl ⟨List.forall_mem_cons.2 ⟨failing, succeed⟩, rfl⟩
          · exact Or.inr ⟨failed, behind, first.cons failing⟩
        · intro other succeeds
          rw [after_bind_of_ok ran, effect other succeeds, nowDone other, List.mem_cons, or_assoc]

/-- A loop does everything that would not fail if and only if nothing of that stands behind
the first failing item, apart from what was done already or stands in front of it too. -/
theorem all_done_iff (attempts : Attempts perform fails done) (items : List α) (state : σ) :
    (∀ item ∈ items, ¬ fails state item → done ((forM items perform).after state) item) ↔
      ∀ before failed behind, FirstFailure (fails state) items before failed behind →
        ∀ item ∈ behind, ¬ fails state item → done state item ∨ item ∈ before := by
  rcases attempts.after_forM items state with ⟨before, stops, effect⟩
  rcases stops with ⟨succeed, rfl⟩ | ⟨failed, behind, first⟩
  · apply iff_of_true
    · intro item member succeeds
      exact (effect item succeeds).2 (Or.inr member)
    · intro earlier failed behind first
      have member : failed ∈ before := by
        rw [first.split]
        exact List.mem_append_right _ List.mem_cons_self
      exact absurd first.fails (succeed failed member)
  · constructor
    · intro all earlier failed' behind' first' item member succeeds
      rcases first.unique first' with ⟨rfl, rfl⟩
      apply (effect item succeeds).1
      apply all item _ succeeds
      rw [first.split]
      exact List.mem_append_right _ (List.mem_cons_of_mem _ member)
    · intro condition item member succeeds
      apply (effect item succeeds).2
      rw [first.split] at member
      rcases List.mem_append.1 member with earlier | later
      · exact Or.inr earlier
      · rcases List.mem_cons.1 later with rfl | later
        · exact absurd first.fails succeeds
        · exact condition before failed behind first item later succeeds

end Attempts

end Pyzlc.Foundation.Action
