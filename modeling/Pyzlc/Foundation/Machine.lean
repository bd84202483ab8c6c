import Mathlib.Data.List.Infix

/-!
# Machines and their runs

A machine is a partial deterministic step function whose events carry every choice
of the environment: which party moves, what the network delivers, what the clock
reads.  Quantifying over event lists is then quantifying over all interleavings.

The two families of rules below are the ones proofs about runs use: an invariant
of every reachable state, and the exact condition on the steps of a run under
which a property holds in all of its states.
-/

namespace Pyzlc.Foundation

universe u v w x

/-- A partial step function with a start state. -/
structure Machine (σ : Type u) (ε : Type v) where
  start : σ
  step : σ → ε → Option σ

namespace Machine

variable {σ : Type u} {ε : Type v} (machine : Machine σ ε)

/-- Take a list of events one after another. -/
def execFrom : σ → List ε → Option σ
  | state, [] => some state
  | state, event :: rest => (machine.step state event).bind fun next => execFrom next rest

/-- Take a list of events from the start state. -/
def exec (trace : List ε) : Option σ := machine.execFrom machine.start trace

/-- A state that some run ends in. -/
def Reachable (state : σ) : Prop := ∃ trace, machine.exec trace = some state

variable {machine} {state next : σ} {event : ε} {trace : List ε}

theorem execFrom_append (first second : List ε) (state : σ) :
    machine.execFrom state (first ++ second) =
      (machine.execFrom state first).bind fun middle => machine.execFrom middle second := by
  induction first generalizing state with
  | nil => rfl
  | cons event rest ih =>
      simp only [List.cons_append, execFrom, Option.bind_assoc]
      congr 1
      funext middle
      exact ih middle

theorem execFrom_singleton : machine.execFrom state [event] = machine.step state event :=
  Option.bind_fun_some _

theorem execFrom_cons_of_step {rest : List ε} (stepped : machine.step state event = some next) :
    machine.execFrom state (event :: rest) = machine.execFrom next rest := by
  rw [execFrom, stepped, Option.bind_some]

theorem exec_snoc (trace : List ε) (event : ε) :
    machine.exec (trace ++ [event]) =
      (machine.exec trace).bind fun state => machine.step state event := by
  rw [exec, execFrom_append]
  congr 1
  funext middle
  cases stepped : machine.step middle event <;> simp [execFrom, stepped]

/-- The last step of a run that took one more event. -/
theorem exec_snoc_eq_some :
    machine.exec (trace ++ [event]) = some next ↔
      ∃ state, machine.exec trace = some state ∧ machine.step state event = some next := by
  rw [exec_snoc, Option.bind_eq_some_iff]

/-- Every prefix of a run is a run. -/
theorem exec_of_prefix {initial : List ε} (isPrefix : initial <+: trace)
    (run : machine.exec trace = some state) :
    ∃ middle, machine.exec initial = some middle := by
  obtain ⟨rest, rfl⟩ := isPrefix
  rw [exec, execFrom_append, Option.bind_eq_some_iff] at run
  obtain ⟨middle, reached, _⟩ := run
  exact ⟨middle, reached⟩

/-- A machine that takes every event runs along every trace. -/
theorem exec_of_total (total : ∀ state event, ∃ next, machine.step state event = some next)
    (trace : List ε) : ∃ state, machine.exec trace = some state := by
  induction trace using List.reverseRecOn with
  | nil => exact ⟨machine.start, rfl⟩
  | append_singleton trace event ih =>
      obtain ⟨state, before⟩ := ih
      obtain ⟨next, stepped⟩ := total state event
      exact ⟨next, exec_snoc_eq_some.2 ⟨state, before, stepped⟩⟩

theorem reachable_of_exec (run : machine.exec trace = some state) :
    machine.Reachable state := ⟨trace, run⟩

theorem Reachable.step (reachable : machine.Reachable state)
    (stepped : machine.step state event = some next) : machine.Reachable next := by
  obtain ⟨trace, run⟩ := reachable
  exact ⟨trace ++ [event], exec_snoc_eq_some.2 ⟨state, run, stepped⟩⟩

/-- Induction over a run, last event first. -/
theorem exec_induction {motive : List ε → σ → Prop}
    (start : motive [] machine.start)
    (step : ∀ trace state event next, machine.exec trace = some state →
      motive trace state → machine.step state event = some next →
      motive (trace ++ [event]) next)
    (run : machine.exec trace = some state) : motive trace state := by
  induction trace using List.reverseRecOn generalizing state with
  | nil =>
      cases run
      exact start
  | append_singleton trace event ih =>
      obtain ⟨middle, before, stepped⟩ := exec_snoc_eq_some.1 run
      exact step trace middle event state before (ih before) stepped

/-- What every step keeps, a run from a given state keeps. -/
theorem execFrom_invariant {motive : σ → Prop}
    (step : ∀ state event next, motive state → machine.step state event = some next →
      motive next)
    {final : σ} (holds : motive state) (run : machine.execFrom state trace = some final) :
    motive final := by
  induction trace generalizing state with
  | nil =>
      cases run
      exact holds
  | cons event rest ih =>
      rcases Option.bind_eq_some_iff.1 run with ⟨next, stepped, later⟩
      exact ih (step state event next holds stepped) later

/-- The invariant rule. -/
theorem Reachable.invariant {invariant : σ → Prop}
    (start : invariant machine.start)
    (step : ∀ state event next, machine.Reachable state → invariant state →
      machine.step state event = some next → invariant next)
    (reachable : machine.Reachable state) : invariant state := by
  obtain ⟨trace, run⟩ := reachable
  refine exec_induction (motive := fun _ state => invariant state) start ?_ run
  intro trace state event next before holds stepped
  exact step state event next ⟨trace, before⟩ holds stepped

/-! ## A record beside the state -/

/-- The machine with a record of its steps, which the steps do not depend on. -/
def recording {ρ : Type w} (machine : Machine σ ε) (start : ρ) (record : σ → ε → ρ → ρ) :
    Machine (σ × ρ) ε where
  start := (machine.start, start)
  step := fun state event =>
    (machine.step state.1 event).map fun next => (next, record state.1 event state.2)

section Recording

variable {ρ : Type w} {first : ρ} {record : σ → ε → ρ → ρ} {recorded nextRecorded : σ × ρ}

theorem recording_step :
    (machine.recording first record).step recorded event = some nextRecorded ↔
      machine.step recorded.1 event = some nextRecorded.1 ∧
        nextRecorded.2 = record recorded.1 event recorded.2 := by
  simp only [recording, Option.map_eq_some_iff]
  constructor
  · rintro ⟨next, stepped, rfl⟩
    exact ⟨stepped, rfl⟩
  · rintro ⟨stepped, same⟩
    exact ⟨nextRecorded.1, stepped, Prod.ext rfl same.symm⟩

/-- A run of the recording machine is a run. -/
theorem exec_of_recording
    (run : (machine.recording first record).exec trace = some recorded) :
    machine.exec trace = some recorded.1 := by
  refine exec_induction (motive := fun trace state => machine.exec trace = some state.1) rfl ?_ run
  intro trace state event next _ before stepped
  exact exec_snoc_eq_some.2 ⟨state.1, before, (recording_step.1 stepped).1⟩

theorem reachable_of_recording
    (reachable : (machine.recording first record).Reachable recorded) :
    machine.Reachable recorded.1 := by
  obtain ⟨trace, run⟩ := reachable
  exact ⟨trace, exec_of_recording run⟩

end Recording

/-! ## Properties along a run -/

variable (machine) in
/-- A property holds in every state of a run. -/
def StatesAlong (property : σ → Prop) (trace : List ε) : Prop :=
  ∀ initial state, initial <+: trace → machine.exec initial = some state → property state

variable (machine) in
/-- A condition holds of every step of a run, at the state the step is taken in. -/
def StepsAlong (condition : σ → ε → Prop) (trace : List ε) : Prop :=
  ∀ initial event state, initial ++ [event] <+: trace →
    machine.exec initial = some state → condition state event

variable {property : σ → Prop} {condition : σ → ε → Prop}

theorem StatesAlong.last (states : machine.StatesAlong property trace)
    (run : machine.exec trace = some state) : property state :=
  states trace state List.prefix_rfl run

variable (machine) in
/-- The same condition by recursion on the trace, from a given state on. -/
def StepsFrom (condition : σ → ε → Prop) : σ → List ε → Prop
  | _, [] => True
  | state, event :: rest =>
      condition state event ∧
        ∀ next, machine.step state event = some next → StepsFrom condition next rest

/-- A decidable condition is decided along a trace by taking its steps. -/
instance decidableStepsFrom [∀ state event, Decidable (condition state event)] :
    ∀ state trace, Decidable (machine.StepsFrom condition state trace)
  | _, [] => isTrue trivial
  | state, event :: rest =>
      match stepped : machine.step state event with
      | none => decidable_of_iff (condition state event) (by simp [StepsFrom, stepped])
      | some next =>
          have := decidableStepsFrom next rest
          decidable_of_iff (condition state event ∧ machine.StepsFrom condition next rest)
            (by simp [StepsFrom, stepped])

theorem stepsAlong_of_stepsFrom (steps : machine.StepsFrom condition machine.start trace) :
    machine.StepsAlong condition trace := by
  have fromState : ∀ (trace : List ε) (start : σ), machine.StepsFrom condition start trace →
      ∀ initial event state, initial ++ [event] <+: trace →
        machine.execFrom start initial = some state → condition state event := by
    intro trace
    induction trace with
    | nil =>
        intro start _ initial event state within
        cases List.append_eq_nil_iff.1 (List.prefix_nil.1 within) with
        | intro _ last => cases last
    | cons head rest ih =>
        intro start holds initial event state within reached
        cases initial with
        | nil =>
            cases reached
            cases (List.cons_prefix_cons.1 within).1
            exact holds.1
        | cons first others =>
            rcases List.cons_prefix_cons.1 within with ⟨rfl, shorter⟩
            rcases Option.bind_eq_some_iff.1 reached with ⟨middle, stepped, later⟩
            exact ih middle (holds.2 middle stepped) others event state shorter later
  exact fromState trace machine.start steps

/-- An invariant of the steps that meet a condition holds at the end of a run of such steps. -/
theorem StepsFrom.invariant (property : σ → Prop)
    (step : ∀ state event next, property state → condition state event →
      machine.step state event = some next → property next)
    {final : σ} (steps : machine.StepsFrom condition state trace) (holds : property state)
    (run : machine.execFrom state trace = some final) : property final := by
  induction trace generalizing state with
  | nil =>
      cases run
      exact holds
  | cons event rest ih =>
      rcases Option.bind_eq_some_iff.1 run with ⟨next, stepped, later⟩
      exact ih (steps.2 next stepped) (step state event next holds steps.1 stepped) later

/-- An invariant of the runs all of whose steps meet a condition. -/
theorem statesAlong_of_stepsAlong (property : σ → Prop)
    (start : property machine.start)
    (step : ∀ state event next, machine.Reachable state → property state →
      condition state event → machine.step state event = some next → property next)
    (steps : machine.StepsAlong condition trace) :
    machine.StatesAlong property trace := by
  intro initial
  induction initial using List.reverseRecOn with
  | nil =>
      rintro state - run
      cases run
      exact start
  | append_singleton initial event ih =>
      intro next within run
      obtain ⟨state, before, stepped⟩ := exec_snoc_eq_some.1 run
      have holds := ih state ((List.prefix_append _ _).trans within) before
      exact step state event next ⟨initial, before⟩ holds
        (steps initial event state within before) stepped

/-- If each step keeps a property and meets a requirement exactly under a condition, a run
has the property in all its states and meets the requirement in all its steps exactly when
all its steps meet the condition. -/
theorem statesAlong_and_stepsAlong_iff {requirement : σ → ε → Prop}
    (start : property machine.start)
    (exact_step : ∀ state event next, machine.Reachable state → property state →
      machine.step state event = some next →
      ((property next ∧ requirement state event) ↔ condition state event))
    (run : machine.exec trace = some state) :
    (machine.StatesAlong property trace ∧ machine.StepsAlong requirement trace) ↔
      machine.StepsAlong condition trace := by
  -- a step of the run, with the state it leads to
  have step_of_run : ∀ initial event middle, initial ++ [event] <+: trace →
      machine.exec initial = some middle →
      ∃ next, machine.exec (initial ++ [event]) = some next ∧
        machine.step middle event = some next := by
    intro initial event middle within before
    obtain ⟨next, after⟩ := exec_of_prefix within run
    obtain ⟨reached, same, stepped⟩ := exec_snoc_eq_some.1 after
    obtain rfl : reached = middle := Option.some.inj (same.symm.trans before)
    exact ⟨next, after, stepped⟩
  constructor
  · rintro ⟨states, requirements⟩ initial event middle within before
    obtain ⟨next, after, stepped⟩ := step_of_run initial event middle within before
    have holds := states initial middle ((List.prefix_append _ _).trans within) before
    exact (exact_step middle event next ⟨initial, before⟩ holds stepped).1
      ⟨states _ next within after, requirements initial event middle within before⟩
  · intro steps
    have states : machine.StatesAlong property trace := by
      refine statesAlong_of_stepsAlong property start ?_ steps
      intro state event next reachable holds met stepped
      exact ((exact_step state event next reachable holds stepped).2 met).1
    refine ⟨states, ?_⟩
    intro initial event middle within before
    obtain ⟨next, _, stepped⟩ := step_of_run initial event middle within before
    have holds := states initial middle ((List.prefix_append _ _).trans within) before
    exact ((exact_step middle event next ⟨initial, before⟩ holds stepped).2
      (steps initial event middle within before)).2

/-- If each step keeps a property exactly under a condition, a run has the property
in all its states exactly when all its steps meet the condition. -/
theorem statesAlong_iff_stepsAlong
    (start : property machine.start)
    (exact_step : ∀ state event next, machine.Reachable state → property state →
      machine.step state event = some next → (property next ↔ condition state event))
    (run : machine.exec trace = some state) :
    machine.StatesAlong property trace ↔ machine.StepsAlong condition trace := by
  have nothing : machine.StepsAlong (fun _ _ => True) trace := fun _ _ _ _ _ => trivial
  rw [← and_iff_left (a := machine.StatesAlong property trace) nothing]
  apply statesAlong_and_stepsAlong_iff start _ run
  intro state event next reachable holds stepped
  rw [and_iff_left trivial]
  exact exact_step state event next reachable holds stepped

/-! ## Properties over a segment of a run -/

variable (machine) in
/-- A property holds in every state from the end of one trace to the end of its extension. -/
def Throughout (property : σ → Prop) (initial segment : List ε) : Prop :=
  ∀ middle state, middle <+: segment → machine.exec (initial ++ middle) = some state →
    property state

theorem Throughout.of_prefix {initial segment shorter : List ε} (isPrefix : shorter <+: segment)
    (holds : machine.Throughout property initial segment) :
    machine.Throughout property initial shorter :=
  fun middle state within => holds middle state (within.trans isPrefix)

theorem Throughout.first {initial segment : List ε}
    (holds : machine.Throughout property initial segment)
    (run : machine.exec initial = some state) : property state := by
  apply holds [] state List.nil_prefix
  rw [List.append_nil]
  exact run

theorem Throughout.last {initial segment : List ε}
    (holds : machine.Throughout property initial segment)
    (run : machine.exec (initial ++ segment) = some state) : property state :=
  holds segment state List.prefix_rfl run

theorem throughout_nil {initial : List ε} (run : machine.exec initial = some state)
    (holds : property state) : machine.Throughout property initial [] := by
  intro middle reached within found
  rw [List.prefix_nil.1 within, List.append_nil, run] at found
  cases found
  exact holds

theorem Throughout.snoc {initial segment : List ε}
    (holds : machine.Throughout property initial segment)
    (run : machine.exec (initial ++ (segment ++ [event])) = some state)
    (last : property state) : machine.Throughout property initial (segment ++ [event]) := by
  intro middle reached within found
  rcases List.prefix_concat_iff.1 within with whole | shorter
  · rw [whole, run] at found
    cases found
    exact last
  · exact holds middle reached shorter found

theorem throughout_singleton {initial : List ε} (run : machine.exec initial = some state)
    (runNext : machine.exec (initial ++ [event]) = some next) (holds : property state)
    (holdsNext : property next) : machine.Throughout property initial [event] :=
  (throughout_nil run holds).snoc runNext holdsNext

/-- What every step of a segment relates, the segment relates. -/
theorem Throughout.related (relation : σ → σ → Prop) {initial segment : List ε} {next : σ}
    (refl : ∀ state, relation state state)
    (trans : ∀ first second third, property second →
      relation first second → relation second third → relation first third)
    (step : ∀ middle state event next, middle ++ [event] <+: segment →
      machine.exec (initial ++ middle) = some state → property state →
      machine.step state event = some next → property next → relation state next)
    (holds : machine.Throughout property initial segment)
    (before : machine.exec initial = some state)
    (after : machine.exec (initial ++ segment) = some next) : relation state next := by
  induction segment using List.reverseRecOn generalizing next with
  | nil =>
      rw [List.append_nil, before] at after
      cases after
      exact refl state
  | append_singleton segment event ih =>
      have run := after
      rw [← List.append_assoc] at run
      rcases exec_snoc_eq_some.1 run with ⟨middle, reached, stepped⟩
      have shorter : machine.Throughout property initial segment :=
        holds.of_prefix (List.prefix_append _ _)
      have earlier : relation state middle := by
        apply ih _ shorter reached
        intro part current event next within
        exact step part current event next (within.trans (List.prefix_append _ _))
      apply trans state middle next (shorter.last reached) earlier
      exact step segment middle event next List.prefix_rfl reached (shorter.last reached) stepped
        (holds.last after)

end Machine

end Pyzlc.Foundation
