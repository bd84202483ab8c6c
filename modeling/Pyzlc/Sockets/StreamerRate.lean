import Mathlib.Algebra.Order.Group.Unbundled.Abs
import Mathlib.Tactic.Linarith
import Pyzlc.Sockets.Streamer

/-!
# The rate of a streamer

A coroutine `update_loop` sleeps until a period after it last set `last`, so its own rounds
are a period apart.  It knows nothing of the rounds of other coroutines of the streamer, and
starts with `last` in the past: only a coroutine that begins alone, and late enough, keeps
the distance.
-/

namespace Pyzlc

open Foundation

/-- The coroutine has begun and not ended. -/
def UpdatePhase.live : UpdatePhase → Bool
  | .submitted | .ended => false
  | _ => true

namespace Streamer

/-- Any two rounds are a period apart. -/
def KeepsRate (dt : ℚ) (state : Streamer × StreamerLog) : Prop :=
  state.2.rounds.Pairwise fun first second => dt ≤ |second - first|

/-- A coroutine begins only while no other one is under way, and a period after the last
round. -/
def BeginsAlone (dt : ℚ) (state : Streamer × StreamerLog) : StreamerEvent → Prop
  | .enter _ => (∀ loop ∈ state.1.loops, loop.phase.live = false) ∧
      ∀ round ∈ state.2.rounds, round + dt ≤ state.1.now
  | _ => True

instance (dt : ℚ) (state : Streamer × StreamerLog) :
    ∀ event, Decidable (BeginsAlone dt state event)
  | .enter _ => inferInstanceAs (Decidable (_ ∧ _))
  | .startStreaming | .stopRunning | .advance _ | .wake _ | .cancel _ | .proceed _
  | .raises _ => isTrue trivial

/-! ## The invariant -/

/-- How a coroutine that stands in a phase is placed to the rounds so far: before it tests the
clock a round is its own last one or a period ago, and when it marks all are a period ago. -/
def Ready (dt now : ℚ) (rounds : List ℚ) (last diff : ℚ) : UpdatePhase → Prop
  | .submitted | .ended => True
  | .head | .timing | .updating | .publishing =>
      ∀ round ∈ rounds, round ≤ last ∨ round + dt ≤ now
  | .pausing => ∀ round ∈ rounds, round + dt ≤ now + (dt - diff)
  | .sleeping wakeAt => ∀ round ∈ rounds, round + dt ≤ wakeAt
  | .marking => ∀ round ∈ rounds, round + dt ≤ now

/-- A coroutine at this index is under way. -/
def LiveAt (state : Streamer) (index : Nat) : Prop :=
  ∃ loop, state.loops[index]? = some loop ∧ loop.phase.live = true

/-- One coroutine is under way at most, and it is placed so that its next round keeps the
distance. -/
structure Paced (dt : ℚ) (state : Streamer) (log : StreamerLog) : Prop where
  past : ∀ round ∈ log.rounds, round ≤ state.now
  apart : log.rounds.Pairwise fun first second => dt ≤ second - first
  alone : ∀ first second, state.LiveAt first → state.LiveAt second → first = second
  ready : ∀ (index : Nat) (loop : UpdateLoop), state.loops[index]? = some loop →
    Ready dt state.now log.rounds loop.last loop.diff loop.phase

variable {dt now elapsed last diff : ℚ} {rounds : List ℚ} {state : Streamer} {log : StreamerLog}

theorem Paced.keepsRate (paced : Paced dt state log) : KeepsRate dt (state, log) :=
  paced.apart.imp fun apart => apart.trans (le_abs_self _)

theorem ready_of_not_live {phase : UpdatePhase} (ended : phase.live = false) :
    Ready dt now rounds last diff phase := by
  cases phase with
  | submitted => trivial
  | ended => trivial
  | _ => cases ended

/-- Time that passes brings no coroutine closer to an earlier round. -/
theorem Ready.advance {phase : UpdatePhase} (ready : Ready dt now rounds last diff phase)
    (forward : 0 ≤ elapsed) : Ready dt (now + elapsed) rounds last diff phase := by
  cases phase with
  | submitted => trivial
  | ended => trivial
  | sleeping wakeAt => exact ready
  | head | timing | updating | publishing =>
      intro round member
      rcases ready round member with own | ago
      · exact Or.inl own
      · exact Or.inr (by linarith)
  | pausing =>
      intro round member
      have ago := ready round member
      linarith
  | marking =>
      intro round member
      have ago := ready round member
      linarith

theorem liveAt_update {index : Nat} {loop moved : UpdateLoop} {other : Nat}
    (found : state.loops[index]? = some loop) (live : (state.update index moved).LiveAt other) :
    other = index ∧ moved.phase.live = true ∨ other ≠ index ∧ state.LiveAt other := by
  rcases live with ⟨there, after, live⟩
  rcases Serials.found_of_update found after with ⟨same, rfl⟩ | ⟨different, before⟩
  · exact Or.inl ⟨same, live⟩
  · exact Or.inr ⟨different, there, before, live⟩

/-- A coroutine under way goes on to a phase for which it is placed. -/
theorem Paced.update (paced : Paced dt state log) {index : Nat} {loop moved : UpdateLoop}
    (found : state.loops[index]? = some loop)
    (live : moved.phase.live = true → loop.phase.live = true)
    (ready : Ready dt state.now log.rounds moved.last moved.diff moved.phase) :
    Paced dt (state.update index moved) log where
  past := paced.past
  apart := paced.apart
  alone := by
    have before : ∀ other, (state.update index moved).LiveAt other → state.LiveAt other := by
      intro other after
      rcases liveAt_update found after with ⟨rfl, goesOn⟩ | ⟨_, there⟩
      · exact ⟨loop, found, live goesOn⟩
      · exact there
    intro first second liveFirst liveSecond
    exact paced.alone first second (before first liveFirst) (before second liveSecond)
  ready := by
    intro other there after
    rcases Serials.found_of_update found after with ⟨_, rfl⟩ | ⟨_, before⟩
    · exact ready
    · exact paced.ready other there before

/-- The same from the phase it stands in. -/
theorem Paced.go (paced : Paced dt state log) {index : Nat} {loop moved : UpdateLoop}
    {phase : UpdatePhase} (found : state.loops[index]? = some loop) (stands : loop.phase = phase)
    (live : phase.live = true)
    (ready : Ready dt state.now log.rounds loop.last loop.diff phase →
      Ready dt state.now log.rounds moved.last moved.diff moved.phase) :
    Paced dt (state.update index moved) log := by
  have before := paced.ready index loop found
  rw [stands] at before
  apply paced.update found
  · intro _
    rw [stands]
    exact live
  · exact ready before

/-- What coroutines published or suspended does not matter to their rounds. -/
theorem Paced.seen (paced : Paced dt state log) (history : List (Nat × Happening)) :
    Paced dt state { log with history := history } :=
  ⟨paced.past, paced.apart, paced.alone, paced.ready⟩

theorem Paced.startStreaming (paced : Paced dt state log) :
    Paced dt { state with loops := state.loops ++ [UpdateLoop.submitted] } log where
  past := paced.past
  apart := paced.apart
  alone := by
    have before : ∀ other,
        LiveAt { state with loops := state.loops ++ [UpdateLoop.submitted] } other →
          state.LiveAt other := by
      rintro other ⟨loop, found, live⟩
      rcases Serials.found_of_add found with ⟨_, there⟩ | ⟨_, rfl⟩
      · exact ⟨loop, there, live⟩
      · cases live
    intro first second liveFirst liveSecond
    exact paced.alone first second (before first liveFirst) (before second liveSecond)
  ready := by
    intro index loop found
    rcases Serials.found_of_add found with ⟨_, there⟩ | ⟨_, rfl⟩
    · exact paced.ready index loop there
    · trivial

theorem Paced.advance (paced : Paced dt state log) (forward : 0 ≤ elapsed) :
    Paced dt { state with now := state.now + elapsed } log where
  past := by
    intro round member
    have before := paced.past round member
    exact before.trans (le_add_of_nonneg_right forward)
  apart := paced.apart
  alone := paced.alone
  ready := by
    intro index loop found
    exact (paced.ready index loop found).advance forward

/-- A coroutine that begins alone, a period after the last round. -/
theorem Paced.enter (paced : Paced dt state log) {index : Nat} {loop : UpdateLoop}
    (found : state.loops[index]? = some loop)
    (nobody : ∀ loop ∈ state.loops, loop.phase.live = false)
    (ago : ∀ round ∈ log.rounds, round + dt ≤ state.now) :
    Paced dt
      { state.update index { loop with phase := .head, last := 0 } with running := true } log where
  past := paced.past
  apart := paced.apart
  alone := by
    have only : ∀ other,
        (state.update index { loop with phase := .head, last := 0 }).LiveAt other →
          other = index := by
      intro other after
      rcases liveAt_update found after with ⟨same, _⟩ | ⟨_, there, before, live⟩
      · exact same
      · rw [nobody there (List.mem_of_getElem? before)] at live
        cases live
    intro first second liveFirst liveSecond
    exact (only first liveFirst).trans (only second liveSecond).symm
  ready := by
    intro other there after
    rcases Serials.found_of_update found after with ⟨_, rfl⟩ | ⟨_, before⟩
    · intro round member
      exact Or.inr (ago round member)
    · exact paced.ready other there before

/-- A coroutine that sets `last` makes a round, a period after all others. -/
theorem Paced.mark (paced : Paced dt state log) {index : Nat} {loop : UpdateLoop}
    (found : state.loops[index]? = some loop) (phase : loop.phase = .marking) :
    Paced dt (state.update index { loop with last := state.now, phase := .updating })
      { log with rounds := log.rounds ++ [state.now] } := by
  have ago := paced.ready index loop found
  rw [phase] at ago
  have live : state.LiveAt index := ⟨loop, found, by rw [phase]; rfl⟩
  constructor
  · intro round member
    rcases List.mem_append.1 member with before | now
    · exact paced.past round before
    · exact le_of_eq (List.mem_singleton.1 now)
  · rw [List.pairwise_append]
    refine ⟨paced.apart, List.pairwise_singleton _ _, ?_⟩
    intro round member last same
    rw [List.mem_singleton.1 same]
    exact le_sub_iff_add_le'.2 (ago round member)
  · have before : ∀ other,
        (state.update index { loop with last := state.now, phase := .updating }).LiveAt other →
          state.LiveAt other := by
      intro other after
      rcases liveAt_update found after with ⟨rfl, _⟩ | ⟨_, there⟩
      · exact live
      · exact there
    intro first second liveFirst liveSecond
    exact paced.alone first second (before first liveFirst) (before second liveSecond)
  · intro other there after
    rcases Serials.found_of_update found after with ⟨_, rfl⟩ | ⟨different, before⟩
    · intro round member
      rcases List.mem_append.1 member with earlier | now
      · exact Or.inr (ago round earlier)
      · exact Or.inl (le_of_eq (List.mem_singleton.1 now))
    · apply ready_of_not_live
      apply Bool.eq_false_of_not_eq_true
      intro beside
      exact different (paced.alone other index ⟨there, before, beside⟩ live)

/-- Every step that begins no coroutine beside another one, or too soon, keeps the pace. -/
theorem paced_step {next : Streamer} {log' : StreamerLog} {event : StreamerEvent}
    (paced : Paced dt state log) (alone : BeginsAlone dt (state, log) event)
    (stepCase : StepCase dt state log event next log') : Paced dt next log' := by
  cases stepCase with
  | startStreaming => exact paced.startStreaming
  | stopRunning => exact ⟨paced.past, paced.apart, paced.alone, paced.ready⟩
  | advance elapsed forward => exact paced.advance forward
  | enter index loop found phase => exact paced.enter found alone.1 alone.2
  | wake index loop wakeAt found phase late =>
      apply paced.go found phase rfl
      intro ready round member
      exact (ready round member).trans late
  | cancel index loop found | raises index loop found => exact paced.update found nofun trivial
  | head index loop found phase =>
      apply paced.go found phase rfl
      intro ready
      cases state.running with
      | true => exact ready
      | false => trivial
  | early index loop found phase soon =>
      apply paced.go found phase rfl
      intro ready round member
      rcases ready round member with own | ago
      · linarith
      · linarith
  | late index loop found phase overdue =>
      apply paced.go found phase rfl
      intro ready round member
      rcases ready round member with own | ago
      · linarith
      · exact ago
  | pause index loop found phase => exact (paced.go found phase rfl id).seen _
  | mark index loop found phase => exact paced.mark found phase
  | publish index loop found phase => exact (paced.go found phase rfl id).seen _
  | again index loop found phase => exact paced.go found phase rfl id

theorem paced_init (dt now : ℚ) : Paced dt (init now) { rounds := [], history := [] } where
  past := nofun
  apart := List.Pairwise.nil
  alone := by
    rintro first second ⟨loop, found, _⟩
    cases found
  ready := by
    intro index loop found
    cases found

/-- In every run in which each coroutine begins alone and a period after the last round, any
two rounds are a period apart. -/
theorem keepsRate_of_beginsAlone {fps now : ℚ} {trace : List StreamerEvent}
    (alone : (machine fps now).StepsAlong (BeginsAlone (1 / fps)) trace) :
    (machine fps now).StatesAlong (KeepsRate (1 / fps)) trace := by
  have paced :
      (machine fps now).StatesAlong (fun state => Paced (1 / fps) state.1 state.2) trace := by
    refine Machine.statesAlong_of_stepsAlong (fun state => Paced (1 / fps) state.1 state.2)
      (paced_init (1 / fps) now) ?_ alone
    intro before event after _ holds beginsAlone stepped
    exact paced_step holds beginsAlone (stepCase_of_machine stepped)
  intro initial state within run
  exact (paced initial state within run).keepsRate

/-- Two rounds of one coroutine, and one of another that is started after it has ended. -/
def steadyTrace : List StreamerEvent :=
  [.startStreaming, .enter 0, .proceed 0, .proceed 0, .proceed 0, .proceed 0, .proceed 0,
    .proceed 0, .proceed 0, .proceed 0, .advance (1 / 10), .wake 0, .proceed 0, .proceed 0,
    .proceed 0, .stopRunning, .proceed 0, .startStreaming, .advance 1, .enter 1, .proceed 1,
    .proceed 1, .proceed 1]

theorem keepsRate_of_beginsAlone_steadyTrace :
    ((machine 10 100).exec steadyTrace).map (fun state => state.2.rounds) =
        some [100, 1001 / 10, 1011 / 10] ∧
      (machine 10 100).StatesAlong (KeepsRate (1 / 10)) steadyTrace := by
  constructor
  · decide +kernel
  · apply keepsRate_of_beginsAlone
    apply Machine.stepsAlong_of_stepsFrom
    decide +kernel

/-- Two calls of `start_streaming` one after another. -/
def twiceTrace : List StreamerEvent :=
  [.startStreaming, .startStreaming, .enter 0, .proceed 0, .proceed 0, .proceed 0, .proceed 0,
    .proceed 0, .proceed 0, .proceed 0, .proceed 0, .enter 1, .proceed 1, .proceed 1, .proceed 1]

/-- Both coroutines make a round at the same moment. -/
theorem not_keepsRate_twiceTrace :
    (0 : ℚ) < 10 ∧ ¬ (machine 10 100).StatesAlong (KeepsRate (1 / 10)) twiceTrace := by
  have ran : ((machine 10 100).exec twiceTrace).map (fun state => state.2.rounds) =
      some [100, 100] := by
    decide +kernel
  rcases Option.map_eq_some_iff.1 ran with ⟨state, run, rounds⟩
  refine ⟨by norm_num, ?_⟩
  intro states
  have apart := states.last run
  rw [KeepsRate, rounds] at apart
  have near := List.rel_of_pairwise_cons apart (List.mem_singleton_self 100)
  norm_num at near

end Streamer

end Pyzlc
