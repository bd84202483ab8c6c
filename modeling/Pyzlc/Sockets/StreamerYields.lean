import Mathlib.Data.List.Chain
import Mathlib.Tactic.NormNum
import Pyzlc.Sockets.Streamer

/-!
# Whether a streamer yields

A coroutine `update_loop` suspends only to sleep, and sleeps only if less than a period has
passed since it set `last`.  A round whose update is as slow as its period is followed by the
next one without a suspension in between.  What the clock read at the head of each round, and
when each round set `last`, is kept beside the run.
-/

namespace Pyzlc

open Foundation

namespace Streamer

/-- What the coroutine of an index did, in order. -/
def happenings (index : Nat) (log : StreamerLog) : List Happening :=
  log.history.filterMap fun entry => if entry.1 = index then some entry.2 else none

/-- Between two publish calls of a coroutine in a row it suspends. -/
def SuspendsBetween (state : Streamer × StreamerLog) : Prop :=
  ∀ index, (happenings index state.2).IsChain fun first second =>
    ¬ (first = .published ∧ second = .published)

/-- What the clock reads where a coroutine looks at it. -/
inductive ClockReading where
  | atHead (moment : ℚ)
  | atMark (moment : ℚ)
  deriving DecidableEq

/-- The readings of the coroutines, the latest first. -/
abbrev ClockLog := List (Nat × ClockReading)

/-- A coroutine reads the clock at the head of a round and where it sets `last`. -/
def noteClock (state : Streamer × StreamerLog) (event : StreamerEvent) (clock : ClockLog) :
    ClockLog :=
  match event with
  | .proceed index =>
      match (state.1.loops[index]?).map UpdateLoop.phase with
      | some .timing => (index, .atHead state.1.now) :: clock
      | some .marking => (index, .atMark state.1.now) :: clock
      | _ => clock
  | _ => clock

/-- The runs of a streamer, with the readings of the clock. -/
def watched (fps now : ℚ) : Machine ((Streamer × StreamerLog) × ClockLog) StreamerEvent :=
  (machine fps now).recording [] noteClock

/-- What the coroutine of an index read, the latest first. -/
def readings (index : Nat) (clock : ClockLog) : List ClockReading :=
  clock.filterMap fun entry => if entry.1 = index then some entry.2 else none

/-- How long before the head of the round that has set `last` the round before it had set
`last`. -/
def elapsedAtHead : List ClockReading → Option ℚ
  | .atMark _ :: .atHead reading :: .atMark previous :: _ => some (reading - previous)
  | _ => none

/-- Where a coroutine calls `publish` again, less than a period had passed at the head of its
round since the round before had set `last`. -/
def InTime (dt : ℚ) (state : (Streamer × StreamerLog) × ClockLog) : StreamerEvent → Prop
  | .proceed index => ∀ loop ∈ state.1.1.loops[index]?, loop.phase = .updating →
      Happening.published ∈ happenings index state.1.2 →
        ∀ elapsed ∈ elapsedAtHead (readings index state.2), elapsed < dt
  | _ => True

instance (dt : ℚ) (state : (Streamer × StreamerLog) × ClockLog) :
    ∀ event, Decidable (InTime dt state event)
  | .proceed index => inferInstanceAs (Decidable (∀ loop ∈ state.1.1.loops[index]?,
      loop.phase = .updating → Happening.published ∈ happenings index state.1.2 →
        ∀ elapsed ∈ elapsedAtHead (readings index state.2), elapsed < dt))
  | .startStreaming | .stopRunning | .advance _ | .enter _ | .wake _ | .cancel _
  | .raises _ => isTrue trivial

/-! ## What a log tells of a coroutine -/

/-- What a coroutine that stands in a phase did last: it is suspended from its sleep to its
next publish call, if it sleeps in the round. -/
def Traced (dt diff : ℚ) (latest : Option Happening) : UpdatePhase → Prop
  | .submitted | .head | .timing | .publishing => latest ≠ some .suspended
  | .pausing => diff < dt ∧ latest ≠ some .suspended
  | .sleeping _ => diff < dt ∧ latest = some .suspended
  | .marking | .updating => diff < dt ↔ latest = some .suspended
  | .ended => True

/-- The log fits the coroutines. -/
structure Logged (dt : ℚ) (state : Streamer) (log : StreamerLog) : Prop where
  known : ∀ entry ∈ log.history, entry.1 < state.loops.length
  traced : ∀ (index : Nat) (loop : UpdateLoop), state.loops[index]? = some loop →
    Traced dt loop.diff (happenings index log).getLast? loop.phase

variable {dt : ℚ} {state next : Streamer} {log log' : StreamerLog} {event : StreamerEvent}

theorem happenings_add (log : StreamerLog) (index other : Nat) (happening : Happening) :
    happenings other { log with history := log.history ++ [(index, happening)] } =
      happenings other log ++ if index = other then [happening] else [] := by
  unfold happenings
  rw [List.filterMap_append]
  apply congrArg (_ ++ ·)
  by_cases same : index = other
  · rw [if_pos same]
    exact List.filterMap_cons_some (if_pos same)
  · rw [if_neg same]
    exact List.filterMap_cons_none (if_neg same)

theorem happenings_add_self (log : StreamerLog) (index : Nat) (happening : Happening) :
    happenings index { log with history := log.history ++ [(index, happening)] } =
      happenings index log ++ [happening] := by
  rw [happenings_add, if_pos rfl]

theorem happenings_add_ne (log : StreamerLog) {index other : Nat} (different : other ≠ index)
    (happening : Happening) :
    happenings other { log with history := log.history ++ [(index, happening)] } =
      happenings other log := by
  rw [happenings_add, if_neg (Ne.symm different), List.append_nil]

/-- A coroutine without a place has done nothing. -/
theorem Logged.happenings_length (logged : Logged dt state log) :
    happenings state.loops.length log = [] := by
  apply List.filterMap_eq_nil_iff.2
  intro entry member
  exact if_neg (logged.known entry member).ne

theorem length_update (state : Streamer) (index : Nat) (loop : UpdateLoop) :
    (state.update index loop).loops.length = state.loops.length := List.length_set

/-- A coroutine that goes on unseen from the phase it stands in. -/
theorem Logged.go (logged : Logged dt state log) {index : Nat} {loop moved : UpdateLoop}
    {phase : UpdatePhase} (found : state.loops[index]? = some loop) (stands : loop.phase = phase)
    (traced : Traced dt loop.diff (happenings index log).getLast? phase →
      Traced dt moved.diff (happenings index log).getLast? moved.phase) :
    Logged dt (state.update index moved) log where
  known := by
    rw [length_update]
    exact logged.known
  traced := by
    intro other there after
    rcases Serials.found_of_update found after with ⟨rfl, rfl⟩ | ⟨_, before⟩
    · have held := logged.traced other loop found
      rw [stands] at held
      exact traced held
    · exact logged.traced other there before

/-- A coroutine that is seen doing something. -/
theorem Logged.seen (logged : Logged dt state log) {index : Nat} {loop moved : UpdateLoop}
    (found : state.loops[index]? = some loop) (happening : Happening)
    (traced : Traced dt moved.diff (some happening) moved.phase) :
    Logged dt (state.update index moved)
      { log with history := log.history ++ [(index, happening)] } where
  known := by
    rw [length_update]
    intro entry member
    rcases List.mem_append.1 member with before | now
    · exact logged.known entry before
    · rw [List.mem_singleton.1 now]
      exact (List.getElem?_eq_some_iff.1 found).1
  traced := by
    intro other there after
    rcases Serials.found_of_update found after with ⟨rfl, rfl⟩ | ⟨different, before⟩
    · rw [happenings_add_self, List.getLast?_concat]
      exact traced
    · rw [happenings_add_ne log different]
      exact logged.traced other there before

theorem logged_step (logged : Logged dt state log)
    (stepCase : StepCase dt state log event next log') : Logged dt next log' := by
  cases stepCase with
  | startStreaming =>
      constructor
      · intro entry member
        rw [List.length_append]
        exact (logged.known entry member).trans (Nat.lt_succ_self _)
      · intro index loop found
        rcases Serials.found_of_add found with ⟨_, there⟩ | ⟨rfl, rfl⟩
        · exact logged.traced index loop there
        · rw [logged.happenings_length]
          nofun
  | stopRunning | advance => exact ⟨logged.known, logged.traced⟩
  | enter index loop found phase =>
      have moved : Logged dt (state.update index { loop with phase := .head, last := 0 }) log :=
        logged.go found phase id
      exact ⟨moved.known, moved.traced⟩
  | wake index loop wakeAt found phase late =>
      apply logged.go found phase
      intro traced
      exact iff_of_true traced.1 traced.2
  | cancel index loop found | raises index loop found =>
      exact logged.go found rfl fun _ => trivial
  | head index loop found phase =>
      apply logged.go found phase
      intro traced
      cases state.running with
      | true => exact traced
      | false => trivial
  | early index loop found phase soon =>
      apply logged.go found phase
      intro traced
      exact ⟨soon, traced⟩
  | late index loop found phase overdue =>
      apply logged.go found phase
      intro traced
      exact iff_of_false (not_lt.2 overdue) traced
  | pause index loop found phase =>
      have traced := logged.traced index loop found
      rw [phase] at traced
      exact logged.seen found .suspended ⟨traced.1, rfl⟩
  | mark index loop found phase =>
      have moved : Logged dt
          (state.update index { loop with last := state.now, phase := .updating }) log :=
        logged.go found phase id
      exact ⟨moved.known, moved.traced⟩
  | publish index loop found phase => exact logged.seen found .published nofun
  | again index loop found phase => exact logged.go found phase id

theorem logged_init (dt now : ℚ) : Logged dt (init now) { rounds := [], history := [] } where
  known := nofun
  traced := by
    intro index loop found
    cases found

/-- The log that a run leaves fits its coroutines. -/
def Fits (dt : ℚ) (recorded : Streamer × StreamerLog) : Prop := Logged dt recorded.1 recorded.2

theorem fits_of_reachable {fps now : ℚ} {recorded : Streamer × StreamerLog}
    (reachable : (machine fps now).Reachable recorded) : Fits (1 / fps) recorded := by
  apply Machine.Reachable.invariant (logged_init (1 / fps) now) _ reachable
  intro before event after _ logged stepped
  exact logged_step logged (stepCase_of_machine stepped)

/-! ## What the clock log tells of a coroutine -/

/-- If a coroutine has called `publish`, its latest reading is the moment at which `last` was
set. -/
def Marked (last : ℚ) (again : Prop) (before : List ClockReading) : Prop :=
  again → ∃ rest, before = .atMark last :: rest

/-- What a coroutine that stands in a phase has read, by whether it has called `publish`. -/
def Clocked (last diff : ℚ) (again : Prop) (before : List ClockReading) : UpdatePhase → Prop
  | .submitted => ¬ again
  | .head | .timing | .publishing => Marked last again before
  | .pausing | .sleeping _ | .marking => ∃ reading rest, before = .atHead reading :: rest ∧
      diff = reading - last ∧ Marked last again rest
  | .updating => ∃ reading rest, before = .atMark last :: .atHead reading :: rest ∧
      Marked (reading - diff) again rest
  | .ended => True

/-- The coroutine of an index has called `publish`. -/
def Published (index : Nat) (log : StreamerLog) : Prop :=
  Happening.published ∈ happenings index log

/-- The clock log fits the coroutines. -/
def ClockFits (state : Streamer) (log : StreamerLog) (clock : ClockLog) : Prop :=
  ∀ (index : Nat) (loop : UpdateLoop), state.loops[index]? = some loop →
    Clocked loop.last loop.diff (Published index log) (readings index clock) loop.phase

section Clock

variable {clock : ClockLog} {index : Nat} {loop moved : UpdateLoop} {phase : UpdatePhase}

theorem readings_cons_self (index : Nat) (reading : ClockReading) (clock : ClockLog) :
    readings index ((index, reading) :: clock) = reading :: readings index clock :=
  List.filterMap_cons_some (if_pos rfl)

theorem readings_cons_ne {other : Nat} (different : other ≠ index) (reading : ClockReading)
    (clock : ClockLog) : readings other ((index, reading) :: clock) = readings other clock :=
  List.filterMap_cons_none (if_neg (Ne.symm different))

/-- A coroutine that goes on without a look at the clock. -/
theorem ClockFits.go (fits : ClockFits state log clock) (found : state.loops[index]? = some loop)
    (stands : loop.phase = phase)
    (clocked : Clocked loop.last loop.diff (Published index log) (readings index clock) phase →
      Clocked moved.last moved.diff (Published index log) (readings index clock) moved.phase) :
    ClockFits (state.update index moved) log clock := by
  intro other there after
  rcases Serials.found_of_update found after with ⟨rfl, rfl⟩ | ⟨_, before⟩
  · have held := fits other loop found
    rw [stands] at held
    exact clocked held
  · exact fits other there before

/-- A coroutine that looks at the clock. -/
theorem ClockFits.look (fits : ClockFits state log clock)
    (found : state.loops[index]? = some loop) (stands : loop.phase = phase)
    (reading : ClockReading)
    (clocked : Clocked loop.last loop.diff (Published index log) (readings index clock) phase →
      Clocked moved.last moved.diff (Published index log) (reading :: readings index clock)
        moved.phase) :
    ClockFits (state.update index moved) log ((index, reading) :: clock) := by
  intro other there after
  rcases Serials.found_of_update found after with ⟨rfl, rfl⟩ | ⟨different, before⟩
  · have held := fits other loop found
    rw [stands] at held
    rw [readings_cons_self]
    exact clocked held
  · rw [readings_cons_ne different]
    exact fits other there before

/-- A coroutine that is seen doing something. -/
theorem ClockFits.seen (fits : ClockFits state log clock)
    (found : state.loops[index]? = some loop) (stands : loop.phase = phase)
    (happening : Happening)
    (clocked : Clocked loop.last loop.diff (Published index log) (readings index clock) phase →
      Clocked moved.last moved.diff (Published index log ∨ happening = .published)
        (readings index clock) moved.phase) :
    ClockFits (state.update index moved)
      { log with history := log.history ++ [(index, happening)] } clock := by
  intro other there after
  rcases Serials.found_of_update found after with ⟨rfl, rfl⟩ | ⟨different, before⟩
  · have held := fits other loop found
    rw [stands] at held
    have published : Published other { log with history := log.history ++ [(other, happening)] } =
        (Published other log ∨ happening = .published) := by
      rw [Published, happenings_add_self, List.mem_append, List.mem_singleton, Published,
        eq_comm (a := happening)]
    rw [published]
    exact clocked held
  · rw [Published, happenings_add_ne log different]
    exact fits other there before

/-- What a coroutine that goes on reads depends on where it stands. -/
theorem noteClock_proceed (found : state.loops[index]? = some loop) :
    noteClock (state, log) (.proceed index) clock =
      match loop.phase with
      | .timing => (index, .atHead state.now) :: clock
      | .marking => (index, .atMark state.now) :: clock
      | _ => clock := by
  simp only [noteClock, found, Option.map_some]
  cases loop.phase <;> rfl

theorem clockFits_step (logged : Logged dt state log) (fits : ClockFits state log clock)
    (stepCase : StepCase dt state log event next log') :
    ClockFits next log' (noteClock (state, log) event clock) := by
  cases stepCase with
  | startStreaming =>
      intro index loop found
      rcases Serials.found_of_add found with ⟨_, there⟩ | ⟨rfl, rfl⟩
      · exact fits index loop there
      · show ¬ Happening.published ∈ happenings state.loops.length log
        rw [logged.happenings_length]
        exact List.not_mem_nil
  | stopRunning | advance => exact fits
  | enter index loop found phase =>
      have moved : ClockFits (state.update index { loop with phase := .head, last := 0 }) log
          clock := fits.go found phase fun fresh again => absurd again fresh
      exact moved
  | wake index loop wakeAt found phase late => exact fits.go found phase id
  | cancel index loop found | raises index loop found =>
      exact fits.go found rfl fun _ => trivial
  | head index loop found phase =>
      rw [noteClock_proceed found, phase]
      apply fits.go found phase
      intro clocked
      cases state.running with
      | true => exact clocked
      | false => trivial
  | early index loop found phase soon =>
      rw [noteClock_proceed found, phase]
      exact fits.look found phase _ fun clocked => ⟨state.now, _, rfl, rfl, clocked⟩
  | late index loop found phase overdue =>
      rw [noteClock_proceed found, phase]
      exact fits.look found phase _ fun clocked => ⟨state.now, _, rfl, rfl, clocked⟩
  | pause index loop found phase =>
      rw [noteClock_proceed found, phase]
      apply fits.seen found phase .suspended
      rintro ⟨reading, rest, latest, measured, marked⟩
      exact ⟨reading, rest, latest, measured, fun again => marked (again.resolve_right nofun)⟩
  | mark index loop found phase =>
      rw [noteClock_proceed found, phase]
      have moved : ClockFits (state.update index
          { loop with last := state.now, phase := .updating }) log
          ((index, .atMark state.now) :: clock) := by
        apply fits.look found phase
        rintro ⟨reading, rest, latest, measured, marked⟩
        refine ⟨reading, rest, congrArg _ latest, ?_⟩
        rw [measured, sub_sub_cancel]
        exact marked
      exact moved
  | publish index loop found phase =>
      rw [noteClock_proceed found, phase]
      apply fits.seen found phase .published
      rintro ⟨reading, rest, latest, _⟩ _
      exact ⟨_, latest⟩
  | again index loop found phase =>
      rw [noteClock_proceed found, phase]
      exact fits.go found phase id

end Clock

theorem clockFits_of_reachable {fps now : ℚ} {state : (Streamer × StreamerLog) × ClockLog}
    (reachable : (watched fps now).Reachable state) : ClockFits state.1.1 state.1.2 state.2 := by
  apply Machine.Reachable.invariant _ _ reachable
  · intro index loop found
    cases found
  · intro before event after reached fits stepped
    rcases Machine.recording_step.1 stepped with ⟨taken, noted⟩
    have logged := fits_of_reachable (Machine.reachable_of_recording reached)
    rw [noted]
    exact clockFits_step logged fits (stepCase_of_machine taken)

/-! ## Publish calls in a row -/

/-- A coroutine that calls `publish` suspended since its last call, if it was in time. -/
theorem inTime_iff_latest {diff : ℚ} {before : List Happening}
    (traced : Traced dt diff before.getLast? .updating) :
    (Happening.published ∈ before → diff < dt) ↔ before.getLast? ≠ some .published := by
  constructor
  · intro inTime latest
    have suspended := traced.1 (inTime (List.mem_of_getLast? latest))
    cases latest.symm.trans suspended
  · intro other member
    apply traced.2
    cases latest : before.getLast? with
    | none =>
        rw [List.getLast?_eq_none_iff.1 latest] at member
        cases member
    | some happening =>
        cases happening with
        | published => exact absurd latest other
        | suspended => rfl

/-- What a coroutine does next keeps the suspensions unless it calls `publish` in a row. -/
theorem suspendsBetween_add_iff (suspends : SuspendsBetween (state, log)) (index : Nat)
    (happening : Happening) :
    SuspendsBetween (next, { log with history := log.history ++ [(index, happening)] }) ↔
      (happening = .published → (happenings index log).getLast? ≠ some .published) := by
  constructor
  · rintro after rfl latest
    have chain := after index
    rw [happenings_add_self, List.isChain_append] at chain
    exact chain.2.2 _ latest _ rfl ⟨rfl, rfl⟩
  · intro apart other
    by_cases same : other = index
    · rw [same, happenings_add_self, List.isChain_append]
      refine ⟨suspends index, List.isChain_singleton _, ?_⟩
      rintro first latest second now ⟨rfl, rfl⟩
      have called : happening = .published := (Option.some.inj now)
      exact apart called latest
    · rw [happenings_add_ne log same]
      exact suspends other

/-- What the log says has passed at the head is what the coroutine has measured there. -/
theorem inTime_proceed_iff {clock : ClockLog} (fits : ClockFits state log clock) {index : Nat}
    {loop : UpdateLoop} (found : state.loops[index]? = some loop) :
    InTime dt ((state, log), clock) (.proceed index) ↔
      (loop.phase = .updating → Happening.published ∈ happenings index log → loop.diff < dt) := by
  have measured : loop.phase = .updating → Happening.published ∈ happenings index log →
      elapsedAtHead (readings index clock) = some loop.diff := by
    intro phase again
    have clocked := fits index loop found
    rw [phase] at clocked
    rcases clocked with ⟨reading, rest, latest, marked⟩
    rcases marked again with ⟨older, before⟩
    rw [latest, before, elapsedAtHead, sub_sub_cancel]
  constructor
  · intro inTime phase again
    exact inTime loop found phase again loop.diff (measured phase again)
  · intro inTime other member phase again elapsed passed
    cases found.symm.trans member
    cases (measured phase again).symm.trans passed
    exact inTime phase again

/-- A step keeps the suspensions between publish calls exactly if it is in time. -/
theorem suspendsBetween_step_iff {clock : ClockLog} (logged : Logged dt state log)
    (fits : ClockFits state log clock) (suspends : SuspendsBetween (state, log))
    (stepCase : StepCase dt state log event next log') :
    SuspendsBetween (next, log') ↔ InTime dt ((state, log), clock) event := by
  cases stepCase with
  | startStreaming | stopRunning | advance | enter | wake | cancel | raises =>
      exact iff_of_true suspends trivial
  | publish index loop found phase =>
      have traced := logged.traced index loop found
      rw [phase] at traced
      rw [inTime_proceed_iff fits found, forall_prop_of_true phase, inTime_iff_latest traced]
      exact (suspendsBetween_add_iff suspends index .published).trans (forall_prop_of_true rfl)
  | pause index loop found phase =>
      apply iff_of_true
      · exact (suspendsBetween_add_iff suspends index .suspended).2 nofun
      · rw [inTime_proceed_iff fits found, phase]
        nofun
  | head index loop found phase | early index loop found phase | late index loop found phase
  | mark index loop found phase | again index loop found phase =>
      apply iff_of_true suspends
      rw [inTime_proceed_iff fits found, phase]
      nofun

theorem suspendsBetween_init (now : ℚ) :
    SuspendsBetween (init now, { rounds := [], history := [] }) :=
  fun _ => List.IsChain.nil

/-- Along a run every coroutine suspends between two publish calls in a row, if and only if
at each publish call but its first less than a period had passed, at the head of the round,
since the round before had set `last`. -/
theorem suspendsBetween_iff_inTime {fps now : ℚ} {trace : List StreamerEvent}
    {state : (Streamer × StreamerLog) × ClockLog}
    (run : (watched fps now).exec trace = some state) :
    (watched fps now).StatesAlong (fun state => SuspendsBetween state.1) trace ↔
      (watched fps now).StepsAlong (InTime (1 / fps)) trace := by
  apply Machine.statesAlong_iff_stepsAlong (suspendsBetween_init now) _ run
  intro before event after reachable suspends stepped
  have taken := (Machine.recording_step.1 stepped).1
  exact suspendsBetween_step_iff (fits_of_reachable (Machine.reachable_of_recording reachable))
    (clockFits_of_reachable reachable) suspends (stepCase_of_machine taken)

/-- Two rounds with a sleep in between. -/
def promptTrace : List StreamerEvent :=
  [.startStreaming, .enter 0, .proceed 0, .proceed 0, .proceed 0, .advance (1 / 20), .proceed 0,
    .proceed 0, .proceed 0, .proceed 0, .proceed 0, .advance (1 / 20), .wake 0, .proceed 0,
    .proceed 0]

theorem suspendsBetween_iff_inTime_promptTrace :
    ((watched 10 100).exec promptTrace).map (fun state => state.1.2.history) =
        some [(0, .published), (0, .suspended), (0, .published)] ∧
      (watched 10 100).StatesAlong (fun state => SuspendsBetween state.1) promptTrace := by
  have ran : ((watched 10 100).exec promptTrace).map (fun state => state.1.2.history) =
      some [(0, .published), (0, .suspended), (0, .published)] := by
    decide +kernel
  rcases Option.map_eq_some_iff.1 ran with ⟨recorded, run, _⟩
  refine ⟨ran, (suspendsBetween_iff_inTime run).2 ?_⟩
  apply Machine.stepsAlong_of_stepsFrom
  decide +kernel

/-- An update function that takes a whole period. -/
def slowTrace : List StreamerEvent :=
  [.startStreaming, .enter 0, .proceed 0, .proceed 0, .proceed 0, .advance (1 / 10), .proceed 0,
    .proceed 0, .proceed 0, .proceed 0, .proceed 0, .proceed 0]

/-- It publishes twice without a suspension. -/
theorem not_suspendsBetween_slowTrace :
    (0 : ℚ) < 10 ∧
      ¬ (watched 10 100).StatesAlong (fun state => SuspendsBetween state.1) slowTrace := by
  have ran : ((watched 10 100).exec slowTrace).map (fun state => state.1.2.history) =
      some [(0, .published), (0, .published)] := by
    decide +kernel
  rcases Option.map_eq_some_iff.1 ran with ⟨recorded, run, history⟩
  refine ⟨by norm_num, ?_⟩
  intro states
  have chain := states.last run 0
  have twice : happenings 0 recorded.1.2 = [.published, .published] := by
    rw [happenings, history]
    rfl
  rw [twice] at chain
  exact (List.isChain_cons_cons.1 chain).1 ⟨rfl, rfl⟩

end Streamer

end Pyzlc
