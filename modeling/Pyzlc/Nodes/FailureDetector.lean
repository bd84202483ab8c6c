import Mathlib.Tactic.Linarith
import Pyzlc.Nodes.Convergence
import Pyzlc.Nodes.HeartbeatMonitor

/-!
# The monitor as a failure detector

`check_heartbeat` takes a round and sleeps for its interval.  The event loop resumes it some time
after the sleep is over, but not later than a bound.  A ledger of the run keeps when a node was
last in contact, by a heartbeat or by a description.  While the monitor loops, no node stays known
for longer than the three seconds, the interval and the bound after its last contact, and no round
evicts a node that was in contact within three seconds.
-/

namespace Pyzlc

open Foundation

/-- A node whose monitor sleeps until a moment. -/
structure Watch (η ω : Type) where
  discovery : Discovery η ω
  wakeAt : ℚ

namespace Discovery

open NodesInfoManager

variable {η ω : Type}

/-- The node that a step is in contact with. -/
def contact (state : Discovery η ω) : DiscoveryEvent η → Option HashIdentifier
  | .heartbeat message _ => some message.nodeId
  | event => (state.delivered event).map NodeInfo.nodeID

variable [DecidableEq η] {call : Call η ω} {state next : Discovery η ω}
  {event : DiscoveryEvent η}

/-- A heartbeat found after a step is of the contact the step made, or was there before. -/
theorem heartbeat_step (wellFormed : state.registry.WellFormed)
    (stepped : state.step call event = some next) {nodeId : HashIdentifier} {heard : ℚ}
    (found : next.registry.nodesHeartbeat.lookup nodeId = some heard) :
    (state.contact event = some nodeId ∧ heard = state.now) ∨
      (state.contact event ≠ some nodeId ∧
        state.registry.nodesHeartbeat.lookup nodeId = some heard) := by
  have heardCase : ∀ message nodeIp, event = .heartbeat message nodeIp →
      next.registry = state.registry.hear state.now message.nodeId →
      (state.contact event = some nodeId ∧ heard = state.now) ∨
        (state.contact event ≠ some nodeId ∧
          state.registry.nodesHeartbeat.lookup nodeId = some heard) := by
    intro message nodeIp arrives left
    rw [left, Registry.hear, Dict.lookup_set] at found
    rw [arrives]
    split at found
    next same =>
      cases found
      exact Or.inl ⟨congrArg some same.symm, rfl⟩
    next different =>
      right
      refine ⟨?_, found⟩
      intro same
      exact different (Option.some.inj same).symm
  cases stepCase_of_step stepped with
  | heard message nodeIp | fetches message nodeIp => exact heardCase message nodeIp rfl rfl
  | _ =>
      cases registryStep_of_step wellFormed stepped with
      | unchanged quiet left =>
          right
          rw [left] at found
          refine ⟨?_, found⟩
          simp [contact, quiet]
      | heard message nodeIp arrives left => exact heardCase message nodeIp arrives left
      | recorded info delivers left =>
          rw [left] at found
          by_cases same : nodeId = info.nodeID
          · left
            rw [same, Registry.nodesHeartbeat_record] at found
            refine ⟨?_, (Option.some.inj found).symm⟩
            simp [contact, delivers, same]
          · right
            have kept := (Registry.sameBeside_record state.now info state.registry).nodesHeartbeat
              nodeId same
            refine ⟨?_, kept.symm.trans found⟩
            simp [contact, delivers, Ne.symm same]
      | dropped nodeIds quiet left =>
          right
          rw [left, Registry.lookupHeartbeat_dropAll] at found
          split at found
          next => cases found
          next =>
            refine ⟨?_, found⟩
            simp [contact, quiet]

/-- A monitor that has ended does not loop again. -/
theorem looping_of_step (stepped : state.step call event = some next)
    (looping : next.monitor = .looping) : state.monitor = .looping := by
  cases stepCase_of_step stepped with
  | monitorEnds was | cancelMonitor was | sweeps _ was | sweepRaises _ _ was => exact was
  | heard | fetches | fetchEnds | advance | stopRunning | updateNode | removeNode
  | registerLocalService | registerLocalPublisher | registerNodeUpdateHandler
  | unregisterNodeUpdateHandler => exact looping

theorem now_step (stepped : state.step call event = some next)
    (rests : ∀ elapsed, event ≠ .advance elapsed) : next.now = state.now := by
  cases stepCase_of_step stepped with
  | advance elapsed => exact absurd rfl (rests elapsed)
  | _ => rfl

/-- A round after which the monitor loops on leaves no heartbeat older than three seconds. -/
theorem recent_of_sweep (wellFormed : state.registry.WellFormed)
    (stepped : state.step call .sweep = some next) (looping : next.monitor = .looping)
    {nodeId : HashIdentifier} {heard : ℚ}
    (found : next.registry.nodesHeartbeat.lookup nodeId = some heard) : state.now - heard ≤ 3 := by
  cases stepCase_of_step stepped with
  | sweeps manager was running returned =>
      have described : StaleDescribed state.now state.manager := by
        intro other stale
        by_contra undescribed
        rcases checkHeartbeatRound_of_undescribed stale undescribed with ⟨key, raised⟩
        rw [raised] at returned
        cases returned
      rcases (sweepCorrect_iff wellFormed).2 described with ⟨swept, correct, sweptOf⟩
      rw [correct] at returned
      cases returned
      exact sweptOf.recent nodeId heard found
  | sweepRaises error => cases error <;> cases looping
  | monitorEnds => cases looping

end Discovery

namespace Watch

open Discovery NodesInfoManager

variable {η ω : Type} [DecidableEq η]

/-- Rounds are taken after the sleep, and while the monitor loops no time passes beyond the moment
it has to be resumed. -/
def step (call : Call η ω) (interval lateness : ℚ) (watch : Watch η ω) (event : DiscoveryEvent η) :
    Option (Watch η ω) :=
  match event with
  | .sweep =>
      if watch.wakeAt ≤ watch.discovery.now then
        (watch.discovery.step call .sweep).map fun discovery =>
          { discovery := discovery, wakeAt := watch.discovery.now + interval }
      else none
  | .advance elapsed =>
      if watch.discovery.monitor = .looping →
          watch.discovery.now + elapsed ≤ watch.wakeAt + lateness then
        (watch.discovery.step call (.advance elapsed)).map fun discovery =>
          { watch with discovery := discovery }
      else none
  | event => (watch.discovery.step call event).map fun discovery =>
      { watch with discovery := discovery }

/-- A node that has just been started. -/
def machine (call : Call η ω) (interval lateness : ℚ) (localName localIp nodeID : Text)
    (outside : ω) (now : ℚ) : Machine (Watch η ω) (DiscoveryEvent η) where
  start := { discovery := .init localName localIp nodeID outside now, wakeAt := now }
  step := step call interval lateness

/-- When each node was last in contact. -/
def record (watch : Watch η ω) (event : DiscoveryEvent η) (contacts : Dict HashIdentifier ℚ) :
    Dict HashIdentifier ℚ :=
  match watch.discovery.contact event with
  | some nodeId => Dict.set contacts nodeId watch.discovery.now
  | none => contacts

variable {call : Call η ω} {interval lateness : ℚ} {watch next : Watch η ω}
  {event : DiscoveryEvent η}

/-- What a step of the watch adds to the step of the node. -/
structure Took (call : Call η ω) (interval lateness : ℚ) (watch : Watch η ω)
    (event : DiscoveryEvent η) (next : Watch η ω) : Prop where
  stepped : watch.discovery.step call event = some next.discovery
  rounds : event = .sweep → watch.wakeAt ≤ watch.discovery.now ∧
    next.wakeAt = watch.discovery.now + interval
  sleeps : event ≠ .sweep → next.wakeAt = watch.wakeAt
  inTime : ∀ elapsed, event = .advance elapsed → watch.discovery.monitor = .looping →
    watch.discovery.now + elapsed ≤ watch.wakeAt + lateness

theorem took_of_step (stepped : watch.step call interval lateness event = some next) :
    Took call interval lateness watch event next := by
  cases event with
  | sweep =>
      rcases Option.ite_none_right_eq_some.1 stepped with ⟨slept, rest⟩
      rcases Option.map_eq_some_iff.1 rest with ⟨discovery, taken, rfl⟩
      exact ⟨taken, fun _ => ⟨slept, rfl⟩, fun other => absurd rfl other, nofun⟩
  | advance elapsed =>
      rcases Option.ite_none_right_eq_some.1 stepped with ⟨inTime, rest⟩
      rcases Option.map_eq_some_iff.1 rest with ⟨discovery, taken, rfl⟩
      refine ⟨taken, nofun, fun _ => rfl, ?_⟩
      intro other same
      cases same
      exact inTime
  | _ =>
      simp only [step, Option.map_eq_some_iff] at stepped
      rcases stepped with ⟨discovery, taken, rfl⟩
      exact ⟨taken, nofun, fun _ => rfl, nofun⟩

/-! ## What the watch keeps -/

/-- The heartbeats are the last contacts, and no older than the monitor's rounds allow. -/
structure Watched (interval lateness : ℚ) (watch : Watch η ω)
    (contacts : Dict HashIdentifier ℚ) : Prop where
  wellFormed : watch.discovery.registry.WellFormed
  contacted : ∀ nodeId heard,
    watch.discovery.registry.nodesHeartbeat.lookup nodeId = some heard →
    contacts.lookup nodeId = some heard
  awake : watch.discovery.monitor = .looping →
    watch.discovery.now ≤ watch.wakeAt + lateness ∧
      watch.wakeAt ≤ watch.discovery.now + interval
  recent : watch.discovery.monitor = .looping → ∀ nodeId heard,
    watch.discovery.registry.nodesHeartbeat.lookup nodeId = some heard →
    watch.wakeAt - interval - 3 ≤ heard

theorem contacted_step {contacts : Dict HashIdentifier ℚ}
    (watched : Watched interval lateness watch contacts)
    (took : Took call interval lateness watch event next) (nodeId : HashIdentifier) (heard : ℚ)
    (found : next.discovery.registry.nodesHeartbeat.lookup nodeId = some heard) :
    (record watch event contacts).lookup nodeId = some heard := by
  unfold record
  rcases heartbeat_step watched.wellFormed took.stepped found with ⟨here, now⟩ | ⟨elsewhere, before⟩
  · rw [here, now]
    exact Dict.lookup_set_self _ _ _
  · have kept := watched.contacted nodeId heard before
    split
    next other contact =>
      rw [contact] at elsewhere
      rw [Dict.lookup_set_ne _ _ (fun same => elsewhere (congrArg some same.symm))]
      exact kept
    next => exact kept

theorem awake_step {contacts : Dict HashIdentifier ℚ} (interval_nonneg : 0 ≤ interval)
    (lateness_nonneg : 0 ≤ lateness) (watched : Watched interval lateness watch contacts)
    (took : Took call interval lateness watch event next)
    (looping : next.discovery.monitor = .looping) :
    next.discovery.now ≤ next.wakeAt + lateness ∧
      next.wakeAt ≤ next.discovery.now + interval := by
  have was := looping_of_step took.stepped looping
  rcases watched.awake was with ⟨notLate, notEarly⟩
  by_cases round : event = .sweep
  · rcases took.rounds round with ⟨_, wakeAt⟩
    have now := now_step took.stepped (by rw [round]; exact nofun)
    rw [wakeAt, now]
    constructor <;> linarith
  · rw [took.sleeps round]
    by_cases rests : ∃ elapsed, event = .advance elapsed
    · rcases rests with ⟨elapsed, rests⟩
      have inTime := took.inTime elapsed rests was
      have stepped := took.stepped
      rw [rests] at stepped
      rcases Option.ite_none_right_eq_some.1 stepped with ⟨forward, same⟩
      rw [← Option.some.inj same]
      exact ⟨inTime, by simp only; linarith⟩
    · have now := now_step took.stepped fun elapsed same => rests ⟨elapsed, same⟩
      rw [now]
      exact ⟨notLate, notEarly⟩

theorem recent_step {contacts : Dict HashIdentifier ℚ}
    (watched : Watched interval lateness watch contacts)
    (took : Took call interval lateness watch event next)
    (looping : next.discovery.monitor = .looping) (nodeId : HashIdentifier) (heard : ℚ)
    (found : next.discovery.registry.nodesHeartbeat.lookup nodeId = some heard) :
    next.wakeAt - interval - 3 ≤ heard := by
  have was := looping_of_step took.stepped looping
  rcases watched.awake was with ⟨_, notEarly⟩
  by_cases round : event = .sweep
  · have stepped := took.stepped
    rw [round] at stepped
    have recent := recent_of_sweep watched.wellFormed stepped looping found
    rw [(took.rounds round).2]
    linarith
  · rw [took.sleeps round]
    rcases heartbeat_step watched.wellFormed took.stepped found with ⟨_, now⟩ | ⟨_, before⟩
    · rw [now]
      linarith
    · exact watched.recent was nodeId heard before

theorem Watched.step {contacts : Dict HashIdentifier ℚ} (interval_nonneg : 0 ≤ interval)
    (lateness_nonneg : 0 ≤ lateness) (watched : Watched interval lateness watch contacts)
    (took : Took call interval lateness watch event next) :
    Watched interval lateness next (record watch event contacts) where
  wellFormed := (registryStep_of_step watched.wellFormed took.stepped).wellFormed
    watched.wellFormed
  contacted := contacted_step watched took
  awake := awake_step interval_nonneg lateness_nonneg watched took
  recent := recent_step watched took

section Runs

variable {localName localIp nodeID : Text} {outside : ω} {now : ℚ}

/-- The watch with the ledger of contacts. -/
def ledger (call : Call η ω) (interval lateness : ℚ) (localName localIp nodeID : Text)
    (outside : ω) (now : ℚ) : Machine (Watch η ω × Dict HashIdentifier ℚ) (DiscoveryEvent η) :=
  (machine call interval lateness localName localIp nodeID outside now).recording ∅ record

theorem watched_of_reachable {recorded : Watch η ω × Dict HashIdentifier ℚ}
    (interval_nonneg : 0 ≤ interval) (lateness_nonneg : 0 ≤ lateness)
    (reachable : (ledger call interval lateness localName localIp nodeID outside now).Reachable
      recorded) : Watched interval lateness recorded.1 recorded.2 := by
  apply reachable.invariant
  · constructor
    · exact wellFormed_init localName localIp nodeID outside now
    · intro nodeId heard found
      cases found
    · intro _
      show now ≤ now + lateness ∧ now ≤ now + interval
      constructor <;> linarith
    · intro _ nodeId heard found
      cases found
  · intro state event next _ watched stepped
    rcases Machine.recording_step.1 stepped with ⟨taken, kept⟩
    rw [kept]
    exact watched.step interval_nonneg lateness_nonneg (took_of_step taken)

/-- While the monitor loops, every node that is known was last in contact no longer ago than the
three seconds, the interval of the rounds and the delay with which they can be resumed. -/
theorem contact_of_known {recorded : Watch η ω × Dict HashIdentifier ℚ}
    (interval_nonneg : 0 ≤ interval) (lateness_nonneg : 0 ≤ lateness)
    (reachable : (ledger call interval lateness localName localIp nodeID outside now).Reachable
      recorded) (looping : recorded.1.discovery.monitor = .looping) {nodeId : HashIdentifier}
    (known : nodeId ∈ recorded.1.discovery.manager.nodesHeartbeat) :
    ∃ heard, recorded.2.lookup nodeId = some heard ∧
      recorded.1.discovery.now - heard ≤ 3 + interval + lateness := by
  have watched := watched_of_reachable interval_nonneg lateness_nonneg reachable
  rcases Dict.mem_iff_lookup.1 known with ⟨heard, found⟩
  refine ⟨heard, watched.contacted nodeId heard found, ?_⟩
  have recent := watched.recent looping nodeId heard found
  have awake := (watched.awake looping).1
  linarith

/-- The node was in contact within three seconds. -/
def InTouch (nodeId : HashIdentifier) (recorded : Watch η ω × Dict HashIdentifier ℚ) : Prop :=
  ∃ heard ∈ recorded.2.lookup nodeId, recorded.1.discovery.now - heard ≤ 3

instance (nodeId : HashIdentifier) (recorded : Watch η ω × Dict HashIdentifier ℚ) :
    Decidable (InTouch nodeId recorded) :=
  inferInstanceAs (Decidable (∃ heard ∈ recorded.2.lookup nodeId,
    recorded.1.discovery.now - heard ≤ 3))

/-- No round finds the node out of touch, and nobody removes it by hand. -/
def Spared (nodeId : HashIdentifier) (recorded : Watch η ω × Dict HashIdentifier ℚ) :
    DiscoveryEvent η → Prop
  | .sweep => InTouch nodeId recorded
  | .removeNode other => other ≠ nodeId
  | _ => True

instance (nodeId : HashIdentifier) (recorded : Watch η ω × Dict HashIdentifier ℚ) :
    DecidablePred (Spared nodeId recorded)
  | .sweep => inferInstanceAs (Decidable (InTouch nodeId recorded))
  | .removeNode other => inferInstanceAs (Decidable (other ≠ nodeId))
  | .heartbeat _ _ | .fetchEnds _ _ | .advance _ | .cancelMonitor | .stopRunning | .updateNode _
  | .registerLocalService _ _ | .registerLocalPublisher _ _ | .registerNodeUpdateHandler _ _
  | .unregisterNodeUpdateHandler _ _ => isTrue trivial

omit [DecidableEq η] in
/-- The ledger is what a round goes by. -/
theorem not_evicts_of_spared {nodeId : HashIdentifier}
    {recorded : Watch η ω × Dict HashIdentifier ℚ}
    (watched : Watched interval lateness recorded.1 recorded.2)
    (spared : Spared nodeId recorded event) : ¬ recorded.1.discovery.Evicts nodeId event := by
  cases event with
  | sweep =>
      rintro ⟨last, found, old⟩
      rcases spared with ⟨heard, contact, inTime⟩
      cases contact.symm.trans (watched.contacted nodeId last found)
      exact not_lt.2 inTime old
  | removeNode other => exact spared
  | _ => exact id

/-- A node that is known and in contact within three seconds of every round stays known, whatever
else happens, unless it is removed by hand. -/
theorem known_of_spared {recorded final : Watch η ω × Dict HashIdentifier ℚ}
    {segment : List (DiscoveryEvent η)} {nodeId : HashIdentifier}
    (interval_nonneg : 0 ≤ interval) (lateness_nonneg : 0 ≤ lateness)
    (reachable : (ledger call interval lateness localName localIp nodeID outside now).Reachable
      recorded) (known : nodeId ∈ recorded.1.discovery.manager.nodesInfo)
    (spared : (ledger call interval lateness localName localIp nodeID outside now).StepsFrom
      (Spared nodeId) recorded segment)
    (run : (ledger call interval lateness localName localIp nodeID outside now).execFrom recorded
      segment = some final) : nodeId ∈ final.1.discovery.manager.nodesInfo := by
  have watched := watched_of_reachable interval_nonneg lateness_nonneg reachable
  have kept : Watched interval lateness final.1 final.2 ∧
      nodeId ∈ final.1.discovery.manager.nodesInfo := by
    apply spared.invariant (fun recorded => Watched interval lateness recorded.1 recorded.2 ∧
      nodeId ∈ recorded.1.discovery.manager.nodesInfo) _ ⟨watched, known⟩ run
    intro state event next holds spared stepped
    rcases holds with ⟨watched, here⟩
    rcases Machine.recording_step.1 stepped with ⟨taken, written⟩
    have took := took_of_step taken
    have after := watched.step interval_nonneg lateness_nonneg took
    rw [written]
    refine ⟨after, ?_⟩
    apply (after.wellFormed.sameKeys nodeId).2
    exact recorded_step watched.wellFormed ((watched.wellFormed.sameKeys nodeId).1 here)
      (not_evicts_of_spared watched spared) took.stepped
  exact kept.2

end Runs

/-! ## A node that goes on sending -/

/-- The watch of a node that takes a round every second. -/
def viewer : Machine (Watch Empty Unit × Dict HashIdentifier ℚ) (DiscoveryEvent Empty) :=
  ledger noHandlers 1 (1 / 2) "viewer" "10.0.0.1" "a" () 0

def foundId : HashIdentifier := "b"

/-- The first round, and a node that is found. -/
def foundRun : List (DiscoveryEvent Empty) :=
  [.sweep] ++ fetchOf foundId "10.0.0.2" (talker foundId 1)

/-- The node sends a heartbeat, and four seconds after it was found a round is taken. -/
def steadyRun : List (DiscoveryEvent Empty) :=
  [.advance 1, .sweep, .advance 1, .sweep, .advance 1,
    .heartbeat
      { zlcVersion := (0, 1, 0), nodeId := foundId, infoId := 1, servicePort := 7000,
        groupName := "zlc_default_group_name" } "10.0.0.2",
    .sweep, .advance 1, .sweep]

theorem contact_of_known_steadyRun :
    ∃ recorded heard, viewer.exec (foundRun ++ steadyRun) = some recorded ∧
      recorded.2.lookup foundId = some heard ∧
      recorded.1.discovery.now - heard ≤ 3 + 1 + 1 / 2 := by
  have ran : (viewer.exec (foundRun ++ steadyRun)).any (fun recorded =>
      recorded.1.discovery.monitor = .looping ∧
        foundId ∈ recorded.1.discovery.manager.nodesHeartbeat) = true := by
    decide +kernel
  rcases (Option.any_eq_true _ _).1 ran with ⟨recorded, run, holds⟩
  rcases of_decide_eq_true holds with ⟨looping, known⟩
  rcases contact_of_known (by decide +kernel) (by decide +kernel) ⟨_, run⟩ looping known
    with ⟨heard, contact, recent⟩
  exact ⟨recorded, heard, run, contact, recent⟩

theorem known_of_spared_steadyRun :
    ∃ recorded final, viewer.exec foundRun = some recorded ∧
      viewer.execFrom recorded steadyRun = some final ∧
      foundId ∈ final.1.discovery.manager.nodesInfo := by
  have ran : (viewer.exec foundRun).any (fun recorded =>
      foundId ∈ recorded.1.discovery.manager.nodesInfo ∧
        viewer.StepsFrom (Spared foundId) recorded steadyRun ∧
          (viewer.execFrom recorded steadyRun).isSome) = true := by
    decide +kernel
  rcases (Option.any_eq_true _ _).1 ran with ⟨recorded, run, holds⟩
  rcases of_decide_eq_true holds with ⟨known, spared, runs⟩
  rcases Option.isSome_iff_exists.1 runs with ⟨final, rest⟩
  refine ⟨recorded, final, run, rest, ?_⟩
  exact known_of_spared (by decide +kernel) (by decide +kernel) ⟨_, run⟩ known spared rest

end Watch

end Pyzlc
