import Pyzlc.Foundation.Machine
import Pyzlc.Nodes.Multicast

/-!
# The two loops of multicast discovery

One thread sends heartbeats and another receives them, until the stop event is set.  The
receiving loop handles socket errors inside itself and goes on; the sending loop handles
every error by leaving.
-/

namespace Pyzlc

open Foundation

/-- Where the thread of `_multicast_loop` stands. -/
inductive SenderPhase where
  /-- Before the test of the stop event. -/
  | checking
  | sending
  /-- In the wait for the interval. -/
  | waiting
  | left
  deriving DecidableEq, Repr

/-- Where the thread of `_discovery_loop` stands. -/
inductive ReceiverPhase where
  /-- Before the test of the stop event. -/
  | checking
  | selecting
  /-- The socket is readable. -/
  | receiving
  | left
  deriving DecidableEq, Repr

/-- How `select` ends. -/
inductive SelectOutcome where
  | readable
  | timedOut
  | raised
  deriving DecidableEq, Repr

/-- How `sock.recvfrom` ends. -/
inductive RecvOutcome where
  | received (datagram : Bytes) (nodeIp : Text)
  | socketError
  deriving DecidableEq, Repr

/-- A started worker: its two threads, what was sent, and the arguments of the coroutines
that were submitted. -/
structure MulticastThreads where
  worker : MulticastWorker
  stopEvent : Bool
  sender : SenderPhase
  receiver : ReceiverPhase
  sent : List Bytes
  submitted : List (HeartbeatMessage × Text)
  deriving DecidableEq, Repr

inductive MulticastEvent where
  | senderChecks
  | sendto (raises : Bool)
  | waitEnds
  | receiverChecks
  | select (outcome : SelectOutcome)
  /-- `submits` tells whether the event loop takes the coroutine. -/
  | recvfrom (outcome : RecvOutcome) (submits : Bool)
  | setInfoId (infoID : Int)
  | stop
  deriving DecidableEq, Repr

namespace MulticastWorker

/-- The worker of a node whose description has another version. -/
def withInfoId (worker : MulticastWorker) (infoID : Int) : MulticastWorker :=
  { worker with localInfo := { worker.localInfo with infoID := infoID } }

/-- The fields of a heartbeat beside the version have an encoding. -/
structure Sendable (worker : MulticastWorker) : Prop where
  major : -2147483648 ≤ worker.protocolVersion.1 ∧ worker.protocolVersion.1 ≤ 2147483647
  minor : -2147483648 ≤ worker.protocolVersion.2.1 ∧ worker.protocolVersion.2.1 ≤ 2147483647
  patch : -2147483648 ≤ worker.protocolVersion.2.2 ∧ worker.protocolVersion.2.2 ≤ 2147483647
  servicePort : -2147483648 ≤ worker.servicePort ∧ worker.servicePort ≤ 2147483647
  nodeId : ∃ bytes, worker.localInfo.nodeID.encode = some bytes
  groupName : ∃ bytes, worker.groupName.encode = some bytes

/-- The version of the node's description is in the range of its counter. -/
def InRange (worker : MulticastWorker) : Prop :=
  0 ≤ worker.localInfo.infoID ∧ worker.localInfo.infoID ≤ 2147483647

instance (worker : MulticastWorker) : Decidable worker.InRange :=
  inferInstanceAs (Decidable (_ ∧ _))

/-- With a version in range, a heartbeat has bytes exactly when its other fields have. -/
theorem exists_multicastDatagram_iff {worker : MulticastWorker} (inRange : worker.InRange) :
    (∃ datagram, worker.multicastDatagram = .ok datagram) ↔ worker.Sendable := by
  have infoRange : -2147483648 ≤ worker.localInfo.infoID ∧
      worker.localInfo.infoID ≤ 2147483647 := by
    have range := inRange
    unfold InRange at range
    omega
  constructor
  · rintro ⟨datagram, sent⟩
    rcases toBytes_eq_ok.1 sent with ⟨nodeId, idEncoded, header, packed, name, nameEncoded, -⟩
    rcases packHeader_eq_ok.1 packed with
      ⟨_, major, _, minor, _, patch, _, _, _, port, -⟩
    constructor
    · exact (packInt32_eq_ok.1 major).1
    · exact (packInt32_eq_ok.1 minor).1
    · exact (packInt32_eq_ok.1 patch).1
    · exact (packInt32_eq_ok.1 port).1
    · exact ⟨nodeId, idEncoded⟩
    · exact ⟨name, nameEncoded⟩
  · intro sendable
    rcases sendable.nodeId with ⟨nodeId, idEncoded⟩
    rcases sendable.groupName with ⟨name, nameEncoded⟩
    have packed : ∃ header, packHeader worker.protocolVersion nodeId worker.localInfo.infoID
        worker.servicePort = .ok header := by
      refine ⟨_, packHeader_eq_ok.2 ⟨_, packInt32_eq_ok.2 ⟨sendable.major, rfl⟩,
        _, packInt32_eq_ok.2 ⟨sendable.minor, rfl⟩, _, packInt32_eq_ok.2 ⟨sendable.patch, rfl⟩,
        _, packInt32_eq_ok.2 ⟨infoRange, rfl⟩,
        _, packInt32_eq_ok.2 ⟨sendable.servicePort, rfl⟩, rfl⟩⟩
    rcases packed with ⟨header, packed⟩
    exact ⟨_, toBytes_eq_ok.2 ⟨nodeId, idEncoded, header, packed, name, nameEncoded, rfl⟩⟩

end MulticastWorker

namespace MulticastThreads

/-- Right after `start`. -/
def init (worker : MulticastWorker) : MulticastThreads where
  worker := worker
  stopEvent := false
  sender := .checking
  receiver := .checking
  sent := []
  submitted := []

/-- The body of `_multicast_loop` up to its wait.  Whatever `to_bytes` or `sendto` raises is
an `Exception`, and the handler leaves the loop. -/
def send (threads : MulticastThreads) (raises : Bool) : MulticastThreads :=
  match threads.worker.multicastDatagram with
  | .error _ => { threads with sender := .left }
  | .ok datagram =>
      if raises then { threads with sender := .left }
      else { threads with sender := .waiting, sent := threads.sent ++ [datagram] }

/-- `_handle_datagram`: what it raises, it handles itself. -/
def receive (threads : MulticastThreads) (submits : Bool) : RecvOutcome → MulticastThreads
  | .socketError => { threads with receiver := .checking }
  | .received datagram nodeIp =>
      if submits then
        { threads with
          receiver := .checking
          submitted := threads.submitted ++ (threads.worker.discover datagram nodeIp).toList }
      else { threads with receiver := .checking }

def step (threads : MulticastThreads) : MulticastEvent → Option MulticastThreads
  | .senderChecks =>
      match threads.sender with
      | .checking =>
          some { threads with sender := if threads.stopEvent then .left else .sending }
      | _ => none
  | .sendto raises =>
      match threads.sender with
      | .sending => some (threads.send raises)
      | _ => none
  | .waitEnds =>
      match threads.sender with
      | .waiting => some { threads with sender := .checking }
      | _ => none
  | .receiverChecks =>
      match threads.receiver with
      | .checking =>
          some { threads with receiver := if threads.stopEvent then .left else .selecting }
      | _ => none
  | .select outcome =>
      match threads.receiver, outcome with
      | .selecting, .readable => some { threads with receiver := .receiving }
      | .selecting, .timedOut => some { threads with receiver := .checking }
      | .selecting, .raised => some { threads with receiver := .left }
      | _, _ => none
  | .recvfrom outcome submits =>
      match threads.receiver with
      | .receiving => some (threads.receive submits outcome)
      | _ => none
  | .setInfoId infoID =>
      if (threads.worker.withInfoId infoID).InRange then
        some { threads with worker := threads.worker.withInfoId infoID }
      else none
  | .stop => some { threads with stopEvent := true }

/-- Every interleaving of the two threads, the socket outcomes, registrations and a stop. -/
def machine (worker : MulticastWorker) : Machine MulticastThreads MulticastEvent where
  start := init worker
  step := step

/-! ## What a step does -/

/-- What each event does, where it can happen. -/
inductive StepCase (threads : MulticastThreads) : MulticastEvent → MulticastThreads → Prop where
  | senderChecks (phase : threads.sender = .checking) :
      StepCase threads .senderChecks
        { threads with sender := if threads.stopEvent then .left else .sending }
  | sends (raises : Bool) (phase : threads.sender = .sending) :
      StepCase threads (.sendto raises) (threads.send raises)
  | waitEnds (phase : threads.sender = .waiting) :
      StepCase threads .waitEnds { threads with sender := .checking }
  | receiverChecks (phase : threads.receiver = .checking) :
      StepCase threads .receiverChecks
        { threads with receiver := if threads.stopEvent then .left else .selecting }
  | readable (phase : threads.receiver = .selecting) :
      StepCase threads (.select .readable) { threads with receiver := .receiving }
  | timedOut (phase : threads.receiver = .selecting) :
      StepCase threads (.select .timedOut) { threads with receiver := .checking }
  | selectRaises (phase : threads.receiver = .selecting) :
      StepCase threads (.select .raised) { threads with receiver := .left }
  | receives (outcome : RecvOutcome) (submits : Bool) (phase : threads.receiver = .receiving) :
      StepCase threads (.recvfrom outcome submits) (threads.receive submits outcome)
  | setInfoId (infoID : Int) (inRange : (threads.worker.withInfoId infoID).InRange) :
      StepCase threads (.setInfoId infoID)
        { threads with worker := threads.worker.withInfoId infoID }
  | stop : StepCase threads .stop { threads with stopEvent := true }

theorem stepCase_of_step {threads next : MulticastThreads} {event : MulticastEvent}
    (stepped : threads.step event = some next) : StepCase threads event next := by
  cases event with
  | senderChecks =>
      simp only [step] at stepped
      split at stepped
      next phase =>
        cases stepped
        exact .senderChecks phase
      next => cases stepped
  | sendto raises =>
      simp only [step] at stepped
      split at stepped
      next phase =>
        cases stepped
        exact .sends raises phase
      next => cases stepped
  | waitEnds =>
      simp only [step] at stepped
      split at stepped
      next phase =>
        cases stepped
        exact .waitEnds phase
      next => cases stepped
  | receiverChecks =>
      simp only [step] at stepped
      split at stepped
      next phase =>
        cases stepped
        exact .receiverChecks phase
      next => cases stepped
  | select outcome =>
      simp only [step] at stepped
      split at stepped
      next phase =>
        cases stepped
        exact .readable phase
      next phase =>
        cases stepped
        exact .timedOut phase
      next phase =>
        cases stepped
        exact .selectRaises phase
      next => cases stepped
  | recvfrom outcome submits =>
      simp only [step] at stepped
      split at stepped
      next phase =>
        cases stepped
        exact .receives outcome submits phase
      next => cases stepped
  | setInfoId infoID =>
      rcases Option.ite_none_right_eq_some.1 stepped with ⟨inRange, same⟩
      cases same
      exact .setInfoId infoID inRange
  | stop =>
      cases stepped
      exact .stop

/-! ## Sending -/

theorem send_of_datagram {threads : MulticastThreads} {datagram : Bytes}
    (composed : threads.worker.multicastDatagram = .ok datagram) :
    threads.send false =
      { threads with sender := .waiting, sent := threads.sent ++ [datagram] } := by
  rw [send, composed]
  rfl

/-- A round that sends nothing leaves the loop. -/
theorem send_of_failure {threads : MulticastThreads} {raises : Bool}
    (failed : ¬ (raises = false ∧ ∃ datagram, threads.worker.multicastDatagram = .ok datagram)) :
    threads.send raises = { threads with sender := .left } := by
  unfold send
  split
  next => rfl
  next datagram composed =>
    rw [if_pos]
    rw [← Bool.not_eq_false]
    intro succeeds
    exact failed ⟨succeeds, datagram, composed⟩

/-- Whatever a socket read brings, the receiving thread goes back to its test. -/
theorem receiver_receive (threads : MulticastThreads) (submits : Bool) (outcome : RecvOutcome) :
    (threads.receive submits outcome).receiver = .checking := by
  cases outcome with
  | socketError => rfl
  | received datagram nodeIp =>
      cases submits with
      | false => rfl
      | true => rfl

theorem frame_send (threads : MulticastThreads) (raises : Bool) :
    (threads.send raises).worker = threads.worker ∧
      (threads.send raises).stopEvent = threads.stopEvent ∧
      (threads.send raises).receiver = threads.receiver := by
  unfold send
  split
  next => exact ⟨rfl, rfl, rfl⟩
  next =>
    split
    next => exact ⟨rfl, rfl, rfl⟩
    next => exact ⟨rfl, rfl, rfl⟩

theorem frame_receive (threads : MulticastThreads) (submits : Bool) (outcome : RecvOutcome) :
    (threads.receive submits outcome).worker = threads.worker ∧
      (threads.receive submits outcome).stopEvent = threads.stopEvent ∧
      (threads.receive submits outcome).sender = threads.sender ∧
      (threads.receive submits outcome).sent = threads.sent := by
  cases outcome with
  | socketError => exact ⟨rfl, rfl, rfl, rfl⟩
  | received datagram nodeIp =>
      cases submits with
      | false => exact ⟨rfl, rfl, rfl, rfl⟩
      | true => exact ⟨rfl, rfl, rfl, rfl⟩

/-! ## The fields of the heartbeat -/

/-- The version stays in range, and the other fields stay as they are. -/
structure Composes (worker : MulticastWorker) (threads : MulticastThreads) : Prop where
  inRange : threads.worker.InRange
  same : ∃ infoID, threads.worker = worker.withInfoId infoID

theorem sendable_withInfoId {worker : MulticastWorker} (infoID : Int) :
    (worker.withInfoId infoID).Sendable ↔ worker.Sendable := by
  constructor
  · intro sendable
    exact ⟨sendable.major, sendable.minor, sendable.patch, sendable.servicePort,
      sendable.nodeId, sendable.groupName⟩
  · intro sendable
    exact ⟨sendable.major, sendable.minor, sendable.patch, sendable.servicePort,
      sendable.nodeId, sendable.groupName⟩

theorem composes_step {worker : MulticastWorker} {threads next : MulticastThreads}
    {event : MulticastEvent} (composes : Composes worker threads)
    (stepped : threads.step event = some next) : Composes worker next := by
  have kept : next.worker = threads.worker → Composes worker next := by
    intro same
    constructor
    · rw [same]
      exact composes.inRange
    · rw [same]
      exact composes.same
  cases stepCase_of_step stepped with
  | sends raises _ => exact kept (frame_send threads raises).1
  | receives outcome submits _ => exact kept (frame_receive threads submits outcome).1
  | setInfoId infoID inRange =>
      constructor
      · exact inRange
      · rcases composes.same with ⟨earlier, same⟩
        refine ⟨infoID, ?_⟩
        simp only [same]
        rfl
  | senderChecks | waitEnds | receiverChecks | readable | timedOut | selectRaises | stop =>
      exact kept rfl

theorem composes_of_reachable {worker : MulticastWorker} {threads : MulticastThreads}
    (inRange : worker.InRange) (reachable : (machine worker).Reachable threads) :
    Composes worker threads := by
  apply reachable.invariant
  · exact ⟨inRange, worker.localInfo.infoID, rfl⟩
  · intro before event after _ composes stepped
    exact composes_step composes stepped

/-- A heartbeat can be composed in a reachable state if it could be at the start. -/
theorem exists_multicastDatagram {worker : MulticastWorker} {threads : MulticastThreads}
    (inRange : worker.InRange) (reachable : (machine worker).Reachable threads) :
    (∃ datagram, threads.worker.multicastDatagram = .ok datagram) ↔ worker.Sendable := by
  have composes := composes_of_reachable inRange reachable
  rcases composes.same with ⟨infoID, same⟩
  rw [MulticastWorker.exists_multicastDatagram_iff composes.inRange, same]
  exact sendable_withInfoId infoID

/-! ## Staying in the loops -/

/-- A thread that has left sends nothing more. -/
theorem silent_step {threads next : MulticastThreads} {event : MulticastEvent}
    (left : threads.sender = .left) (stepped : threads.step event = some next) :
    next.sender = .left ∧ next.sent = threads.sent := by
  cases stepCase_of_step stepped with
  | senderChecks phase | sends _ phase | waitEnds phase => cases left.symm.trans phase
  | receives outcome submits _ =>
      have frame := frame_receive threads submits outcome
      exact ⟨frame.2.2.1.trans left, frame.2.2.2⟩
  | receiverChecks | readable | timedOut | selectRaises | setInfoId | stop => exact ⟨left, rfl⟩

/-- Nothing is sent behind a run that took the sending thread out of its loop. -/
theorem silent_after_leaving {worker : MulticastWorker} {initial segment : List MulticastEvent}
    {threads next : MulticastThreads} (run : (machine worker).exec initial = some threads)
    (left : threads.sender = .left)
    (after : (machine worker).exec (initial ++ segment) = some next) :
    next.sent = threads.sent := by
  have always : (machine worker).Throughout (fun _ => True) initial segment :=
    fun _ _ _ _ => trivial
  have related := always.related
    (fun earlier later => earlier.sender = .left →
      later.sender = .left ∧ later.sent = earlier.sent)
    (fun _ still => ⟨still, rfl⟩) ?_ ?_ run after
  · exact (related left).2
  · intro first second third _ before behind still
    rcases before still with ⟨middle, same⟩
    rcases behind middle with ⟨last, sameAgain⟩
    exact ⟨last, sameAgain.trans same⟩
  · intro _ _ _ _ _ _ _ stepped _ still
    exact silent_step still stepped

/-- As long as the stop event is not set, both threads are in their loops. -/
def InLoops (threads : MulticastThreads) : Prop :=
  threads.stopEvent = false → threads.sender ≠ .left ∧ threads.receiver ≠ .left

/-- Before the stop event is set, no `select` raises, and no send does. -/
def SocketsServe (worker : MulticastWorker) (threads : MulticastThreads)
    (event : MulticastEvent) : Prop :=
  threads.stopEvent = false →
    event ≠ .select .raised ∧
    ∀ raises, event = .sendto raises → raises = false ∧ worker.Sendable

/-- The stop event is never cleared while the threads run. -/
theorem stopEvent_step {threads next : MulticastThreads} {event : MulticastEvent}
    (stopping : threads.stopEvent = true) (stepped : threads.step event = some next) :
    next.stopEvent = true := by
  cases stepCase_of_step stepped with
  | sends raises _ => exact (frame_send threads raises).2.1.trans stopping
  | receives outcome submits _ => exact (frame_receive threads submits outcome).2.1.trans stopping
  | stop => rfl
  | senderChecks | waitEnds | receiverChecks | readable | timedOut | selectRaises | setInfoId =>
      exact stopping

/-- A send keeps its thread in the loop exactly when it sends something. -/
theorem inLoops_send_iff {worker : MulticastWorker} {threads : MulticastThreads} {raises : Bool}
    (inRange : worker.InRange) (reachable : (machine worker).Reachable threads)
    (running : threads.stopEvent = false) (receiving : threads.receiver ≠ .left) :
    InLoops (threads.send raises) ↔ raises = false ∧ worker.Sendable := by
  rw [← exists_multicastDatagram inRange reachable]
  constructor
  · intro remains
    by_contra failed
    have inside := (remains ((frame_send threads raises).2.1.trans running)).1
    rw [send_of_failure failed] at inside
    exact inside rfl
  · intro success
    rcases success with ⟨rfl, datagram, composed⟩
    rw [send_of_datagram composed]
    intro _
    exact ⟨nofun, receiving⟩

/-- Before the stop event is set, a step keeps both threads in their loops exactly when the
sockets serve it. -/
theorem inLoops_step_iff {worker : MulticastWorker} {threads next : MulticastThreads}
    {event : MulticastEvent} (inRange : worker.InRange)
    (reachable : (machine worker).Reachable threads) (inLoops : InLoops threads)
    (running : threads.stopEvent = false) (stepped : threads.step event = some next) :
    InLoops next ↔ SocketsServe worker threads event := by
  have inside := inLoops running
  cases stepCase_of_step stepped with
  | sends raises =>
      apply (inLoops_send_iff inRange reachable running inside.2).trans
      constructor
      · intro success _
        refine ⟨nofun, ?_⟩
        intro given same
        cases same
        exact success
      · intro serves
        exact (serves running).2 raises rfl
  | selectRaises =>
      apply iff_of_false
      · intro remains
        exact (remains running).2 rfl
      · intro serves
        exact (serves running).1 rfl
  | senderChecks =>
      apply iff_of_true _ (fun _ => ⟨nofun, nofun⟩)
      intro _
      rw [running]
      exact ⟨nofun, inside.2⟩
  | receiverChecks =>
      apply iff_of_true _ (fun _ => ⟨nofun, nofun⟩)
      intro _
      rw [running]
      exact ⟨inside.1, nofun⟩
  | receives outcome submits =>
      apply iff_of_true _ (fun _ => ⟨nofun, nofun⟩)
      intro _
      rw [(frame_receive threads submits outcome).2.2.1, receiver_receive]
      exact ⟨inside.1, nofun⟩
  | waitEnds =>
      apply iff_of_true _ (fun _ => ⟨nofun, nofun⟩)
      intro _
      exact ⟨nofun, inside.2⟩
  | readable | timedOut =>
      apply iff_of_true _ (fun _ => ⟨nofun, nofun⟩)
      intro _
      exact ⟨inside.1, nofun⟩
  | setInfoId | stop =>
      apply iff_of_true _ (fun _ => ⟨nofun, nofun⟩)
      intro _
      exact inside

/-- Along every run, both threads stay in their loops until the stop event is set if and
only if, until then, no `select` raises and every send succeeds: the fields of the heartbeat
have an encoding and `sendto` does not raise. -/
theorem inLoops_iff {worker : MulticastWorker} (inRange : worker.InRange)
    {trace : List MulticastEvent} {threads : MulticastThreads}
    (run : (machine worker).exec trace = some threads) :
    (machine worker).StatesAlong InLoops trace ↔
      (machine worker).StepsAlong (SocketsServe worker) trace := by
  apply Machine.statesAlong_iff_stepsAlong _ _ run
  · intro _
    exact ⟨nofun, nofun⟩
  · intro before event after reachable inLoops stepped
    cases running : before.stopEvent with
    | false => exact inLoops_step_iff inRange reachable inLoops running stepped
    | true =>
        apply iff_of_true
        · intro stillRunning
          rw [stopEvent_step running stepped] at stillRunning
          cases stillRunning
        · intro stillRunning
          rw [running] at stillRunning
          cases stillRunning

/-- A node without sockets. -/
def sampleWorker : MulticastWorker where
  localInfo := {
    nodeID := "123e4567-e89b-12d3-a456-426614174000", infoID := 2, name := "camera",
    ip := "192.168.0.7", topics := [], services := [] }
  servicePort := 5555
  groupName := "zlc_default_group_name"
  protocolVersion := (2, 2, 4)

/-- A heartbeat is sent, a socket error and a datagram of no meaning are received. -/
def steadyRun : List MulticastEvent :=
  [.senderChecks, .sendto false, .receiverChecks, .select .readable, .recvfrom .socketError true,
    .waitEnds, .receiverChecks, .select .readable, .recvfrom (.received [1, 2, 3] "") true]

theorem sampleWorker_sendable : sampleWorker.Sendable where
  major := by decide
  minor := by decide
  patch := by decide
  servicePort := by decide
  nodeId := ⟨_, rfl⟩
  groupName := ⟨_, rfl⟩

theorem inLoops_along_steadyRun : (machine sampleWorker).StatesAlong InLoops steadyRun := by
  have runs : ((machine sampleWorker).exec steadyRun).isSome = true := by
    decide +kernel
  rcases Option.isSome_iff_exists.1 runs with ⟨threads, run⟩
  apply (inLoops_iff (by decide) run).2
  intro initial event before within _ _
  have member : event ∈ steadyRun := within.subset (List.mem_append_right _ List.mem_cons_self)
  constructor
  · rintro rfl
    exact absurd member (by decide)
  · rintro raises rfl
    refine ⟨?_, sampleWorker_sendable⟩
    cases raises with
    | false => rfl
    | true => exact absurd member (by decide)

/-- One send fails, as while a network interface is down. -/
def failedSend : List MulticastEvent := [.senderChecks, .sendto true]

theorem failed_send_silences :
    ¬ (machine sampleWorker).StatesAlong InLoops failedSend ∧
    ∀ segment next, (machine sampleWorker).exec (failedSend ++ segment) = some next →
      next.sent = [] := by
  have failed : ((machine sampleWorker).exec failedSend).map
      (fun threads => (threads.stopEvent, threads.sender, threads.sent)) =
        some (false, .left, []) := by
    decide +kernel
  rcases Option.map_eq_some_iff.1 failed with ⟨threads, run, fields⟩
  rcases Prod.mk.inj fields with ⟨running, fields⟩
  rcases Prod.mk.inj fields with ⟨left, sent⟩
  constructor
  · intro states
    exact (states.last run running).1 left
  · intro segment next after
    rw [silent_after_leaving run left after, sent]

end MulticastThreads

end Pyzlc
