import Pyzlc.Foundation.Inevitable
import Pyzlc.Nodes.MulticastLoops

/-!
# Stopping multicast discovery

`stop` sets the stop event and waits for both threads.  Each of them tests the event once in a
round, so both leave their loops after a few steps of their own, whatever the sockets do, and until
then the node sends one heartbeat more at most and submits one coroutine more at most.
-/

namespace Pyzlc

open Foundation

/-- The steps that the sending thread still takes once the stop event is set. -/
def SenderPhase.remaining : SenderPhase → Nat
  | .left => 0
  | .checking => 1
  | .waiting => 2
  | .sending => 3

/-- The steps that the receiving thread still takes once the stop event is set. -/
def ReceiverPhase.remaining : ReceiverPhase → Nat
  | .left => 0
  | .checking => 1
  | .receiving => 2
  | .selecting => 3

/-- What the round of the sending thread may still send. -/
def SenderPhase.maySend : SenderPhase → Nat
  | .sending => 1
  | .checking | .waiting | .left => 0

/-- What the round of the receiving thread may still submit. -/
def ReceiverPhase.maySubmit : ReceiverPhase → Nat
  | .selecting | .receiving => 1
  | .checking | .left => 0

/-- The event is a step of one of the threads. -/
def MulticastEvent.ofThread : MulticastEvent → Bool
  | .setInfoId _ | .stop => false
  | .senderChecks | .sendto _ | .waitEnds | .receiverChecks | .select _ | .recvfrom _ _ => true

namespace MulticastThreads

variable {threads next : MulticastThreads} {event : MulticastEvent} {worker : MulticastWorker}

def remaining (threads : MulticastThreads) : Nat :=
  threads.sender.remaining + threads.receiver.remaining

/-- What was sent, and what the round that is going on may send. -/
def sentAtMost (threads : MulticastThreads) : Nat :=
  threads.sent.length + threads.sender.maySend

/-- What was submitted, and what the round that is going on may submit. -/
def submittedAtMost (threads : MulticastThreads) : Nat :=
  threads.submitted.length + threads.receiver.maySubmit

/-- Both threads have left their loops. -/
def Left (threads : MulticastThreads) : Prop :=
  threads.sender = .left ∧ threads.receiver = .left

/-- A send leaves its round shorter by what it sends. -/
theorem send_cases (threads : MulticastThreads) (raises : Bool) :
    (threads.send raises = { threads with sender := .left }) ∨
      ∃ datagram, threads.send raises =
        { threads with sender := .waiting, sent := threads.sent ++ [datagram] } := by
  unfold send
  split
  next => exact Or.inl rfl
  next datagram _ =>
    split
    next => exact Or.inl rfl
    next => exact Or.inr ⟨datagram, rfl⟩

theorem receive_cases (threads : MulticastThreads) (submits : Bool) (outcome : RecvOutcome) :
    ∃ more : List (HeartbeatMessage × Text), more.length ≤ 1 ∧
      threads.receive submits outcome =
        { threads with receiver := .checking, submitted := threads.submitted ++ more } := by
  cases outcome with
  | socketError => exact ⟨[], Nat.zero_le 1, by rw [List.append_nil]; rfl⟩
  | received datagram nodeIp =>
      cases submits with
      | false => exact ⟨[], Nat.zero_le 1, by rw [List.append_nil]; rfl⟩
      | true =>
          refine ⟨(threads.worker.discover datagram nodeIp).toList, ?_, rfl⟩
          cases threads.worker.discover datagram nodeIp with
          | none => exact Nat.zero_le 1
          | some submitted => exact Nat.le_refl 1

/-- What a step does once the stop event is set: to the steps that remain, and to what may still be
sent and submitted. -/
theorem winds_down (stopping : threads.stopEvent = true)
    (stepped : threads.step event = some next) :
    next.remaining + event.ofThread.toNat ≤ threads.remaining ∧
      next.sentAtMost ≤ threads.sentAtMost ∧ next.submittedAtMost ≤ threads.submittedAtMost := by
  unfold remaining sentAtMost submittedAtMost
  cases stepCase_of_step stepped with
  | sends raises phase =>
      rcases send_cases threads raises with same | ⟨datagram, same⟩
      · rw [same, phase]
        dsimp only [SenderPhase.remaining, SenderPhase.maySend, MulticastEvent.ofThread,
          Bool.toNat_true]
        omega
      · rw [same, phase]
        dsimp only [SenderPhase.remaining, SenderPhase.maySend, MulticastEvent.ofThread,
          Bool.toNat_true]
        rw [List.length_append, List.length_singleton]
        omega
  | receives outcome submits phase =>
      rcases receive_cases threads submits outcome with ⟨more, atMost, same⟩
      rw [same, phase]
      dsimp only [ReceiverPhase.remaining, ReceiverPhase.maySubmit, MulticastEvent.ofThread,
        Bool.toNat_true]
      rw [List.length_append]
      omega
  | senderChecks phase =>
      rw [phase, stopping, if_pos rfl]
      dsimp only [SenderPhase.remaining, SenderPhase.maySend, MulticastEvent.ofThread,
        Bool.toNat_true]
      omega
  | waitEnds phase =>
      rw [phase]
      dsimp only [SenderPhase.remaining, SenderPhase.maySend, MulticastEvent.ofThread,
        Bool.toNat_true]
      omega
  | receiverChecks phase =>
      rw [phase, stopping, if_pos rfl]
      dsimp only [ReceiverPhase.remaining, ReceiverPhase.maySubmit, MulticastEvent.ofThread,
        Bool.toNat_true]
      omega
  | readable phase | timedOut phase | selectRaises phase =>
      rw [phase]
      dsimp only [ReceiverPhase.remaining, ReceiverPhase.maySubmit, MulticastEvent.ofThread,
        Bool.toNat_true]
      omega
  | setInfoId | stop => exact ⟨Nat.le_refl _, Nat.le_refl _, Nat.le_refl _⟩

/-- A thread that has not left its loop can go on. -/
theorem possible_of_not_left (notLeft : ¬ threads.Left) :
    ∃ event, event.ofThread = true ∧ (threads.step event).isSome = true := by
  cases sender : threads.sender with
  | checking => exact ⟨.senderChecks, rfl, by simp only [step, sender]; rfl⟩
  | sending => exact ⟨.sendto true, rfl, by simp only [step, sender]; rfl⟩
  | waiting => exact ⟨.waitEnds, rfl, by simp only [step, sender]; rfl⟩
  | left =>
      cases receiver : threads.receiver with
      | checking => exact ⟨.receiverChecks, rfl, by simp only [step, receiver]; rfl⟩
      | selecting => exact ⟨.select .timedOut, rfl, by simp only [step, receiver]; rfl⟩
      | receiving => exact ⟨.recvfrom .socketError true, rfl, by simp only [step, receiver]; rfl⟩
      | left => exact absurd ⟨sender, receiver⟩ notLeft

theorem remaining_le (threads : MulticastThreads) : threads.remaining ≤ 6 := by
  have sender : threads.sender.remaining ≤ 3 := by
    cases threads.sender <;> decide
  have receiver : threads.receiver.remaining ≤ 3 := by
    cases threads.receiver <;> decide
  exact Nat.add_le_add sender receiver

/-- Whatever happens after `stop`: the threads take six steps at most and can take one until both
have left their loops, one more heartbeat is sent at most, and one more coroutine is submitted at
most. -/
theorem stops_of_run {initial segment : List MulticastEvent}
    (run : (machine worker).exec initial = some threads) (stopping : threads.stopEvent = true)
    (after : (machine worker).exec (initial ++ segment) = some next) :
    segment.countP MulticastEvent.ofThread ≤ 6 ∧
      (next.Left ∨ ∃ event, event.ofThread = true ∧ (next.step event).isSome = true) ∧
      next.sent.length ≤ threads.sent.length + 1 ∧
      next.submitted.length ≤ threads.submitted.length + 1 := by
  have goesOn : (machine worker).execFrom threads segment = some next := by
    rw [Machine.exec, Machine.execFrom_append] at after
    rcases Option.bind_eq_some_iff.1 after with ⟨middle, reached, rest⟩
    cases reached.symm.trans run
    exact rest
  have steps := Machine.execFrom_measure_le (fun state => state.stopEvent = true) remaining
    MulticastEvent.ofThread
    (fun state event later stopping stepped =>
      ⟨stopEvent_step stopping stepped, (winds_down stopping stepped).1⟩) stopping goesOn
  have sends := Machine.execFrom_measure_le (fun state => state.stopEvent = true) sentAtMost
    (fun _ => false)
    (fun state event later stopping stepped =>
      ⟨stopEvent_step stopping stepped, (winds_down stopping stepped).2.1⟩) stopping goesOn
  have submits := Machine.execFrom_measure_le (fun state => state.stopEvent = true)
    submittedAtMost (fun _ => false)
    (fun state event later stopping stepped =>
      ⟨stopEvent_step stopping stepped, (winds_down stopping stepped).2.2⟩) stopping goesOn
  refine ⟨?_, ?_, ?_, ?_⟩
  · exact (Nat.le_add_left _ _).trans (steps.2.trans threads.remaining_le)
  · by_cases left : next.Left
    · exact Or.inl left
    · exact Or.inr (possible_of_not_left left)
  · have before : threads.sentAtMost ≤ threads.sent.length + 1 := by
      apply Nat.add_le_add_left
      cases threads.sender <;> decide
    exact (Nat.le_add_right _ _).trans ((Nat.le_add_right _ _).trans (sends.2.trans before))
  · have before : threads.submittedAtMost ≤ threads.submitted.length + 1 := by
      apply Nat.add_le_add_left
      cases threads.receiver <;> decide
    exact (Nat.le_add_right _ _).trans ((Nat.le_add_right _ _).trans (submits.2.trans before))

/-- The event is set while a heartbeat is on its way out and a datagram has been announced. -/
def stoppingRun : List MulticastEvent :=
  [.senderChecks, .receiverChecks, .select .readable, .stop]

/-- The rest of both rounds. -/
def lastRounds : List MulticastEvent :=
  [.sendto false, .recvfrom .socketError true, .waitEnds, .receiverChecks, .senderChecks]

theorem stops_of_run_lastRounds :
    ∃ threads next, (machine sampleWorker).exec stoppingRun = some threads ∧
      (machine sampleWorker).exec (stoppingRun ++ lastRounds) = some next ∧
      (next.Left ∨ ∃ event, event.ofThread = true ∧ (next.step event).isSome = true) ∧
      next.sent.length ≤ threads.sent.length + 1 := by
  have stopped : ((machine sampleWorker).exec stoppingRun).map MulticastThreads.stopEvent =
      some true := by
    decide +kernel
  have ends : ((machine sampleWorker).exec (stoppingRun ++ lastRounds)).isSome = true := by
    decide +kernel
  rcases Option.map_eq_some_iff.1 stopped with ⟨threads, run, stopping⟩
  rcases Option.isSome_iff_exists.1 ends with ⟨next, after⟩
  have stops := stops_of_run run stopping after
  exact ⟨threads, next, run, after, stops.2.1, stops.2.2.1⟩

end MulticastThreads

end Pyzlc
