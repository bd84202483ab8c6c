import Pyzlc.Sockets.ServiceCalls

/-!
# No call starves

While a request waits, every iteration of the running loop takes a request, this one or one that
the socket hands out before it.  So it has its reply once the loop has made more iterations than
the socket lets others pass, whatever else happens meanwhile, unless one of those leaves the
socket without a reply.
-/

namespace Pyzlc

open Foundation

namespace ServiceManager

variable {κ : Type} {manager : ServiceManager κ} {frames : List Bytes}

/-- A request that can be read gets a reply from a running manager. -/
theorem replyTo_of_serviceable (running : manager.running = true) (serviceable : Serviceable frames)
    (answer : Answer κ) : ∃ reply, manager.replyTo answer frames = .ok reply := by
  rcases serviceable with ⟨nameBytes, request, serviceName, rfl, decoded⟩
  have unpacked : unpackPair [nameBytes, request] = .ok (nameBytes, request) := rfl
  rw [replyTo_of_decode unpacked decoded]
  exact handleRequest_of_running manager running answer serviceName request

end ServiceManager

namespace ServiceCalls

variable {κ : Type} {state next final : ServiceCalls κ} {served : List (Served κ)}
  {event : CallEvent κ} {segment : List (CallEvent κ)} {serial : Nat}

/-- The loop goes from its head to its head. -/
def isIterate : CallEvent κ → Bool
  | .iterate _ => true
  | _ => false

theorem running_of_step (matched : state.Matched served) (stepped : state.step event = some next)
    (running : next.server.running = true) : state.server.running = true := by
  cases effect_of_step matched stepped with
  | sends frames => exact running
  | arrives found transit => exact running
  | comesFirst found waits => exact running
  | takes answer takes => exact ServiceManager.running_iterate answer running
  | quiet same kept unwritten unsent idle => exact kept running
  | settles found own returns unwritten unsent other => exact running

/-- A call with its reply. -/
def Replied (state : ServiceCalls κ) (serial : Nat) : Prop :=
  ∃ call frames, state.calls[serial]? = some call ∧ call.reply = some frames

theorem replied_of_set {call updated : ServiceCall} {other : Nat}
    (found : state.calls[other]? = some call) (calls : next.calls = state.calls.set other updated)
    (kept : ∀ frames, call.reply = some frames → updated.reply = some frames)
    (replied : state.Replied serial) : next.Replied serial := by
  rcases replied with ⟨there, frames, present, reply⟩
  rw [Replied, calls, Serials.getElem?_update found]
  by_cases self : serial = other
  · rw [self, found] at present
    cases present
    rw [if_pos self]
    exact ⟨updated, frames, rfl, kept frames reply⟩
  · rw [if_neg self]
    exact ⟨there, frames, present, reply⟩

theorem replied_of_step (matched : state.Matched served) (stepped : state.step event = some next)
    (replied : state.Replied serial) : next.Replied serial := by
  cases effect_of_step matched stepped with
  | sends frames =>
      rcases replied with ⟨call, reply, found, same⟩
      refine ⟨call, reply, ?_, same⟩
      show (state.calls ++ _)[serial]? = some call
      rw [List.getElem?_append_left (List.getElem?_eq_some_iff.1 found).1]
      exact found
  | arrives found transit => exact replied_of_set found rfl (fun frames reply => reply) replied
  | comesFirst found waits => exact replied
  | takes answer takes =>
      apply replied_of_set takes.found rfl _ replied
      intro frames reply
      rw [takes.unanswered] at reply
      cases reply
  | quiet same kept unwritten unsent idle => exact replied
  | settles found own returns unwritten unsent other =>
      exact replied_of_set found rfl (fun frames reply => reply) replied

theorem request_step (matched : state.Matched served) (stepped : state.step event = some next)
    {frames : List Bytes} (known : state.request serial = some frames) :
    next.request serial = some frames := by
  cases effect_of_step matched stepped with
  | sends others =>
      rcases Option.map_eq_some_iff.1 known with ⟨call, found, same⟩
      have kept : (state.calls ++ [.sent others])[serial]? = some call := by
        rw [List.getElem?_append_left (List.getElem?_eq_some_iff.1 found).1]
        exact found
      rw [request, kept, Option.map_some, same]
  | arrives found transit =>
      apply Eq.trans (request_set found _ serial) known
      exact ⟨_, rfl, rfl⟩
  | comesFirst found waits => exact known
  | takes answer takes =>
      apply Eq.trans (request_set takes.found _ serial) known
      exact ⟨_, rfl, rfl⟩
  | quiet same kept unwritten unsent idle => exact known
  | settles found own returns unwritten unsent other =>
      apply Eq.trans (request_set found _ serial) known
      exact ⟨_, rfl, rfl⟩

theorem not_isIterate (other : ∀ answer, event ≠ .iterate answer) : isIterate event = false := by
  cases event with
  | iterate answer => exact absurd rfl (other answer)
  | sends | arrives | comesFirst | registerService | stop | returns | timesOut => rfl

/-- A request waits in a socket that is ready. -/
structure Queued (serial : Nat) (state : ServiceCalls κ) : Prop where
  ready : state.server.resSocket.state = .ready
  waits : serial ∈ state.peers

/-- While a request waits, the running loop has one to take. -/
theorem Queued.takes (queued : state.Queued serial) (matched : state.Matched served)
    (running : state.server.running = true) :
    ∃ frames rest, state.server.Takes frames rest := by
  have waiting := matched.waiting
  rcases inbox : state.server.resSocket.inbox with _ | ⟨frames, rest⟩
  · rw [inbox] at waiting
    have waits := queued.waits
    rw [List.forall₂_nil_right_iff.1 waiting] at waits
    cases waits
  · exact ⟨frames, rest, running, queued.ready, inbox⟩

/-- Taking a request that can be read leaves the socket ready and the call with its reply. -/
theorem Takes.replied {peers : List Nat} {call : ServiceCall} {rest : List (List Bytes)}
    (takes : state.Takes served serial peers call rest) (serviceable : Serviceable call.request)
    (answer : ServiceManager.Answer κ) :
    (state.afterTaking answer serial peers call).server.resSocket.state = .ready ∧
      (state.afterTaking answer serial peers call).Replied serial := by
  rcases ServiceManager.replyTo_of_serviceable takes.takes.running serviceable answer with
    ⟨reply, replied⟩
  constructor
  · rw [afterTaking, ServiceManager.iterate_of_takes takes.takes]
    simp only [ServiceManager.socketAfter, replied]
  · refine ⟨_, [reply.1, reply.2], (Serials.getElem?_update takes.found _ serial).trans
      (if_pos rfl), ?_⟩
    simp only [Served.reply, Taken.reply, written, replied]

/-- One step: the request waits on, and the step takes one of another call if it is an iteration
and none if it is not, or it has its reply. -/
theorem Queued.step (queued : state.Queued serial) (matched : state.Matched served)
    (running : state.server.running = true) (stepped : state.step event = some next)
    (readable : ∀ entry ∈ state.entry event, Serviceable entry.taken.frames) :
    next.Replied serial ∨
      next.Queued serial ∧ (∀ entry ∈ state.entry event, entry.caller ≠ serial) ∧
        (state.entry event).toList.length = if isIterate event then 1 else 0 := by
  cases effect_of_step matched stepped with
  | sends frames => exact Or.inr ⟨⟨queued.ready, queued.waits⟩, nofun, rfl⟩
  | arrives found transit =>
      exact Or.inr ⟨⟨queued.ready, List.mem_append_left _ queued.waits⟩, nofun, rfl⟩
  | comesFirst found waits =>
      refine Or.inr ⟨⟨queued.ready, ?_⟩, nofun, rfl⟩
      rcases List.getElem?_eq_some_iff.1 found with ⟨within, rfl⟩
      exact (List.getElem_cons_eraseIdx_perm within).mem_iff.2 queued.waits
  | @takes first peers call rest answer takes =>
      have taken := takes.entry answer
      have replied := takes.replied (readable _ taken) answer
      have waits := queued.waits
      rw [takes.listed] at waits
      rcases List.mem_cons.1 waits with rfl | behind
      · exact Or.inl replied.2
      · refine Or.inr ⟨⟨replied.1, behind⟩, ?_, ?_⟩
        · intro entry made same
          cases taken.symm.trans made
          have once := matched.once
          rw [takes.listed] at once
          have fresh := (List.nodup_cons.1 (List.nodup_append.1 once).2.1).1
          rw [← show first = serial from same] at behind
          exact fresh behind
        · rw [taken]
          rfl
  | quiet same kept unwritten unsent idle =>
      have other : isIterate event = false := by
        apply not_isIterate
        rintro answer rfl
        rcases queued.takes matched running with ⟨frames, rest, takes⟩
        exact idle answer rfl frames rest takes
      rw [unwritten, other]
      exact Or.inr ⟨⟨same ▸ queued.ready, queued.waits⟩, nofun, rfl⟩
  | settles found own returns unwritten unsent other =>
      rw [unwritten, not_isIterate other]
      exact Or.inr ⟨⟨queued.ready, queued.waits⟩, nofun, rfl⟩

/-! ## Over a run -/

/-- The requests that are handed out before that of a call. -/
def handedBefore (serial : Nat) (handed : List (Served κ)) : List (Served κ) :=
  handed.takeWhile fun entry => entry.caller != serial

theorem handedBefore_cons {entry : Served κ} (other : entry.caller ≠ serial)
    (handed : List (Served κ)) :
    handedBefore serial (entry :: handed) = entry :: handedBefore serial handed :=
  List.takeWhile_cons_of_pos (bne_iff_ne.2 other)

/-- A run adds what it hands out. -/
theorem handed_of_execFrom {recorded last : ServiceCalls κ × List (Served κ)}
    (run : ledger.execFrom recorded segment = some last) :
    ∃ handed, last.2 = recorded.2 ++ handed := by
  apply Machine.execFrom_invariant (motive := fun last : ServiceCalls κ × List (Served κ) =>
    ∃ handed, last.2 = recorded.2 ++ handed) _ ⟨[], (List.append_nil _).symm⟩ run
  rintro before event after ⟨handed, same⟩ stepped
  rw [(Machine.recording_step.1 stepped).2, same, List.append_assoc]
  exact ⟨_, rfl⟩

theorem matched_of_ledger {recorded next : ServiceCalls κ × List (Served κ)}
    (matched : recorded.1.Matched recorded.2) (stepped : ledger.step recorded event = some next) :
    next.1.Matched next.2 := by
  rcases Machine.recording_step.1 stepped with ⟨moved, written⟩
  rw [written]
  exact matched.step moved

theorem replied_of_ledger {recorded last : ServiceCalls κ × List (Served κ)}
    (matched : recorded.1.Matched recorded.2)
    (run : ledger.execFrom recorded segment = some last) (replied : recorded.1.Replied serial) :
    last.1.Replied serial := by
  refine (Machine.execFrom_invariant (motive := fun state : ServiceCalls κ × List (Served κ) =>
    state.1.Matched state.2 ∧ state.1.Replied serial) ?_ ⟨matched, replied⟩ run).2
  rintro before event after ⟨matched, replied⟩ stepped
  exact ⟨matched_of_ledger matched stepped,
    replied_of_step matched (Machine.recording_step.1 stepped).1 replied⟩

/-- A manager that runs at the end ran all the time. -/
theorem running_of_ledger {recorded last : ServiceCalls κ × List (Served κ)}
    (matched : recorded.1.Matched recorded.2)
    (run : ledger.execFrom recorded segment = some last)
    (running : last.1.server.running = true) : recorded.1.server.running = true := by
  by_contra stopped
  refine (Machine.execFrom_invariant (motive := fun state : ServiceCalls κ × List (Served κ) =>
    state.1.Matched state.2 ∧ ¬ state.1.server.running = true) ?_ ⟨matched, stopped⟩ run).2 running
  rintro before event after ⟨matched, stopped⟩ stepped
  refine ⟨matched_of_ledger matched stepped, ?_⟩
  exact fun again => stopped
    (running_of_step matched (Machine.recording_step.1 stepped).1 again)

theorem replied_of_queued {recorded last : ServiceCalls κ × List (Served κ)}
    (matched : recorded.1.Matched recorded.2) (queued : recorded.1.Queued serial)
    {frames : List Bytes} (own : recorded.1.request serial = some frames)
    (serviceable : Serviceable frames) (run : ledger.execFrom recorded segment = some last)
    (running : last.1.server.running = true) {handed : List (Served κ)}
    (added : last.2 = recorded.2 ++ handed)
    (readable : ∀ entry ∈ handedBefore serial handed, Serviceable entry.taken.frames)
    (enough : (handedBefore serial handed).length < segment.countP isIterate) :
    last.1.Replied serial := by
  induction segment generalizing recorded handed with
  | nil => cases enough
  | cons event rest ih =>
      have started := running_of_ledger matched run running
      rcases Option.bind_eq_some_iff.1 run with ⟨after, stepped, later⟩
      rcases Machine.recording_step.1 stepped with ⟨moved, written⟩
      have matchedAfter := matched_of_ledger matched stepped
      rcases handed_of_execFrom later with ⟨others, same⟩
      have split : handed = (recorded.1.entry event).toList ++ others := by
        rw [written, List.append_assoc] at same
        exact List.append_cancel_left (added.symm.trans same)
      have taken : ∀ entry ∈ recorded.1.entry event, Serviceable entry.taken.frames := by
        intro entry made
        by_cases self : entry.caller = serial
        · have sent := matchedAfter.own entry (by
            rw [written, made]
            exact List.mem_append_right _ List.mem_cons_self)
          rw [self, request_step matched moved own] at sent
          rw [← Option.some.inj sent]
          exact serviceable
        · apply readable
          rw [split, made, Option.toList_some, List.singleton_append, handedBefore_cons self]
          exact List.mem_cons_self
      rcases queued.step matched started moved taken with replied | ⟨waits, others', counted⟩
      · exact replied_of_ledger matchedAfter later replied
      · have passed : handedBefore serial handed =
            (recorded.1.entry event).toList ++ handedBefore serial others := by
          rw [split]
          rcases made : recorded.1.entry event with _ | entry
          · rfl
          · exact handedBefore_cons (others' entry made) others
        rw [passed] at readable enough
        apply ih matchedAfter waits (request_step matched moved own) later same
        · exact fun entry listed => readable entry (List.mem_append_right _ listed)
        · rw [List.countP_cons, List.length_append, counted] at enough
          omega

/-- Two requests that wait for a service which is not there yet. -/
def waitingRun : List (CallEvent Unit) :=
  [.sends [[101, 99, 104, 111], [7]], .sends [[101, 99, 104, 111], [8]], .arrives 1, .arrives 0]

/-- The state it leads to. -/
def waitingCalls : ServiceCalls Unit where
  server :=
    { (ServiceManager.init : ServiceManager Unit) with
      resSocket :=
        { state := .ready
          inbox := [[[101, 99, 104, 111], [8]], [[101, 99, 104, 111], [7]]]
          history := [] } }
  calls :=
    [{ ServiceCall.sent [[101, 99, 104, 111], [7]] with arrived := true },
      { ServiceCall.sent [[101, 99, 104, 111], [8]] with arrived := true }]
  peers := [1, 0]
  serving := none

/-- A third request passes both, the client of one of them gives up, the service is registered, and
the socket hands out the other one before it. -/
def servingSegment : List (CallEvent Unit) :=
  [.sends [[101, 99, 104, 111], [9]], .arrives 2, .comesFirst 2, .iterate fun _ _ => .cancelled,
    .timesOut 1, .registerService "echo" (), .comesFirst 1,
    .iterate fun _ request => .value (some request)]

end ServiceCalls

end Pyzlc
