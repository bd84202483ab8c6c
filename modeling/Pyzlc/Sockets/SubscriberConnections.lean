import Pyzlc.Foundation.Serials
import Pyzlc.Sockets.SubscriberManager

/-!
# The connections of one subscriber

`connect` looks an address up, connects the socket, sets two fields, and submits a
`receive_loop` if none was submitted or the future of the last one is done.  The loop runs in
another thread: it ends at any moment, also between the two halves of a `connect`, and its
future is done some time after that.
-/

namespace Pyzlc

open Foundation

/-- A submitted `receive_loop`: whether it has ended, and whether its future says so. -/
structure ReceiveTask where
  finished : Bool
  done : Bool
  deriving DecidableEq

/-- A subscriber with the tasks it submitted, the one its `_receive_future` belongs to, the
addresses its socket accepted, and whether a `connect` is past the socket call. -/
structure ConnectingSubscriber where
  connected : Bool
  subUrls : List Text
  receiveFuture : Option Nat
  tasks : List ReceiveTask
  accepted : List Text
  connecting : Bool
  deriving DecidableEq

/-- What happens to a subscriber.  A `connect` is taken in two halves. -/
inductive ConnectEvent where
  | connect (url : Text) (refused : Option PyError)
  | continueConnect
  | taskEnds (index : Nat)
  | futureDone (index : Nat)
  deriving DecidableEq

namespace ConnectingSubscriber

/-- A subscriber right after construction. -/
def init : ConnectingSubscriber where
  connected := false
  subUrls := []
  receiveFuture := none
  tasks := []
  accepted := []
  connecting := false

/-- `connect` up to the start of the task; the result tells whether it gets there. -/
def attach (refused : Option PyError) (url : Text) : Action PyError ConnectingSubscriber Bool := do
  let subscriber ← get
  if url ∈ subscriber.subUrls then
    pure false
  else
    match refused with
    | some error => throw error
    | none =>
        set { subscriber with
          connected := true
          subUrls := subscriber.subUrls ++ [url]
          accepted := subscriber.accepted ++ [url] }
        pure true

/-- `self._receive_future is None or self._receive_future.done()`. -/
def needsTask (subscriber : ConnectingSubscriber) : Bool :=
  match subscriber.receiveFuture with
  | none => true
  | some index => subscriber.tasks[index]?.any fun task => task.done

/-- The end of `connect`. -/
def startLoop (subscriber : ConnectingSubscriber) : ConnectingSubscriber :=
  if subscriber.needsTask then
    { subscriber with
      receiveFuture := some subscriber.tasks.length
      tasks := subscriber.tasks ++ [{ finished := false, done := false }] }
  else subscriber

/-- Connect to a publisher's socket. -/
def connect (refused : Option PyError) (url : Text) : Action PyError ConnectingSubscriber Unit := do
  let attached ← attach refused url
  if attached then modify startLoop

def step (subscriber : ConnectingSubscriber) : ConnectEvent → Option ConnectingSubscriber
  | .connect url refused =>
      if subscriber.connecting then none
      else
        match (attach refused url).run subscriber with
        | .ok attached next => some { next with connecting := attached }
        | .error _ next => some next
  | .continueConnect =>
      if subscriber.connecting then some { subscriber.startLoop with connecting := false }
      else none
  | .taskEnds index =>
      match subscriber.tasks[index]? with
      | some task =>
          if task.finished then none
          else
            some { subscriber with
              tasks := subscriber.tasks.set index { task with finished := true } }
      | none => none
  | .futureDone index =>
      match subscriber.tasks[index]? with
      | some task =>
          if task.finished then
            some { subscriber with tasks := subscriber.tasks.set index { task with done := true } }
          else none
      | none => none

def machine : Machine ConnectingSubscriber ConnectEvent where
  start := init
  step := step

/-! ## What a connect does -/

theorem run_attach_of_mem {subscriber : ConnectingSubscriber} {url : Text}
    (known : url ∈ subscriber.subUrls) (refused : Option PyError) :
    (attach refused url).run subscriber = .ok false subscriber := by
  unfold attach
  rw [Action.bind_of_ok (Action.run_get subscriber), if_pos known]
  rfl

theorem run_attach_of_refused {subscriber : ConnectingSubscriber} {url : Text}
    (fresh : url ∉ subscriber.subUrls) (error : PyError) :
    (attach (some error) url).run subscriber = .error error subscriber := by
  unfold attach
  rw [Action.bind_of_ok (Action.run_get subscriber), if_neg fresh]
  rfl

theorem run_attach_of_accepted {subscriber : ConnectingSubscriber} {url : Text}
    (fresh : url ∉ subscriber.subUrls) :
    (attach none url).run subscriber = .ok true { subscriber with
      connected := true
      subUrls := subscriber.subUrls ++ [url]
      accepted := subscriber.accepted ++ [url] } := by
  unfold attach
  rw [Action.bind_of_ok (Action.run_get subscriber), if_neg fresh]
  rfl

/-- A connect that raises changes nothing. -/
theorem connect_of_error {subscriber next : ConnectingSubscriber} {url : Text}
    {refused : Option PyError} {error : PyError}
    (raised : (connect refused url).run subscriber = .error error next) : next = subscriber := by
  unfold connect at raised
  by_cases known : url ∈ subscriber.subUrls
  · rw [Action.bind_of_ok (run_attach_of_mem known refused)] at raised
    cases raised
  · cases refused with
    | none =>
        rw [Action.bind_of_ok (run_attach_of_accepted known)] at raised
        cases raised
    | some refusal =>
        rw [Action.bind_of_error (run_attach_of_refused known refusal)] at raised
        cases raised
        rfl

theorem after_connect_of_accepted {subscriber : ConnectingSubscriber} {url : Text}
    (fresh : url ∉ subscriber.subUrls) :
    (connect none url).after subscriber = startLoop { subscriber with
      connected := true
      subUrls := subscriber.subUrls ++ [url]
      accepted := subscriber.accepted ++ [url] } := by
  unfold connect
  rw [Action.after_bind_of_ok (run_attach_of_accepted fresh)]
  rfl

/-! ## The subscriber of the manager -/

/-- What the manager sees of the task. -/
def receiveLoop (subscriber : ConnectingSubscriber) : ReceiveLoop :=
  match subscriber.receiveFuture with
  | none => .notStarted
  | some _ => if subscriber.needsTask then .done else .active

/-- The subscriber the manager keeps. -/
def summary (serial : Nat) (topicName : TopicName) (subscriber : ConnectingSubscriber) :
    Subscriber :=
  { Subscriber.create serial topicName with
    connected := subscriber.connected
    subUrls := subscriber.subUrls
    receiveLoop := subscriber.receiveLoop }

theorem receiveLoop_startLoop (subscriber : ConnectingSubscriber) :
    subscriber.startLoop.receiveLoop = .active := by
  unfold startLoop
  split
  next needs =>
    have waits : needsTask { subscriber with
        receiveFuture := some subscriber.tasks.length
        tasks := subscriber.tasks ++ [{ finished := false, done := false }] } = false := by
      show Option.any _ _ = false
      rw [List.getElem?_concat_length]
      rfl
    simp only [receiveLoop, waits]
    rfl
  next waits =>
    cases future : subscriber.receiveFuture with
    | none =>
        rw [needsTask, future] at waits
        exact absurd rfl waits
    | some index =>
        simp only [receiveLoop, future]
        exact if_neg waits

/-- A connect of the manager's subscriber is a connect here. -/
theorem after_connect_summary (host : Host) (serial : Nat) (topicName : TopicName) (url : Text)
    (subscriber : ConnectingSubscriber) :
    (Subscriber.connect host url).after (subscriber.summary serial topicName) =
      ((connect (host.refuses url) url).after subscriber).summary serial topicName := by
  unfold Subscriber.connect
  rw [Action.after_bind_of_ok (Action.run_get _)]
  by_cases known : url ∈ subscriber.subUrls
  · have whole : (connect (host.refuses url) url).run subscriber = .ok ⟨⟩ subscriber := by
      unfold connect
      rw [Action.bind_of_ok (run_attach_of_mem known _)]
      rfl
    have listed : url ∈ (subscriber.summary serial topicName).subUrls := known
    rw [Action.after_of_ok whole, if_pos listed]
    rfl
  · have unlisted : url ∉ (subscriber.summary serial topicName).subUrls := known
    rw [if_neg unlisted]
    cases refusal : host.refuses url with
    | some error =>
        have raised : (connect (some error) url).run subscriber = .error error subscriber :=
          Action.bind_of_error (run_attach_of_refused known error)
        rw [Action.after_of_error raised]
        rfl
    | none =>
        rw [after_connect_of_accepted known]
        simp only [summary, receiveLoop_startLoop]
        unfold startLoop
        split <;> rfl

/-! ## The list and the task -/

/-- The task of this index has not ended. -/
def Runs (subscriber : ConnectingSubscriber) (index : Nat) : Prop :=
  ∃ task, subscriber.tasks[index]? = some task ∧ task.finished = false

/-- The list of addresses is what the socket accepted, each once, and the flag tells whether
there are any. -/
structure Listed (subscriber : ConnectingSubscriber) : Prop where
  distinct : subscriber.subUrls.Nodup
  accepted : subscriber.subUrls = subscriber.accepted
  connected : subscriber.connected = true ↔ subscriber.subUrls ≠ []

/-- Besides, no two tasks run. -/
structure Consistent (subscriber : ConnectingSubscriber) : Prop extends Listed subscriber where
  oneTask : ∀ first second, subscriber.Runs first → subscriber.Runs second → first = second

/-- What every step keeps: only the task of the future may run, and a future that is done
belongs to a task that has ended. -/
structure Tidy (subscriber : ConnectingSubscriber) : Prop extends Listed subscriber where
  current : ∀ index, subscriber.Runs index → subscriber.receiveFuture = some index
  ended : ∀ (index : Nat) (task : ReceiveTask), subscriber.tasks[index]? = some task →
    task.done = true → task.finished = true

theorem Tidy.consistent {subscriber : ConnectingSubscriber} (tidy : subscriber.Tidy) :
    subscriber.Consistent where
  toListed := tidy.toListed
  oneTask := by
    intro first second runsFirst runsSecond
    have same := (tidy.current first runsFirst).symm.trans (tidy.current second runsSecond)
    exact Option.some.inj same

theorem Listed.attach {subscriber : ConnectingSubscriber} (listed : subscriber.Listed)
    {url : Text} (fresh : url ∉ subscriber.subUrls) :
    Listed { subscriber with
      connected := true
      subUrls := subscriber.subUrls ++ [url]
      accepted := subscriber.accepted ++ [url] } where
  distinct := List.concat_eq_append ▸ listed.distinct.concat fresh
  accepted := congrArg (· ++ [url]) listed.accepted
  connected := iff_of_true rfl (List.append_ne_nil_of_right_ne_nil _ (List.cons_ne_nil _ _))

/-- A task is submitted only when none runs. -/
theorem not_runs_of_needsTask {subscriber : ConnectingSubscriber} (tidy : subscriber.Tidy)
    (needs : subscriber.needsTask = true) (index : Nat) : ¬ subscriber.Runs index := by
  intro runs
  have future := tidy.current index runs
  rcases runs with ⟨task, found, unfinished⟩
  have isDone : task.done = true := by
    simpa [needsTask, future, found] using needs
  rw [tidy.ended index task found isDone] at unfinished
  cases unfinished

theorem Tidy.startLoop {subscriber : ConnectingSubscriber} (tidy : subscriber.Tidy) :
    subscriber.startLoop.Tidy := by
  unfold ConnectingSubscriber.startLoop
  split
  next needs =>
    refine ⟨⟨tidy.distinct, tidy.accepted, tidy.connected⟩, ?_, ?_⟩
    · rintro index ⟨task, found, unfinished⟩
      rcases Serials.found_of_add found with ⟨_, before⟩ | ⟨last, _⟩
      · exact absurd ⟨task, before, unfinished⟩ (not_runs_of_needsTask tidy needs index)
      · exact congrArg some last.symm
    · intro index task found isDone
      rcases Serials.found_of_add found with ⟨_, before⟩ | ⟨_, same⟩
      · exact tidy.ended index task before isDone
      · rw [same] at isDone
        cases isDone
  next => exact tidy

/-- A task that goes on to end, or a future that is done after its task. -/
theorem Tidy.update {subscriber : ConnectingSubscriber} (tidy : subscriber.Tidy) {index : Nat}
    {task updated : ReceiveTask} (found : subscriber.tasks[index]? = some task)
    (finished : updated.finished = true) :
    Tidy { subscriber with tasks := subscriber.tasks.set index updated } := by
  refine ⟨⟨tidy.distinct, tidy.accepted, tidy.connected⟩, ?_, ?_⟩
  · rintro other ⟨there, after, unfinished⟩
    rcases Serials.found_of_update found after with ⟨_, rfl⟩ | ⟨_, before⟩
    · rw [finished] at unfinished
      cases unfinished
    · exact tidy.current other ⟨there, before, unfinished⟩
  · intro other there after isDone
    rcases Serials.found_of_update found after with ⟨_, rfl⟩ | ⟨_, before⟩
    · exact finished
    · exact tidy.ended other there before isDone

theorem tidy_step {subscriber next : ConnectingSubscriber} {event : ConnectEvent}
    (tidy : subscriber.Tidy) (stepped : subscriber.step event = some next) : next.Tidy := by
  cases event with
  | connect url refused =>
      rcases Option.ite_none_left_eq_some.1 stepped with ⟨_, taken⟩
      by_cases known : url ∈ subscriber.subUrls
      · simp only [run_attach_of_mem known refused] at taken
        cases taken
        exact ⟨⟨tidy.distinct, tidy.accepted, tidy.connected⟩, tidy.current, tidy.ended⟩
      · cases refused with
        | none =>
            simp only [run_attach_of_accepted known] at taken
            cases taken
            have listed := tidy.toListed.attach known
            exact ⟨⟨listed.distinct, listed.accepted, listed.connected⟩, tidy.current, tidy.ended⟩
        | some error =>
            simp only [run_attach_of_refused known error] at taken
            cases taken
            exact tidy
  | continueConnect =>
      rcases Option.ite_none_right_eq_some.1 stepped with ⟨_, taken⟩
      cases taken
      have started := tidy.startLoop
      exact ⟨⟨started.distinct, started.accepted, started.connected⟩, started.current,
        started.ended⟩
  | taskEnds index =>
      simp only [step] at stepped
      split at stepped
      next task found =>
        rcases Option.ite_none_left_eq_some.1 stepped with ⟨_, taken⟩
        cases taken
        exact tidy.update found rfl
      next => cases stepped
  | futureDone index =>
      simp only [step] at stepped
      split at stepped
      next task found =>
        rcases Option.ite_none_right_eq_some.1 stepped with ⟨finished, taken⟩
        cases taken
        exact tidy.update found finished
      next => cases stepped

theorem tidy_init : init.Tidy where
  distinct := List.nodup_nil
  accepted := rfl
  connected := by decide
  current := by
    rintro index ⟨task, found, _⟩
    cases found
  ended := by
    intro index task found
    cases found

/-- For every sequence of connects that succeed or raise, with tasks that end at any moment:
the addresses are those the socket accepted, each once, the flag tells whether there are
any, no two tasks run, and a connect that raises changes nothing. -/
theorem consistent_of_runs {subscriber : ConnectingSubscriber}
    (reachable : machine.Reachable subscriber) :
    subscriber.Consistent ∧
      ∀ refused url error next,
        (connect refused url).run subscriber = .error error next → next = subscriber := by
  have tidy : subscriber.Tidy := by
    apply Machine.Reachable.invariant tidy_init _ reachable
    intro before event after _ holds stepped
    exact tidy_step holds stepped
  exact ⟨tidy.consistent, fun _ _ _ _ raised => connect_of_error raised⟩

/-- A first connect, an address again, a refused one, and another after the task ended. -/
def connectTrace : List ConnectEvent :=
  [.connect "tcp://192.168.0.7:6000" none, .continueConnect,
    .connect "tcp://192.168.0.7:6000" none, .connect "tcp://192.168.0.8:6000" (some .zmqError),
    .taskEnds 0, .connect "tcp://192.168.0.9:6000" none, .futureDone 0, .continueConnect]

/-- The addresses its socket accepts. -/
def acceptedUrls : List Text := ["tcp://192.168.0.7:6000", "tcp://192.168.0.9:6000"]

theorem consistent_of_runs_connectTrace :
    ∃ subscriber, machine.exec connectTrace = some subscriber ∧
      subscriber.accepted = acceptedUrls ∧
      subscriber.Consistent ∧
      ∀ refused url error next,
        (connect refused url).run subscriber = .error error next → next = subscriber := by
  have ran : (machine.exec connectTrace).map accepted = some acceptedUrls := by decide +kernel
  rcases Option.map_eq_some_iff.1 ran with ⟨subscriber, run, accepted⟩
  exact ⟨subscriber, run, accepted, consistent_of_runs (Machine.reachable_of_exec run)⟩

end ConnectingSubscriber

end Pyzlc
