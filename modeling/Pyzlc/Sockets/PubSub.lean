import Pyzlc.Foundation.Channel
import Pyzlc.Foundation.Serials
import Pyzlc.Sockets.ReceiveLoop

/-!
# From publishers to a callback

Any number of publishers, each listening at its addresses, and the socket of one subscriber.  A
connection is with at most one publisher that listens at its address at a time; it is a channel of
its own for the messages of that publisher, which drops what exceeds its buffer and loses what a
lost connection had in it.  The loop takes the messages of all connections in any order, unpacks
them and calls back.  Through every connection the callback gets published values in the order in
which they were published, and all of them as long as nothing is dropped or lost.
-/

namespace Pyzlc

open Foundation
open MessagePack (Value DistinctKeys strictKeys depth)

/-- A published message: who published it, what it was packed from, and its bytes. -/
structure Message (α : Type) where
  publisher : Nat
  value : α
  bytes : Bytes

/-- The messages of one publisher. -/
def Message.isFrom {α : Type} (publisher : Nat) (message : Message α) : Bool :=
  message.publisher == publisher

/-- A connection of the socket, and the publisher it is with at the moment, if any. -/
structure Link (α : Type) where
  url : Text
  peer : Option Nat
  channel : Channel (Message α)

/-- Which publishers are bound to which addresses, the connections of a subscriber, in the order
in which they were made, and its loop. -/
structure PubSub (α ω : Type) where
  bound : List (Nat × Text)
  links : List (Link α)
  receiving : Receiving α ω

/-- When a connection is established with a publisher and when it breaks, and which messages it
keeps, is up to the network. -/
inductive PubSubEvent (α : Type) where
  | binds (publisher : Nat) (url : Text)
  | publishes (publisher : Nat) (value : α) (kept : Nat → Bool)
  | connects (url : Text)
  | attaches (link publisher : Nat)
  | detaches (link : Nat)
  | loses (link position : Nat)
  | delivers (link : Nat)
  | loop (event : ReceiveEvent)

/-- The coroutine that `connect` submits if the last one is over. -/
def Receiving.restart {α ω : Type} (state : Receiving α ω) : Receiving α ω :=
  match state.phase with
  | .notStarted | .receiving => state
  | .returned | .cancelled | .crashed _ => { state with phase := .notStarted }

/-- A message goes to the connections with its publisher. -/
def Link.offer {α : Type} (kept : Bool) (message : Message α) (link : Link α) : Link α :=
  if link.peer = some message.publisher then
    { link with channel := link.channel.offer kept message }
  else link

namespace PubSub

variable {α ω : Type}

/-- Messages come through the connections only. -/
def ownEvent : ReceiveEvent → Bool
  | .recv _ => false
  | .start | .recvRaises _ | .cancel | .stop => true

/-- `self._socket.send(msgpacked)`. -/
def send (message : Message α) (kept : Nat → Bool) (state : PubSub α ω) : PubSub α ω :=
  { state with links := state.links.mapIdx fun index link => link.offer (kept index) message }

/-- `Subscriber.connect`, of a socket that accepts every address. -/
def connect (url : Text) (state : PubSub α ω) : PubSub α ω :=
  if url ∈ state.links.map Link.url then state
  else
    { state with
      links := state.links ++ [{ url := url, peer := none, channel := .empty }]
      receiving := state.receiving.restart }

/-- What happens to one connection. -/
def update (index : Nat) (link : Link α) (state : PubSub α ω) : PubSub α ω :=
  { state with links := state.links.set index link }

def step (msgpack : Msgpack α) (callback : Callback α ω) (state : PubSub α ω) :
    PubSubEvent α → Option (PubSub α ω)
  -- `self._socket.bind(...)`, at a port of its own and at the path of the topic
  | .binds publisher url => some { state with bound := state.bound ++ [(publisher, url)] }
  | .publishes publisher value kept =>
      match publish msgpack value with
      | .ok bytes =>
          some (state.send { publisher := publisher, value := value, bytes := bytes } kept)
      -- the exception is raised to the one who publishes
      | .error _ => some state
  | .connects url => some (state.connect url)
  | .attaches index publisher => do
      let link ← state.links[index]?
      if (publisher, link.url) ∈ state.bound then
        return state.update index { link with peer := some publisher }
      else none
  | .detaches index => do
      let link ← state.links[index]?
      return state.update index { link with peer := none }
  | .loses index position => do
      let link ← state.links[index]?
      return state.update index { link with channel := link.channel.lose position }
  | .delivers index => do
      let link ← state.links[index]?
      let (message, channel) ← link.channel.take
      let receiving ← state.receiving.step msgpack callback (.recv message.bytes)
      return { state.update index { link with channel := channel } with receiving := receiving }
  | .loop event =>
      if ownEvent event then
        (state.receiving.step msgpack callback event).map fun receiving =>
          { state with receiving := receiving }
      else none

def machine (msgpack : Msgpack α) (callback : Callback α ω) (outside : ω) :
    Machine (PubSub α ω) (PubSubEvent α) where
  start := { bound := [], links := [], receiving := .init outside }
  step := step msgpack callback

/-- What was published so far, and what the loop received, each with its connection. -/
structure History (α : Type) where
  sent : List (Message α)
  heard : List (Nat × Message α)

/-- What a step adds to what was published. -/
def sentBy (msgpack : Msgpack α) : PubSubEvent α → List (Message α)
  | .publishes publisher value _ =>
      match publish msgpack value with
      | .ok bytes => [{ publisher := publisher, value := value, bytes := bytes }]
      | .error _ => []
  | _ => []

/-- What a step adds to what the loop received. -/
def heardBy (state : PubSub α ω) : PubSubEvent α → List (Nat × Message α)
  | .delivers index =>
      ((state.links[index]?.bind fun link => link.channel.take).map fun took =>
        (index, took.1)).toList
  | _ => []

def record (msgpack : Msgpack α) (state : PubSub α ω) (event : PubSubEvent α)
    (history : History α) : History α where
  sent := history.sent ++ sentBy msgpack event
  heard := history.heard ++ heardBy state event

/-- The machine with the history. -/
def ledger (msgpack : Msgpack α) (callback : Callback α ω) (outside : ω) :
    Machine (PubSub α ω × History α) (PubSubEvent α) :=
  (machine msgpack callback outside).recording { sent := [], heard := [] } (record msgpack)

/-! ## What a step can do -/

variable {msgpack : Msgpack α} {callback : Callback α ω} {state next : PubSub α ω}
  {event : PubSubEvent α}

/-- Every way a step can go, with what it adds to the history. -/
inductive StepCase (msgpack : Msgpack α) (callback : Callback α ω) (state : PubSub α ω) :
    PubSubEvent α → PubSub α ω → List (Message α) → List (Nat × Message α) → Prop where
  | bound (publisher : Nat) (url : Text) :
      StepCase msgpack callback state (.binds publisher url)
        { state with bound := state.bound ++ [(publisher, url)] } [] []
  | published (message : Message α) (kept : Nat → Bool)
      (packed : publish msgpack message.value = .ok message.bytes) :
      StepCase msgpack callback state (.publishes message.publisher message.value kept)
        (state.send message kept) [message] []
  | refused (publisher : Nat) (value : α) (kept : Nat → Bool) :
      StepCase msgpack callback state (.publishes publisher value kept) state [] []
  | connected (url : Text) :
      StepCase msgpack callback state (.connects url) (state.connect url) [] []
  | attached (index publisher : Nat) (link : Link α) (found : state.links[index]? = some link)
      (listens : (publisher, link.url) ∈ state.bound) :
      StepCase msgpack callback state (.attaches index publisher)
        (state.update index { link with peer := some publisher }) [] []
  | detached (index : Nat) (link : Link α) (found : state.links[index]? = some link) :
      StepCase msgpack callback state (.detaches index)
        (state.update index { link with peer := none }) [] []
  | lost (index position : Nat) (link : Link α) (found : state.links[index]? = some link) :
      StepCase msgpack callback state (.loses index position)
        (state.update index { link with channel := link.channel.lose position }) [] []
  | delivered (index : Nat) (link : Link α) (message : Message α) (channel : Channel (Message α))
      (receiving : Receiving α ω) (found : state.links[index]? = some link)
      (took : link.channel.take = some (message, channel))
      (received : state.receiving.step msgpack callback (.recv message.bytes) = some receiving) :
      StepCase msgpack callback state (.delivers index)
        { state.update index { link with channel := channel } with receiving := receiving }
        [] [(index, message)]
  | looped (event : ReceiveEvent) (receiving : Receiving α ω) (own : ownEvent event = true)
      (stepped : state.receiving.step msgpack callback event = some receiving) :
      StepCase msgpack callback state (.loop event) { state with receiving := receiving } [] []

theorem stepCase_of_step (stepped : state.step msgpack callback event = some next) :
    StepCase msgpack callback state event next (sentBy msgpack event) (heardBy state event) := by
  cases event with
  | binds publisher url =>
      cases stepped
      exact .bound publisher url
  | publishes publisher value kept =>
      rw [step] at stepped
      rw [sentBy]
      cases packed : publish msgpack value with
      | error error =>
          simp only [packed] at stepped
          cases stepped
          exact .refused publisher value kept
      | ok bytes =>
          simp only [packed] at stepped
          cases stepped
          exact .published { publisher := publisher, value := value, bytes := bytes } kept packed
  | connects url =>
      cases stepped
      exact .connected url
  | attaches index publisher =>
      rcases Option.bind_eq_some_iff.1 stepped with ⟨link, found, later⟩
      rcases Option.ite_none_right_eq_some.1 later with ⟨listens, same⟩
      cases same
      exact .attached index publisher link found listens
  | detaches index =>
      rcases Option.bind_eq_some_iff.1 stepped with ⟨link, found, same⟩
      cases same
      exact .detached index link found
  | loses index position =>
      rcases Option.bind_eq_some_iff.1 stepped with ⟨link, found, same⟩
      cases same
      exact .lost index position link found
  | delivers index =>
      rcases Option.bind_eq_some_iff.1 stepped with ⟨link, found, later⟩
      rcases Option.bind_eq_some_iff.1 later with ⟨⟨message, channel⟩, took, last⟩
      rcases Option.bind_eq_some_iff.1 last with ⟨receiving, received, same⟩
      cases same
      have heard : heardBy state (.delivers index) = [(index, message)] := by
        rw [heardBy, found, Option.bind_some, took]
        rfl
      rw [heard]
      exact .delivered index link message channel receiving found took received
  | loop event =>
      rcases Option.ite_none_right_eq_some.1 stepped with ⟨own, mapped⟩
      rcases Option.map_eq_some_iff.1 mapped with ⟨receiving, moved, rfl⟩
      exact .looped event receiving own moved

end PubSub

/-! ## What the callback was called with -/

namespace Receiving

variable {α ω : Type} {msgpack : Msgpack α} {callback : Callback α ω} {state next : Receiving α ω}

theorem called_except (error : PyError) (state : Receiving α ω) :
    (state.except error).called = state.called := by
  unfold except
  split
  next => rfl
  next => split <;> rfl

theorem called_restart (state : Receiving α ω) : state.restart.called = state.called := by
  unfold restart
  split <;> rfl

theorem called_handle (msg : Bytes) (state : Receiving α ω) :
    (state.handle msgpack callback msg).called =
      state.called ++ (msgpack.decoded msg).toList := by
  unfold handle Msgpack.decoded
  cases msgpack.unpackb {} msg with
  | error error => exact (called_except error state).trans (List.append_nil _).symm
  | ok value =>
      simp only
      cases (callback value).run (state.running, state.outside) with
      | ok _ left => rfl
      | error error left => exact called_except error _

/-- Whatever the callback does, it is called with what can be unpacked. -/
theorem called_recv {msg : Bytes}
    (received : state.step msgpack callback (.recv msg) = some next) :
    next.called = state.called ++ (msgpack.decoded msg).toList := by
  rcases Option.ite_none_right_eq_some.1 received with ⟨_, same⟩
  cases same
  exact called_handle msg state

theorem called_own {event : ReceiveEvent} (own : PubSub.ownEvent event = true)
    (stepped : state.step msgpack callback event = some next) : next.called = state.called := by
  cases event with
  | recv msg => cases own
  | start =>
      rcases Option.ite_none_right_eq_some.1 stepped with ⟨_, same⟩
      cases same
      rfl
  | recvRaises error =>
      rcases Option.ite_none_right_eq_some.1 stepped with ⟨_, same⟩
      cases same
      exact called_except error.1 state
  | cancel =>
      rcases Option.ite_none_right_eq_some.1 stepped with ⟨_, same⟩
      cases same
      exact called_except .cancelledError state
  | stop =>
      cases stepped
      rfl

end Receiving

/-! ## What the connections carry -/

section

variable {α : Type}

/-- A connection with a publisher keeps the messages of it that the network keeps. -/
theorem Link.carried_offer {link : Link α} {publisher : Nat} (peer : link.peer = some publisher)
    {kept : Bool} {message : Message α} (keeps : message.publisher = publisher → kept = true) :
    (link.offer kept message).peer = some publisher ∧
      (link.offer kept message).channel.carried =
        link.channel.carried ++ [message].filter (Message.isFrom publisher) := by
  by_cases same : message.publisher = publisher
  · have mine : message.isFrom publisher = true := beq_iff_eq.2 same
    rw [Link.offer, if_pos (peer.trans (congrArg some same.symm)), List.filter_cons_of_pos mine,
      List.filter_nil]
    refine ⟨peer, ?_⟩
    rw [Channel.carried_offer, if_pos (keeps same)]
  · have other : ¬message.isFrom publisher = true := fun equal => same (beq_iff_eq.1 equal)
    rw [Link.offer, if_neg (fun mine => same (Option.some.inj (mine.symm.trans peer))),
      List.filter_cons_of_neg other, List.filter_nil, List.append_nil]
    exact ⟨peer, rfl⟩

/-- A connection carries what was published by those who listen at its address; `heard` is what
was received through it. -/
structure Link.Recorded (bound : List (Nat × Text)) (sent heard : List (Message α))
    (link : Link α) : Prop where
  orderly : link.channel.Orderly
  sent : link.channel.offered.Sublist sent
  heard : heard = link.channel.taken
  attached : ∀ publisher, link.peer = some publisher → (publisher, link.url) ∈ bound
  listening : ∀ message ∈ link.channel.offered, (message.publisher, link.url) ∈ bound

namespace Link.Recorded

variable {bound : List (Nat × Text)} {sent heard : List (Message α)} {link : Link α}
  {message : Message α}

theorem new (url : Text) :
    Link.Recorded bound sent [] { url := url, peer := none, channel := .empty } where
  orderly := Channel.orderly_empty
  sent := List.nil_sublist sent
  heard := rfl
  attached := by
    intro publisher same
    cases same
  listening := by
    intro message listed
    cases listed

theorem bind (recorded : link.Recorded bound sent heard) (entry : Nat × Text) :
    link.Recorded (bound ++ [entry]) sent heard where
  orderly := recorded.orderly
  sent := recorded.sent
  heard := recorded.heard
  attached := by
    intro publisher same
    exact List.mem_append_left _ (recorded.attached publisher same)
  listening := by
    intro message listed
    exact List.mem_append_left _ (recorded.listening message listed)

/-- Only the connections with its publisher are offered a message. -/
theorem offer (recorded : link.Recorded bound sent heard) (kept : Bool) (message : Message α) :
    (link.offer kept message).Recorded bound (sent ++ [message]) heard := by
  by_cases same : link.peer = some message.publisher
  · rw [Link.offer, if_pos same]
    constructor
    case orderly => exact recorded.orderly.offer kept message
    case sent => exact recorded.sent.append (List.Sublist.refl [message])
    case heard => exact recorded.heard
    case attached => exact recorded.attached
    case listening =>
      intro other listed
      rcases List.mem_append.1 listed with earlier | last
      · exact recorded.listening other earlier
      · rw [List.mem_singleton.1 last]
        exact recorded.attached message.publisher same
  · rw [Link.offer, if_neg same]
    exact { recorded with sent := recorded.sent.trans (List.sublist_append_left sent [message]) }

theorem attach (recorded : link.Recorded bound sent heard) {publisher : Nat}
    (listens : (publisher, link.url) ∈ bound) :
    Link.Recorded bound sent heard { link with peer := some publisher } where
  orderly := recorded.orderly
  sent := recorded.sent
  heard := recorded.heard
  attached := by
    intro other same
    cases same
    exact listens
  listening := recorded.listening

theorem detach (recorded : link.Recorded bound sent heard) :
    Link.Recorded bound sent heard { link with peer := none } where
  orderly := recorded.orderly
  sent := recorded.sent
  heard := recorded.heard
  attached := by
    intro other same
    cases same
  listening := recorded.listening

theorem lose (recorded : link.Recorded bound sent heard) (position : Nat) :
    Link.Recorded bound sent heard { link with channel := link.channel.lose position } where
  orderly := recorded.orderly.lose position
  sent := recorded.sent
  heard := recorded.heard
  attached := recorded.attached
  listening := recorded.listening

theorem take (recorded : link.Recorded bound sent heard) {channel : Channel (Message α)}
    (took : link.channel.take = some (message, channel)) :
    Link.Recorded bound sent (heard ++ [message]) { link with channel := channel } := by
  have ordered := recorded.orderly.take took
  rcases Channel.take_eq_some took with ⟨rest, _, rfl⟩
  constructor
  case orderly => exact ordered
  case sent => exact recorded.sent
  case heard => rw [recorded.heard]
  case attached => exact recorded.attached
  case listening => exact recorded.listening

/-- Whatever was received through it was published by one who listens at its address. -/
theorem heard_listening (recorded : link.Recorded bound sent heard) (listed : message ∈ heard) :
    (message.publisher, link.url) ∈ bound := by
  rw [recorded.heard] at listed
  exact recorded.listening message (recorded.orderly.taken.subset listed)

end Link.Recorded

end

namespace PubSub

variable {α ω : Type} {msgpack : Msgpack α} {callback : Callback α ω} {state next : PubSub α ω}
  {event : PubSubEvent α} {history : History α}

/-- What the loop received through a connection, in its order. -/
def History.heardThrough (history : History α) (index : Nat) : List (Message α) :=
  (history.heard.filter fun entry => entry.1 == index).map Prod.snd

theorem heardThrough_self (history : History α) (index : Nat) (message : Message α) :
    History.heardThrough { history with heard := history.heard ++ [(index, message)] } index =
      history.heardThrough index ++ [message] := by
  simp [History.heardThrough]

theorem heardThrough_other (history : History α) {index other : Nat} (different : other ≠ index)
    (message : Message α) :
    History.heardThrough { history with heard := history.heard ++ [(index, message)] } other =
      history.heardThrough other := by
  simp [History.heardThrough, Ne.symm different]

/-- The history is the one of the connections and of the loop. -/
structure Recorded (msgpack : Msgpack α) (state : PubSub α ω) (history : History α) : Prop where
  called : state.receiving.called =
    history.heard.filterMap fun entry => msgpack.decoded entry.2.bytes
  packed : ∀ message ∈ history.sent, publish msgpack message.value = .ok message.bytes
  carried : ∀ (index : Nat) (link : Link α), state.links[index]? = some link →
    link.Recorded state.bound history.sent (history.heardThrough index)
  known : ∀ entry ∈ history.heard, entry.1 < state.links.length

theorem recorded_start (msgpack : Msgpack α) (callback : Callback α ω) (outside : ω) :
    Recorded msgpack (machine msgpack callback outside).start { sent := [], heard := [] } where
  called := rfl
  packed := by
    intro message listed
    cases listed
  carried := by
    intro index link found
    cases found
  known := by
    intro entry listed
    cases listed

theorem Recorded.binds (recorded : state.Recorded msgpack history) (entry : Nat × Text) :
    Recorded msgpack { state with bound := state.bound ++ [entry] } history where
  called := recorded.called
  packed := recorded.packed
  carried := by
    intro index link found
    exact (recorded.carried index link found).bind entry
  known := recorded.known

/-- A publication reaches the connections with its publisher. -/
theorem Recorded.published (recorded : state.Recorded msgpack history) (message : Message α)
    (kept : Nat → Bool) (packed : publish msgpack message.value = .ok message.bytes) :
    Recorded msgpack (state.send message kept)
      { history with sent := history.sent ++ [message] } := by
  constructor
  case called => exact recorded.called
  case packed =>
    intro other listed
    rcases List.mem_append.1 listed with earlier | last
    · exact recorded.packed other earlier
    · rw [List.mem_singleton.1 last]
      exact packed
  case carried =>
    intro index link found
    rw [send, List.getElem?_mapIdx] at found
    rcases Option.map_eq_some_iff.1 found with ⟨earlier, there, rfl⟩
    exact (recorded.carried index earlier there).offer (kept index) message
  case known =>
    intro entry listed
    rw [send, List.length_mapIdx]
    exact recorded.known entry listed

/-- Nothing was received through a connection that is new. -/
theorem Recorded.connected (recorded : state.Recorded msgpack history) (url : Text) :
    Recorded msgpack (state.connect url) history := by
  by_cases present : url ∈ state.links.map Link.url
  · rw [connect, if_pos present]
    exact recorded
  rw [connect, if_neg present]
  constructor
  case called => exact (Receiving.called_restart _).trans recorded.called
  case packed => exact recorded.packed
  case carried =>
    intro index link found
    rcases Serials.found_of_add found with ⟨_, earlier⟩ | ⟨rfl, rfl⟩
    · exact recorded.carried index link earlier
    · have nothing : history.heard.filter (fun entry => entry.1 == state.links.length) = [] := by
        rw [List.filter_eq_nil_iff]
        intro entry listed same
        exact Nat.ne_of_lt (recorded.known entry listed) (beq_iff_eq.1 same)
      rw [History.heardThrough, nothing]
      exact Link.Recorded.new url
  case known =>
    intro entry listed
    rw [List.length_append]
    exact Nat.lt_add_right _ (recorded.known entry listed)

/-- One connection changes, and nothing is received. -/
theorem Recorded.updated (recorded : state.Recorded msgpack history) {index : Nat}
    {link updated : Link α} (found : state.links[index]? = some link)
    (carried : updated.Recorded state.bound history.sent (history.heardThrough index)) :
    Recorded msgpack (state.update index updated) history where
  called := recorded.called
  packed := recorded.packed
  carried := by
    intro other there after
    rcases Serials.found_of_update found after with ⟨rfl, rfl⟩ | ⟨_, earlier⟩
    · exact carried
    · exact recorded.carried other there earlier
  known := by
    intro entry listed
    rw [update, List.length_set]
    exact recorded.known entry listed

/-- A message that is taken from a connection is called back with, if it can be unpacked. -/
theorem Recorded.delivered (recorded : state.Recorded msgpack history) {index : Nat}
    {link : Link α} {message : Message α} {channel : Channel (Message α)}
    {receiving : Receiving α ω} (found : state.links[index]? = some link)
    (took : link.channel.take = some (message, channel))
    (received : state.receiving.step msgpack callback (.recv message.bytes) = some receiving) :
    Recorded msgpack
      { state.update index { link with channel := channel } with receiving := receiving }
      { history with heard := history.heard ++ [(index, message)] } := by
  constructor
  case called =>
    rw [Receiving.called_recv received, recorded.called, List.filterMap_append]
    cases unpacked : msgpack.decoded message.bytes <;> simp [unpacked]
  case packed => exact recorded.packed
  case carried =>
    intro other there after
    rcases Serials.found_of_update found after with ⟨rfl, rfl⟩ | ⟨different, earlier⟩
    · rw [heardThrough_self]
      exact (recorded.carried other link found).take took
    · rw [heardThrough_other history different]
      exact recorded.carried other there earlier
  case known =>
    intro entry listed
    rw [update, List.length_set]
    rcases List.mem_append.1 listed with earlier | last
    · exact recorded.known entry earlier
    · rw [List.mem_singleton.1 last]
      exact (List.getElem?_eq_some_iff.1 found).1

theorem Recorded.looped (recorded : state.Recorded msgpack history) {receiving : Receiving α ω}
    (same : receiving.called = state.receiving.called) :
    Recorded msgpack { state with receiving := receiving } history where
  called := same.trans recorded.called
  packed := recorded.packed
  carried := recorded.carried
  known := recorded.known

theorem Recorded.step (recorded : state.Recorded msgpack history)
    (stepped : state.step msgpack callback event = some next) :
    Recorded msgpack next (record msgpack state event history) := by
  have happens := stepCase_of_step stepped
  rw [record]
  generalize sentBy msgpack event = sent at happens
  generalize heardBy state event = heard at happens
  cases happens with
  | bound publisher url =>
      rw [List.append_nil, List.append_nil]
      exact recorded.binds (publisher, url)
  | published message kept packed =>
      rw [List.append_nil]
      exact recorded.published message kept packed
  | refused publisher value kept =>
      rw [List.append_nil, List.append_nil]
      exact recorded
  | connected url =>
      rw [List.append_nil, List.append_nil]
      exact recorded.connected url
  | attached index publisher link found listens =>
      rw [List.append_nil, List.append_nil]
      exact recorded.updated found ((recorded.carried index link found).attach listens)
  | detached index link found =>
      rw [List.append_nil, List.append_nil]
      exact recorded.updated found (recorded.carried index link found).detach
  | lost index position link found =>
      rw [List.append_nil, List.append_nil]
      exact recorded.updated found ((recorded.carried index link found).lose position)
  | delivered index link message channel receiving found took received =>
      rw [List.append_nil]
      exact recorded.delivered found took received
  | looped event receiving own moved =>
      rw [List.append_nil, List.append_nil]
      exact recorded.looped (Receiving.called_own own moved)

/-! ## Over a run -/

variable {outside : ω} {trace segment : List (PubSubEvent α)}
  {recorded final : PubSub α ω × History α}

/-- What is published in a run, by whomever. -/
def published (msgpack : Msgpack α) (trace : List (PubSubEvent α)) : List (Message α) :=
  trace.flatMap (sentBy msgpack)

theorem recorded_of_run (run : (ledger msgpack callback outside).exec trace = some recorded) :
    recorded.1.Recorded msgpack recorded.2 ∧ recorded.2.sent = published msgpack trace := by
  apply Machine.exec_induction (motive := fun trace (recorded : PubSub α ω × History α) =>
    recorded.1.Recorded msgpack recorded.2 ∧ recorded.2.sent = published msgpack trace) _ _ run
  · exact ⟨recorded_start msgpack callback outside, rfl⟩
  · intro trace recorded event next _ before stepped
    rcases Machine.recording_step.1 stepped with ⟨moved, written⟩
    rw [written]
    refine ⟨before.1.step moved, ?_⟩
    rw [record, before.2, published, published, List.flatMap_append, List.flatMap_singleton]

/-- Through every connection the loop receives published messages in the order in which they were
published, none twice. -/
theorem heardThrough_sublist (kept : state.Recorded msgpack history) (index : Nat) :
    (history.heardThrough index).Sublist history.sent := by
  cases found : state.links[index]? with
  | some link =>
      have carried := kept.carried index link found
      rw [carried.heard]
      exact carried.orderly.taken.trans carried.sent
  | none =>
      have nothing : history.heard.filter (fun entry => entry.1 == index) = [] := by
        rw [List.filter_eq_nil_iff]
        intro entry listed same
        have present := kept.known entry listed
        rw [beq_iff_eq.1 same] at present
        exact absurd present (Nat.not_lt.2 (List.getElem?_eq_none_iff.1 found))
      rw [History.heardThrough, nothing]
      exact List.nil_sublist _

/-- What one publisher publishes in a run. -/
def publishedBy (msgpack : Msgpack α) (publisher : Nat) (trace : List (PubSubEvent α)) :
    List (Message α) :=
  (published msgpack trace).filter (Message.isFrom publisher)

/-- The connection stays with the publisher, keeps what it publishes and loses nothing. -/
def Lossless (index publisher : Nat) : PubSubEvent α → Prop
  | .publishes other _ kept => other = publisher → kept index = true
  | .attaches other _ | .detaches other | .loses other _ => other ≠ index
  | .binds _ _ | .connects _ | .delivers _ | .loop _ => True

theorem found_update {index other : Nat} {link there updated : Link α}
    (found : state.links[index]? = some link) (foundThere : state.links[other]? = some there)
    (different : other ≠ index) : (state.update other updated).links[index]? = some link := by
  rw [update, Serials.getElem?_update foundThere, if_neg (Ne.symm different)]
  exact found

theorem carried_step {index publisher : Nat} {link : Link α}
    (found : state.links[index]? = some link) (peer : link.peer = some publisher)
    (lossless : Lossless index publisher event)
    (stepped : state.step msgpack callback event = some next) :
    ∃ last, next.links[index]? = some last ∧ last.peer = some publisher ∧
      last.channel.carried = link.channel.carried ++
        (sentBy msgpack event).filter (Message.isFrom publisher) := by
  have happens := stepCase_of_step stepped
  generalize sentBy msgpack event = sent at happens
  generalize heardBy state event = heard at happens
  cases happens with
  | bound publisher url => exact ⟨link, found, peer, (List.append_nil _).symm⟩
  | published message kept packed =>
      refine ⟨link.offer (kept index) message, ?_, Link.carried_offer peer lossless⟩
      rw [send, List.getElem?_mapIdx, found]
      rfl
  | refused other value kept => exact ⟨link, found, peer, (List.append_nil _).symm⟩
  | connected url =>
      refine ⟨link, ?_, peer, (List.append_nil _).symm⟩
      rw [connect]
      split
      next => exact found
      next =>
        rw [List.getElem?_append_left (List.getElem?_eq_some_iff.1 found).1]
        exact found
  | attached other another there foundThere listens =>
      exact ⟨link, found_update found foundThere lossless, peer, (List.append_nil _).symm⟩
  | detached other there foundThere =>
      exact ⟨link, found_update found foundThere lossless, peer, (List.append_nil _).symm⟩
  | lost other position there foundThere =>
      exact ⟨link, found_update found foundThere lossless, peer, (List.append_nil _).symm⟩
  | delivered other there message channel receiving foundThere took received =>
      by_cases same : index = other
      · subst same
        cases foundThere.symm.trans found
        refine ⟨{ link with channel := channel }, ?_, peer, ?_⟩
        · rw [update, Serials.getElem?_update found, if_pos rfl]
        · rw [Channel.carried_take took, List.filter_nil, List.append_nil]
      · exact ⟨link, found_update found foundThere (Ne.symm same), peer,
          (List.append_nil _).symm⟩
  | looped event receiving own moved => exact ⟨link, found, peer, (List.append_nil _).symm⟩

/-- Along a segment in which a connection loses nothing. -/
theorem carried_segment {index publisher : Nat} {link : Link α}
    (kept : state.Recorded msgpack history) (found : state.links[index]? = some link)
    (peer : link.peer = some publisher)
    (lossless : ∀ event ∈ segment, Lossless index publisher event)
    (run : (ledger msgpack callback outside).execFrom (state, history) segment = some final) :
    final.1.Recorded msgpack final.2 ∧ (∃ heard, final.2.heard = history.heard ++ heard) ∧
      ∃ last, final.1.links[index]? = some last ∧ last.peer = some publisher ∧
        last.channel.carried = link.channel.carried ++ publishedBy msgpack publisher segment := by
  induction segment generalizing state history link with
  | nil =>
      cases run
      exact ⟨kept, ⟨[], (List.append_nil _).symm⟩, link, found, peer, (List.append_nil _).symm⟩
  | cons event rest ih =>
      rcases Option.bind_eq_some_iff.1 run with ⟨⟨next, grown⟩, stepped, later⟩
      rcases Machine.recording_step.1 stepped with ⟨moved, written⟩
      cases written
      rcases carried_step found peer (lossless event List.mem_cons_self) moved with
        ⟨there, foundNext, peerNext, carried⟩
      rcases ih (kept.step moved) foundNext peerNext
        (fun other listed => lossless other (List.mem_cons_of_mem _ listed)) later with
        ⟨keptFinal, ⟨heard, grown⟩, last, foundLast, peerLast, carriedLast⟩
      refine ⟨keptFinal, ⟨heardBy state event ++ heard, ?_⟩, last, foundLast, peerLast, ?_⟩
      · rw [grown, record, List.append_assoc]
      · rw [carriedLast, carried, List.append_assoc, publishedBy, publishedBy, published,
          published, List.flatMap_cons, List.filter_append]

end PubSub

namespace PubSub

variable {ω : Type} {msgpack : Msgpack Value} {callback : Callback Value ω} {limit : Nat}
  {outside : ω} {trace segment : List (PubSubEvent Value)}
  {recorded final : PubSub Value ω × History Value}

/-- Every published value is one that Python can build and the decoder's stack can hold. -/
def Publishable (limit : Nat) (trace : List (PubSubEvent Value)) : Prop :=
  ∀ publisher value kept, .publishes publisher value kept ∈ trace →
    DistinctKeys value ∧ depth value ≤ limit

theorem publishable_of_mem (publishable : Publishable limit trace) {message : Message Value}
    (listed : message ∈ published msgpack trace) :
    DistinctKeys message.value ∧ depth message.value ≤ limit := by
  rcases List.mem_flatMap.1 listed with ⟨event, happened, sent⟩
  cases event with
  | publishes publisher value kept =>
      rw [sentBy] at sent
      split at sent
      next =>
        cases List.mem_singleton.1 sent
        exact publishable publisher value kept happened
      next => cases sent
  | binds | connects | attaches | detaches | loses | delivers | loop => cases sent

/-- What the callback is called with for received messages: their values, without those that have
other keys than texts and bytes. -/
theorem decoded_heard (speaks : msgpack.SpeaksMessagePack limit)
    {heard : List (Nat × Message Value)}
    (sent : ∀ entry ∈ heard, publish msgpack entry.2.value = .ok entry.2.bytes ∧
      DistinctKeys entry.2.value ∧ depth entry.2.value ≤ limit) :
    (heard.filterMap fun entry => msgpack.decoded entry.2.bytes) =
      (heard.map fun entry => entry.2.value).filter strictKeys := by
  induction heard with
  | nil => rfl
  | cons entry rest ih =>
      rcases sent entry List.mem_cons_self with ⟨packed, distinct, shallow⟩
      have unpacked := unpackb_packb speaks (publish_eq_ok.1 packed) distinct shallow
      have others := ih fun other listed => sent other (List.mem_cons_of_mem _ listed)
      rw [List.map_cons]
      by_cases strict : strictKeys entry.2.value = true
      · rw [if_pos strict] at unpacked
        have found : msgpack.decoded entry.2.bytes = some entry.2.value := by
          rw [Msgpack.decoded, unpacked]
          rfl
        rw [List.filter_cons_of_pos strict, List.filterMap_cons, others]
        simp only [found]
      · rw [if_neg strict] at unpacked
        have nothing : msgpack.decoded entry.2.bytes = none := by
          rw [Msgpack.decoded, unpacked]
          rfl
        rw [List.filter_cons_of_neg strict, List.filterMap_cons, others]
        simp only [nothing]

theorem packed_of_run (run : (ledger msgpack callback outside).exec trace = some recorded)
    (publishable : Publishable limit trace) :
    ∀ entry ∈ recorded.2.heard, publish msgpack entry.2.value = .ok entry.2.bytes ∧
      DistinctKeys entry.2.value ∧ depth entry.2.value ≤ limit := by
  rcases recorded_of_run run with ⟨kept, all⟩
  intro entry listed
  have through : entry.2 ∈ recorded.2.heardThrough entry.1 :=
    List.mem_map.2 ⟨entry, List.mem_filter.2 ⟨listed, beq_self_eq_true _⟩, rfl⟩
  have sent : entry.2 ∈ recorded.2.sent := (heardThrough_sublist kept entry.1).subset through
  refine ⟨kept.packed entry.2 sent, ?_⟩
  rw [all] at sent
  exact publishable_of_mem publishable sent

/-- In every run of publishers and a subscriber whose connections drop and lose messages: the
callback is called with the values that were received, without those that have other keys than
texts and bytes; through every connection nothing is received that was not published, nothing
twice, and nothing out of the order in which it was published; and whatever is received through it
was published by a publisher bound to its address. -/
theorem called_of_run (speaks : msgpack.SpeaksMessagePack limit)
    (run : (ledger msgpack callback outside).exec trace = some recorded)
    (publishable : Publishable limit trace) :
    recorded.1.receiving.called =
        (recorded.2.heard.map fun entry => entry.2.value).filter strictKeys ∧
      (∀ index, (recorded.2.heardThrough index).Sublist (published msgpack trace)) ∧
      ∀ (index : Nat) (link : Link Value), recorded.1.links[index]? = some link →
        ∀ message ∈ recorded.2.heardThrough index,
          (message.publisher, link.url) ∈ recorded.1.bound := by
  rcases recorded_of_run run with ⟨kept, all⟩
  refine ⟨?_, ?_, ?_⟩
  · rw [kept.called]
    exact decoded_heard speaks (packed_of_run run publishable)
  · intro index
    rw [← all]
    exact heardThrough_sublist kept index
  · intro index link found message listed
    exact (kept.carried index link found).heard_listening listed

/-- While a connection is with a publisher and loses nothing, what is received through it and what
is then on its way is what was on its way and what that publisher publishes meanwhile, whatever
others publish; the callback is called with the values of all that is received. -/
theorem called_of_lossless (speaks : msgpack.SpeaksMessagePack limit)
    (run : (ledger msgpack callback outside).exec trace = some recorded)
    (goesOn : (ledger msgpack callback outside).execFrom recorded segment = some final)
    (publishable : Publishable limit (trace ++ segment)) {index publisher : Nat}
    {link : Link Value} (found : recorded.1.links[index]? = some link)
    (peer : link.peer = some publisher)
    (lossless : ∀ event ∈ segment, Lossless index publisher event) :
    ∃ heard last, final.1.links[index]? = some last ∧ last.peer = some publisher ∧
      final.1.receiving.called = recorded.1.receiving.called ++
        (heard.map fun entry => entry.2.value).filter strictKeys ∧
      History.heardThrough { sent := [], heard := heard } index ++ last.channel.transit =
        link.channel.transit ++ publishedBy msgpack publisher segment := by
  rcases recorded_of_run run with ⟨kept, _⟩
  rcases carried_segment kept found peer lossless goesOn with
    ⟨keptFinal, ⟨heard, grown⟩, last, foundLast, peerLast, carried⟩
  have whole : (ledger msgpack callback outside).exec (trace ++ segment) = some final := by
    rw [Machine.exec, Machine.execFrom_append]
    exact Option.bind_eq_some_iff.2 ⟨recorded, run, goesOn⟩
  have packed := packed_of_run whole publishable
  refine ⟨heard, last, foundLast, peerLast, ?_, ?_⟩
  · rw [keptFinal.called, grown, List.filterMap_append, ← kept.called]
    congr 1
    apply decoded_heard speaks
    intro entry listed
    apply packed
    rw [grown]
    exact List.mem_append_right _ listed
  · have taken : last.channel.taken = link.channel.taken ++
        History.heardThrough { sent := [], heard := heard } index := by
      rw [← (keptFinal.carried index last foundLast).heard,
        ← (kept.carried index link found).heard, History.heardThrough, grown, List.filter_append,
        List.map_append]
      rfl
    rw [Channel.carried, Channel.carried, taken, List.append_assoc, List.append_assoc] at carried
    exact List.append_cancel_left carried

/-! ## Two publishers -/

/-- A callback that counts. -/
def counting : Callback Value Nat := fun _ => modify fun seen => (seen.1, seen.2 + 1)

/-- The first publisher's messages are delivered after the later ones of the second, of whose
messages one is dropped and one has an integer key. -/
def twoPublishers : List (PubSubEvent Value) :=
  [.binds 0 "tcp://10.0.0.2:5001", .binds 1 "tcp://10.0.0.3:5002",
    .connects "tcp://10.0.0.2:5001", .connects "tcp://10.0.0.3:5002", .loop .start,
    .attaches 0 0, .attaches 1 1,
    .publishes 0 (.scalar (.int 1)) (fun index => index == 0),
    .publishes 1 (.scalar (.int 2)) (fun index => index == 1),
    .publishes 1 (.scalar (.int 3)) (fun _ => false),
    .publishes 1 (.map [(.int 4, .scalar (.int 4))]) (fun index => index == 1),
    .publishes 1 (.scalar (.int 5)) (fun index => index == 1),
    .delivers 1, .delivers 1, .delivers 1, .delivers 0]

/-- Both publishers go on; the connection with the first one keeps what it publishes, the one with
the second breaks. -/
def goingOn : List (PubSubEvent Value) :=
  [.publishes 0 (.scalar (.int 6)) (fun index => index == 0), .delivers 0, .detaches 1,
    .publishes 1 (.scalar (.int 8)) (fun _ => false),
    .publishes 0 (.scalar (.int 7)) (fun index => index == 0)]

theorem publishable_twoPublishers : Publishable 512 (twoPublishers ++ goingOn) := by
  intro publisher value kept listed
  simp only [twoPublishers, goingOn, List.cons_append, List.nil_append, List.mem_cons,
    reduceCtorEq, PubSubEvent.publishes.injEq, List.not_mem_nil, or_false, false_or] at listed
  rcases listed with ⟨_, rfl, _⟩ | ⟨_, rfl, _⟩ | ⟨_, rfl, _⟩ | ⟨_, rfl, _⟩ | ⟨_, rfl, _⟩ |
    ⟨_, rfl, _⟩ | ⟨_, rfl, _⟩ | ⟨_, rfl, _⟩ <;>
    simp [DistinctKeys, MessagePack.EntriesDistinct, depth, MessagePack.entriesDepth]

theorem called_of_run_twoPublishers :
    ∃ recorded, (ledger (Msgpack.standard 512) counting (0 : Nat)).exec twoPublishers =
        some recorded ∧
      recorded.1.receiving.called =
        [.scalar (.int 2), .scalar (.int 5), .scalar (.int 1)] ∧
      recorded.1.receiving.called =
        (recorded.2.heard.map fun entry => entry.2.value).filter strictKeys ∧
      (∀ index, (recorded.2.heardThrough index).Sublist
        (published (Msgpack.standard 512) twoPublishers)) ∧
      ∀ (index : Nat) (link : Link Value), recorded.1.links[index]? = some link →
        ∀ message ∈ recorded.2.heardThrough index,
          (message.publisher, link.url) ∈ recorded.1.bound := by
  have ends : ((ledger (Msgpack.standard 512) counting (0 : Nat)).exec twoPublishers).map
      (fun recorded => recorded.1.receiving.called) =
      some [.scalar (.int 2), .scalar (.int 5), .scalar (.int 1)] := rfl
  rcases Option.map_eq_some_iff.1 ends with ⟨recorded, run, called⟩
  have publishable : Publishable 512 twoPublishers := fun publisher value kept listed =>
    publishable_twoPublishers publisher value kept (List.mem_append_left _ listed)
  exact ⟨recorded, run, called,
    called_of_run (Msgpack.standard_speaksMessagePack 512) run publishable⟩

theorem called_of_lossless_goingOn :
    ∃ recorded final heard, ∃ link last : Link Value,
      (ledger (Msgpack.standard 512) counting (0 : Nat)).exec twoPublishers = some recorded ∧
      (ledger (Msgpack.standard 512) counting (0 : Nat)).execFrom recorded goingOn = some final ∧
      recorded.1.links[0]? = some link ∧ final.1.links[0]? = some last ∧
      last.peer = some 0 ∧
      final.1.receiving.called = recorded.1.receiving.called ++
        (heard.map fun entry => entry.2.value).filter strictKeys ∧
      History.heardThrough { sent := [], heard := heard } 0 ++ last.channel.transit =
        link.channel.transit ++ publishedBy (Msgpack.standard 512) 0 goingOn := by
  have ends : ((ledger (Msgpack.standard 512) counting (0 : Nat)).exec twoPublishers).any
      (fun recorded => (recorded.1.links[0]?.map Link.peer == some (some 0)) &&
        ((ledger (Msgpack.standard 512) counting (0 : Nat)).execFrom recorded goingOn).isSome) =
      true := by decide +kernel
  rcases (Option.any_eq_true _ _).1 ends with ⟨recorded, run, both⟩
  rcases Bool.and_eq_true_iff.1 both with ⟨present, goes⟩
  rcases Option.map_eq_some_iff.1 (beq_iff_eq.1 present) with ⟨link, found, peer⟩
  rcases Option.isSome_iff_exists.1 goes with ⟨final, goesOn⟩
  have lossless : ∀ event ∈ goingOn, Lossless 0 0 event := by
    intro event listed
    simp only [goingOn, List.mem_cons, List.not_mem_nil, or_false] at listed
    rcases listed with rfl | rfl | rfl | rfl | rfl
    · exact fun _ => rfl
    · trivial
    · exact Nat.one_ne_zero
    · exact fun same => absurd same Nat.one_ne_zero
    · exact fun _ => rfl
  rcases called_of_lossless (Msgpack.standard_speaksMessagePack 512) run goesOn
    publishable_twoPublishers found peer lossless with
    ⟨heard, last, foundLast, peerLast, called, carried⟩
  exact ⟨recorded, final, heard, link, last, run, goesOn, found, foundLast, peerLast, called,
    carried⟩

end PubSub

end Pyzlc
