import Pyzlc.Foundation.Machine
import Pyzlc.Foundation.Visits
import Pyzlc.Nodes.ManagerSpec

/-!
# Update handlers that change who is called

`update_node` emits two events, the one of `"*"` and the one of the name of the node, and
each emission runs over a copy of its handlers.  Handlers may register and unregister
handlers of any key, and may raise.  A log beside the state keeps who was called and every
dictionary of events that a handler left.
-/

namespace Pyzlc

open Foundation

/-- What a handler does to the events. -/
inductive HandlerChange (η : Type) where
  | register (nodeName : Text) (handler : η)
  | unregister (nodeName : Text) (handler : η)
  deriving DecidableEq

/-- How a handler reacts to an update: it registers and unregisters in some order, leaves
something outside the registry, and returns or raises. -/
structure Reaction (η ω : Type) where
  changes : List (HandlerChange η)
  outside : ω
  raised : Option PyError

/-- What the handlers do, by what they can see. -/
abbrev React (η ω : Type) := η → NodeInfo → Dict Text (Event η) × ω → Reaction η ω

/-- The handlers that were called, and the events as every change of a handler left them. -/
structure HandlerLog (η : Type) where
  called : List η
  seen : List (Dict Text (Event η))

namespace NodesInfoManager

variable {η ω : Type}

/-! ## Changes of the events -/

/-- The handlers of a key. -/
def handlersOf (events : Dict Text (Event η)) (key : Text) : List η :=
  ((events.lookup key).getD Event.empty).handlers

/-- No event holds a handler twice. -/
def Distinct (events : Dict Text (Event η)) : Prop :=
  ∀ key, (handlersOf events key).Nodup

theorem handlersOf_set (events : Dict Text (Event η)) (nodeName key : Text) (event : Event η) :
    handlersOf (Dict.set events nodeName event) key =
      if key = nodeName then event.handlers else handlersOf events key := by
  unfold handlersOf
  rw [Dict.lookup_set]
  split <;> rfl

theorem Distinct.set {events : Dict Text (Event η)} (distinct : Distinct events)
    (nodeName : Text) {event : Event η} (nodup : event.handlers.Nodup) :
    Distinct (Dict.set events nodeName event) := by
  intro key
  rw [handlersOf_set]
  split
  next => exact nodup
  next => exact distinct key

variable [DecidableEq η]

def subscribeTo (events : Dict Text (Event η)) (nodeName : Text) (handler : η) :
    Dict Text (Event η) :=
  Dict.set events nodeName (((events.lookup nodeName).getD Event.empty).subscribe handler)

def unsubscribeFrom (events : Dict Text (Event η)) (nodeName : Text) (handler : η) :
    Dict Text (Event η) :=
  match events.lookup nodeName with
  | some event => Dict.set events nodeName (event.unsubscribe handler)
  | none => events

def changed (events : Dict Text (Event η)) : HandlerChange η → Dict Text (Event η)
  | .register nodeName handler => subscribeTo events nodeName handler
  | .unregister nodeName handler => unsubscribeFrom events nodeName handler

theorem events_unregisterNodeUpdateHandler (nodeName : Text) (handler : η)
    (manager : NodesInfoManager η) :
    (unregisterNodeUpdateHandler nodeName handler manager).nodeUpdateEventDict =
      changed manager.nodeUpdateEventDict (.unregister nodeName handler) := by
  show _ = unsubscribeFrom _ _ _
  unfold unregisterNodeUpdateHandler unsubscribeFrom
  cases manager.nodeUpdateEventDict.lookup nodeName with
  | none => rfl
  | some event => rfl

theorem nodup_subscribe {event : Event η} (nodup : event.handlers.Nodup) (handler : η) :
    (event.subscribe handler).handlers.Nodup := by
  unfold Event.subscribe
  split
  next => exact nodup
  next absent => exact List.concat_eq_append ▸ nodup.concat absent

theorem Distinct.changed {events : Dict Text (Event η)} (distinct : Distinct events)
    (happens : HandlerChange η) : Distinct (changed events happens) := by
  cases happens with
  | register nodeName handler =>
      exact distinct.set nodeName (nodup_subscribe (distinct nodeName) handler)
  | unregister nodeName handler =>
      simp only [NodesInfoManager.changed, unsubscribeFrom]
      split
      next event found =>
        have nodup := distinct nodeName
        rw [handlersOf, found] at nodup
        exact distinct.set nodeName (nodup.erase handler)
      next => exact distinct

theorem mem_changed {events : Dict Text (Event η)} {key : Text} (present : key ∈ events)
    (happens : HandlerChange η) : key ∈ changed events happens := by
  cases happens with
  | register nodeName handler => exact (Dict.mem_set _ _ _ _).2 (Or.inr present)
  | unregister nodeName handler =>
      simp only [changed, unsubscribeFrom]
      split
      next => exact (Dict.mem_set _ _ _ _).2 (Or.inr present)
      next => exact present

/-! ## Handlers that leave a log -/

/-- The events, what is outside the registry, and the log. -/
abbrev Observed (η ω : Type) := Dict Text (Event η) × ω × HandlerLog η

/-- The reaction of a handler where it is called. -/
def reaction (react : React η ω) (info : NodeInfo) (observed : Observed η ω) (handler : η) :
    Reaction η ω :=
  react handler info (observed.1, observed.2.1)

def raises (react : React η ω) (info : NodeInfo) (observed : Observed η ω) (handler : η) :
    Option PyError :=
  (reaction react info observed handler).raised

/-- What a handler leaves, whether it returns or raises. -/
def reacted (react : React η ω) (info : NodeInfo) (observed : Observed η ω) (handler : η) :
    Observed η ω :=
  let answer := reaction react info observed handler
  (answer.changes.foldl changed observed.1, answer.outside,
    { called := observed.2.2.called ++ [handler]
      seen := observed.2.2.seen ++ answer.changes.scanl changed observed.1 })

/-- Call a handler. -/
def perform (react : React η ω) : Call η (ω × HandlerLog η) := fun handler info => do
  let observed ← get
  set (reacted react info observed handler)
  match raises react info observed handler with
  | none => pure ⟨⟩
  | some error => throw error

theorem run_perform (react : React η ω) (info : NodeInfo) (observed : Observed η ω)
    (handler : η) :
    (perform react handler info).run observed =
      Action.ended (raises react info observed handler) (reacted react info observed handler) := by
  unfold perform
  rw [Action.bind_of_ok (Action.run_get observed)]
  cases outcome : raises react info observed handler with
  | none => rfl
  | some error => rfl

/-- Nothing in sight holds a handler twice, and `"*"` has an event. -/
structure Tidy (observed : Observed η ω) : Prop where
  star : ("*" : Text) ∈ observed.1
  distinct : Distinct observed.1
  seen : ∀ events ∈ observed.2.2.seen, Distinct events

theorem distinct_scanl {events : Dict Text (Event η)} (distinct : Distinct events)
    (changes : List (HandlerChange η)) :
    ∀ left ∈ changes.scanl changed events, Distinct left := by
  induction changes generalizing events with
  | nil =>
      intro left member
      rw [List.scanl_nil, List.mem_singleton] at member
      exact member ▸ distinct
  | cons happens rest ih =>
      intro left member
      rw [List.scanl_cons] at member
      rcases List.mem_cons.1 member with rfl | later
      · exact distinct
      · exact ih (distinct.changed happens) left later

theorem distinct_foldl {events : Dict Text (Event η)} (distinct : Distinct events)
    (changes : List (HandlerChange η)) : Distinct (changes.foldl changed events) := by
  induction changes generalizing events with
  | nil => exact distinct
  | cons happens rest ih => exact ih (distinct.changed happens)

theorem mem_foldl_changed {events : Dict Text (Event η)} {key : Text} (present : key ∈ events)
    (changes : List (HandlerChange η)) : key ∈ changes.foldl changed events := by
  induction changes generalizing events with
  | nil => exact present
  | cons happens rest ih => exact ih (mem_changed present happens)

theorem Tidy.reacted {observed : Observed η ω} (tidy : Tidy observed) (react : React η ω)
    (info : NodeInfo) (handler : η) : Tidy (reacted react info observed handler) where
  star := mem_foldl_changed tidy.star _
  distinct := distinct_foldl tidy.distinct _
  seen := by
    intro events member
    rcases List.mem_append.1 member with before | now
    · exact tidy.seen events before
    · exact distinct_scanl tidy.distinct _ events now

theorem Tidy.foldl {observed : Observed η ω} (tidy : Tidy observed) (react : React η ω)
    (info : NodeInfo) (handlers : List η) :
    Tidy (handlers.foldl (NodesInfoManager.reacted react info) observed) := by
  induction handlers generalizing observed with
  | nil => exact tidy
  | cons handler rest ih => exact ih (tidy.reacted react info handler)

theorem called_foldl (react : React η ω) (info : NodeInfo) (handlers : List η)
    (observed : Observed η ω) :
    (handlers.foldl (reacted react info) observed).2.2.called =
      observed.2.2.called ++ handlers := by
  induction handlers generalizing observed with
  | nil => exact (List.append_nil _).symm
  | cons handler rest ih =>
      rw [List.foldl_cons, ih]
      exact List.append_assoc _ _ _

/-! ## Emission -/

/-- What the handlers of a manager see. -/
def observed (world : World η (ω × HandlerLog η)) : Observed η ω :=
  (world.1.nodeUpdateEventDict, world.2)

/-- The world once handlers have left something. -/
def observe (seen : Observed η ω) (world : World η (ω × HandlerLog η)) :
    World η (ω × HandlerLog η) :=
  ({ world.1 with nodeUpdateEventDict := seen.1 }, seen.2)

/-- The handlers of a key, as its event starts emitting. -/
def subscribedTo (world : World η (ω × HandlerLog η)) (key : Text) : List η :=
  handlersOf world.1.nodeUpdateEventDict key

/-- An emission is the loop over the handlers of its key, on what they see. -/
theorem run_emitUpdate (react : React η ω) {key : Text} (info : NodeInfo)
    {world : World η (ω × HandlerLog η)} (present : key ∈ world.1.nodeUpdateEventDict) :
    (emitUpdate (perform react) key info).run world =
      (Action.zoom observed observe
        (forM (subscribedTo world key) fun handler => perform react handler info)).run world := by
  rcases Dict.mem_iff_lookup.1 present with ⟨event, found⟩
  have handlers : subscribedTo world key = event.handlers := by
    rw [subscribedTo, handlersOf, found]
    rfl
  unfold emitUpdate
  rw [Action.bind_of_ok (Action.run_get world), found, handlers]
  exact Action.run_forM_zoom observed observe (fun _ _ => rfl) (fun _ => rfl) (fun _ _ _ => rfl)
    (fun handler => perform react handler info) event.handlers world

/-- None of the handlers raises. -/
abbrev AllReturn (react : React η ω) (info : NodeInfo) (handlers : List η)
    (seen : Observed η ω) : Prop :=
  Action.Passes (raises react info) (reacted react info) handlers seen

/-- The handlers that are called before one raises, that one included. -/
abbrev reached (react : React η ω) (info : NodeInfo) (handlers : List η)
    (seen : Observed η ω) : List η :=
  Action.visited (raises react info) (reacted react info) handlers seen

theorem run_emitUpdate_of_allReturn {react : React η ω} {key : Text} {info : NodeInfo}
    {world : World η (ω × HandlerLog η)} (present : key ∈ world.1.nodeUpdateEventDict)
    (passes : AllReturn react info (subscribedTo world key) (observed world)) :
    (emitUpdate (perform react) key info).run world =
      .ok ⟨⟩ (observe ((subscribedTo world key).foldl (reacted react info) (observed world))
        world) := by
  rw [run_emitUpdate react info present]
  exact Action.run_zoom_of_ok (Action.run_forM_of_passes (run_perform react info) passes)

theorem run_emitUpdate_of_not_allReturn {react : React η ω} {key : Text} {info : NodeInfo}
    {world : World η (ω × HandlerLog η)} (present : key ∈ world.1.nodeUpdateEventDict)
    (stops : ¬ AllReturn react info (subscribedTo world key) (observed world)) :
    ∃ error, (emitUpdate (perform react) key info).run world =
      .error error (observe ((reached react info (subscribedTo world key) (observed world)).foldl
        (reacted react info) (observed world)) world) := by
  rcases Action.run_forM_of_not_passes (run_perform react info) stops with ⟨error, raised⟩
  refine ⟨error, ?_⟩
  rw [run_emitUpdate react info present]
  exact Action.run_zoom_of_error raised

theorem after_emitUpdate (react : React η ω) {key : Text} (info : NodeInfo)
    {world : World η (ω × HandlerLog η)} (present : key ∈ world.1.nodeUpdateEventDict) :
    (emitUpdate (perform react) key info).after world =
      observe ((reached react info (subscribedTo world key) (observed world)).foldl
        (reacted react info) (observed world)) world := by
  rw [Action.after, run_emitUpdate react info present]
  exact (Action.after_zoom observed observe _ world).trans
    (congrArg (observe · world) (Action.after_forM_visited (run_perform react info) _ _))

/-! ## Calls one after another -/

/-- The calls a manager gets. -/
inductive UpdateEvent (η : Type) where
  | registerNodeUpdateHandler (nodeName : Text) (handler : η)
  | unregisterNodeUpdateHandler (nodeName : Text) (handler : η)
  | updateNode (now : ℚ) (info : NodeInfo)

def notify (react : React η ω) (world : World η (ω × HandlerLog η)) :
    UpdateEvent η → World η (ω × HandlerLog η)
  | .registerNodeUpdateHandler nodeName handler =>
      (registerNodeUpdateHandler nodeName handler world.1, world.2)
  | .unregisterNodeUpdateHandler nodeName handler =>
      (unregisterNodeUpdateHandler nodeName handler world.1, world.2)
  | .updateNode now info => (updateNode (perform react) now info).after world

/-- A manager right after construction, and calls on it. -/
def updates (react : React η ω) (localName localIp nodeID : Text) (outside : ω) :
    Machine (World η (ω × HandlerLog η)) (UpdateEvent η) where
  start := (init localName localIp nodeID, outside, { called := [], seen := [] })
  step := fun world event => some (notify react world event)

/-- The world of an update once the registry is written. -/
def recorded (now : ℚ) (info : NodeInfo) (world : World η (ω × HandlerLog η)) :
    World η (ω × HandlerLog η) :=
  (recordUpdate now info world.1, world.2)

/-- The handlers that were called so far. -/
def called (world : World η (ω × HandlerLog η)) : List η := world.2.2.called

/-- Each key of an update with the handlers subscribed to it as its event starts emitting:
`"*"`, and then the name of the node.  Where a handler of `"*"` raises, the event of the name
does not start, and the handlers subscribed to the name by then count all the same. -/
def subscriptionsOf (react : React η ω) (now : ℚ) (info : NodeInfo)
    (world : World η (ω × HandlerLog η)) : List (Text × η) :=
  (subscribedTo (recorded now info world) "*").map (fun handler => (("*" : Text), handler)) ++
    match (emitUpdate (perform react) "*" info.bindSockets).run (recorded now info world) with
    | .ok _ next => (subscribedTo next info.name).map fun handler => (info.name, handler)
    | .error _ left =>
        -- under the name "*" these are the subscriptions of the first event
        if info.name = "*" then []
        else (subscribedTo left info.name).map fun handler => (info.name, handler)

/-- An update calls each of its subscriptions once, in order, and no other handler; the
other methods call none. -/
def CallsEachOnce (react : React η ω) (world : World η (ω × HandlerLog η)) :
    UpdateEvent η → Prop
  | .updateNode now info =>
      (subscriptionsOf react now info world).Nodup ∧
        called (notify react world (.updateNode now info)) =
          called world ++ (subscriptionsOf react now info world).map Prod.snd
  | event => called (notify react world event) = called world

/-- What the handlers of `"*"` leave. -/
def afterStar (react : React η ω) (info : NodeInfo) (seen : Observed η ω) : Observed η ω :=
  (handlersOf seen.1 "*").foldl (reacted react info.bindSockets) seen

/-- No handler of `"*"` raises, the last one called apart, which may raise if nobody is
subscribed to the name then; if none raises, no handler of the name raises, the last one called
apart, and under the name `"*"` no handler of `"*"` is subscribed to it again, or still, when its
event starts a second time. -/
def ReachesAll (react : React η ω) (world : World η (ω × HandlerLog η)) :
    UpdateEvent η → Prop
  | .updateNode _ info =>
      let seen := observed world
      let middle := afterStar react info seen
      AllReturn react info.bindSockets (handlersOf seen.1 "*").dropLast seen ∧
        (¬ AllReturn react info.bindSockets (handlersOf seen.1 "*") seen →
          info.name = "*" ∨ handlersOf middle.1 info.name = []) ∧
        (AllReturn react info.bindSockets (handlersOf seen.1 "*") seen →
          AllReturn react info.bindSockets (handlersOf middle.1 info.name).dropLast middle ∧
            (info.name = "*" → (handlersOf seen.1 "*").Disjoint (handlersOf middle.1 info.name)))
  | _ => True

omit [DecidableEq η] in
theorem observed_recorded (now : ℚ) (info : NodeInfo) (world : World η (ω × HandlerLog η)) :
    observed (recorded now info world) = observed world := by
  unfold observed recorded recordUpdate
  simp only
  split <;> rfl

theorem called_observe_foldl (react : React η ω) (info : NodeInfo) (handlers : List η)
    (world : World η (ω × HandlerLog η)) :
    called (observe (handlers.foldl (reacted react info) (observed world)) world) =
      called world ++ handlers :=
  called_foldl react info handlers (observed world)

/-- The second half of an update: the event of the name, if there is one. -/
theorem after_emitName (react : React η ω) (key : Text) (info : NodeInfo)
    (world : World η (ω × HandlerLog η)) :
    Action.after (do
      let current ← get
      if key ∈ current.1.nodeUpdateEventDict then emitUpdate (perform react) key info) world =
      observe ((reached react info (subscribedTo world key) (observed world)).foldl
        (reacted react info) (observed world)) world := by
  rw [Action.after_bind_of_ok (Action.run_get world)]
  split
  next present => exact after_emitUpdate react info present
  next absent =>
    have nobody : subscribedTo world key = [] := by
      rw [subscribedTo, handlersOf, AList.lookup_eq_none.2 absent]
      rfl
    rw [nobody]
    rfl

omit [DecidableEq η] in
/-- Pairs of two keys are distinct, if no handler stands under the same key twice. -/
theorem nodup_pairs_iff {first second : List η} {key other : Text} (firstNodup : first.Nodup)
    (secondNodup : second.Nodup) :
    (first.map (fun handler => (key, handler)) ++
        second.map fun handler => (other, handler)).Nodup ↔
      (other = key → first.Disjoint second) := by
  have injective : ∀ key : Text, Function.Injective fun handler : η => (key, handler) :=
    fun _ _ _ same => (Prod.mk.inj same).2
  rw [List.nodup_append, and_iff_right (firstNodup.map (injective key)),
    and_iff_right (secondNodup.map (injective other))]
  constructor
  · rintro apart rfl handler before after
    exact apart _ (List.mem_map_of_mem before) _ (List.mem_map_of_mem after) rfl
  · intro apart pair before otherPair after same
    rcases List.mem_map.1 before with ⟨handler, memberBefore, rfl⟩
    rcases List.mem_map.1 after with ⟨again, memberAfter, rfl⟩
    rcases Prod.mk.inj same with ⟨sameKey, rfl⟩
    exact apart sameKey.symm memberBefore memberAfter

omit [DecidableEq η] in
theorem map_snd_pairs (handlers : List η) (key : Text) :
    (handlers.map fun handler => (key, handler)).map Prod.snd = handlers := by
  rw [List.map_map]
  exact List.map_id handlers

section Update

variable {react : React η ω} {now : ℚ} {info : NodeInfo} {world : World η (ω × HandlerLog η)}

omit [DecidableEq η] in
theorem subscribedTo_recorded (key : Text) :
    subscribedTo (recorded now info world) key = subscribedTo world key :=
  congrArg (fun seen : Observed η ω => handlersOf seen.1 key) (observed_recorded now info world)

omit [DecidableEq η] in
theorem star_recorded (star : ("*" : Text) ∈ world.1.nodeUpdateEventDict) :
    ("*" : Text) ∈ (recorded now info world).1.nodeUpdateEventDict := by
  show _ ∈ (observed (recorded now info world)).1
  rw [observed_recorded]
  exact star

theorem allReturn_recorded (now : ℚ) :
    AllReturn react info.bindSockets (subscribedTo (recorded now info world) "*")
        (observed (recorded now info world)) ↔
      AllReturn react info.bindSockets (subscribedTo world "*") (observed world) := by
  rw [subscribedTo_recorded, observed_recorded]

/-- What is left where a handler of `"*"` raises. -/
def afterRaise (react : React η ω) (info : NodeInfo) (seen : Observed η ω) : Observed η ω :=
  (reached react info.bindSockets (handlersOf seen.1 "*") seen).foldl
    (reacted react info.bindSockets) seen

/-- Where a handler of `"*"` raises, the event of the name does not start. -/
theorem updateNode_of_not_allReturn (star : ("*" : Text) ∈ world.1.nodeUpdateEventDict)
    (stops : ¬ AllReturn react info.bindSockets (subscribedTo world "*") (observed world)) :
    subscriptionsOf react now info world =
        (subscribedTo world "*").map (fun handler => (("*" : Text), handler)) ++
          (if info.name = "*" then [] else
            (handlersOf (afterRaise react info (observed world)).1 info.name).map
              fun handler => (info.name, handler)) ∧
      called ((updateNode (perform react) now info).after world) =
        called world ++
          reached react info.bindSockets (subscribedTo world "*") (observed world) := by
  have stopped := mt (allReturn_recorded now).1 stops
  rcases run_emitUpdate_of_not_allReturn (star_recorded star) stopped with ⟨error, raised⟩
  rw [subscribedTo_recorded, observed_recorded] at raised
  constructor
  · rw [subscriptionsOf, raised, subscribedTo_recorded]
    rfl
  · unfold updateNode
    rw [Action.after_bind_of_ok (run_onManager_modify _ world)]
    apply (congrArg called (Action.after_of_error (Action.bind_of_error raised))).trans
    exact called_foldl react info.bindSockets _ (observed world)

/-- Where the handlers of `"*"` return, those of the name are called after them. -/
theorem updateNode_of_allReturn (star : ("*" : Text) ∈ world.1.nodeUpdateEventDict)
    (passes : AllReturn react info.bindSockets (subscribedTo world "*") (observed world)) :
    subscriptionsOf react now info world =
        (subscribedTo world "*").map (fun handler => (("*" : Text), handler)) ++
          (handlersOf (afterStar react info (observed world)).1 info.name).map
            (fun handler => (info.name, handler)) ∧
      called ((updateNode (perform react) now info).after world) =
        called world ++ (subscribedTo world "*" ++
          reached react info.bindSockets
            (handlersOf (afterStar react info (observed world)).1 info.name)
            (afterStar react info (observed world))) := by
  have passed := (allReturn_recorded now).2 passes
  have returned := run_emitUpdate_of_allReturn (star_recorded star) passed
  rw [subscribedTo_recorded, observed_recorded] at returned
  constructor
  · rw [subscriptionsOf, returned, subscribedTo_recorded]
    rfl
  · unfold updateNode
    rw [Action.after_bind_of_ok (run_onManager_modify _ world)]
    apply (congrArg called (Action.after_bind_of_ok returned)).trans
    apply (congrArg called (after_emitName react info.name info.bindSockets _)).trans
    rw [called_observe_foldl, ← List.append_assoc]
    apply congrArg (· ++ _)
    exact called_foldl react info.bindSockets (subscribedTo world "*") (observed world)

/-- Where the handlers of `"*"` return, each subscription is called once exactly if those of
the name are reached and are others. -/
theorem callsEachOnce_of_allReturn (tidy : Tidy (observed world))
    (passes : AllReturn react info.bindSockets (subscribedTo world "*") (observed world)) :
    CallsEachOnce react world (.updateNode now info) ↔
      AllReturn react info.bindSockets
          (handlersOf (afterStar react info (observed world)).1 info.name).dropLast
          (afterStar react info (observed world)) ∧
        (info.name = "*" → (subscribedTo world "*").Disjoint
          (handlersOf (afterStar react info (observed world)).1 info.name)) := by
  rcases updateNode_of_allReturn tidy.star passes with ⟨pairs, calls⟩
  have secondNodup :=
    (tidy.foldl react info.bindSockets (subscribedTo world "*")).distinct info.name
  have nodup : (subscriptionsOf react now info world).Nodup ↔ (info.name = "*" →
      (subscribedTo world "*").Disjoint
        (handlersOf (afterStar react info (observed world)).1 info.name)) := by
    rw [pairs]
    exact nodup_pairs_iff (tidy.distinct "*") secondNodup
  have order : called (notify react world (.updateNode now info)) =
      called world ++ (subscriptionsOf react now info world).map Prod.snd ↔
        AllReturn react info.bindSockets
          (handlersOf (afterStar react info (observed world)).1 info.name).dropLast
          (afterStar react info (observed world)) := by
    rw [pairs, List.map_append, map_snd_pairs, map_snd_pairs, notify, calls,
      List.append_cancel_left_eq, List.append_cancel_left_eq]
    exact Action.visited_eq_self_iff
  exact (and_congr nodup order).trans and_comm

theorem afterRaise_of_passes
    (passes : AllReturn react info.bindSockets (subscribedTo world "*").dropLast
      (observed world)) :
    afterRaise react info (observed world) = afterStar react info (observed world) := by
  have whole : reached react info.bindSockets (handlersOf (observed world).1 "*")
      (observed world) = handlersOf (observed world).1 "*" := Action.visited_eq_self_iff.2 passes
  rw [afterRaise, whole, afterStar]

/-- Where a handler of `"*"` raises, each subscription is called once exactly if it is the last
one and nobody is subscribed to the name. -/
theorem callsEachOnce_of_not_allReturn (tidy : Tidy (observed world))
    (stops : ¬ AllReturn react info.bindSockets (subscribedTo world "*") (observed world)) :
    CallsEachOnce react world (.updateNode now info) ↔
      AllReturn react info.bindSockets (subscribedTo world "*").dropLast (observed world) ∧
        (info.name = "*" ∨
          handlersOf (afterStar react info (observed world)).1 info.name = []) := by
  rcases updateNode_of_not_allReturn tidy.star stops with ⟨pairs, calls⟩
  have starPairs : ((subscribedTo world "*").map fun handler => (("*" : Text), handler)).Nodup :=
    (tidy.distinct "*").map fun _ _ same => (Prod.mk.inj same).2
  rw [CallsEachOnce, pairs, notify, calls, List.map_append, map_snd_pairs,
    List.append_cancel_left_eq, reached, Action.visited_eq_append_iff]
  by_cases starred : info.name = "*"
  · rw [if_pos starred, List.append_nil, and_iff_right starPairs, List.map_nil,
      and_iff_left rfl]
    exact (and_iff_left (Or.inl starred)).symm
  · rw [if_neg starred, map_snd_pairs, or_iff_right starred]
    constructor
    · rintro ⟨-, passes, nobody⟩
      rw [afterRaise_of_passes passes] at nobody
      exact ⟨passes, nobody⟩
    · rintro ⟨passes, nobody⟩
      rw [afterRaise_of_passes passes, nobody, List.map_nil, List.append_nil]
      exact ⟨starPairs, passes, rfl⟩

/-- An update of a tidy manager calls each subscription once exactly if it reaches all. -/
theorem callsEachOnce_updateNode_iff (tidy : Tidy (observed world)) :
    CallsEachOnce react world (.updateNode now info) ↔
      ReachesAll react world (.updateNode now info) := by
  by_cases passes : AllReturn react info.bindSockets (subscribedTo world "*") (observed world)
  · rw [callsEachOnce_of_allReturn tidy passes]
    constructor
    · intro both
      exact ⟨Action.visited_eq_self_iff.1 (Action.visited_of_passes passes),
        fun stops => absurd passes stops, fun _ => both⟩
    · intro reaches
      exact reaches.2.2 passes
  · rw [callsEachOnce_of_not_allReturn tidy passes]
    constructor
    · intro both
      exact ⟨both.1, fun _ => both.2, fun all => absurd all passes⟩
    · intro reaches
      exact ⟨reaches.1, reaches.2.1 passes⟩

end Update

/-! ## What every call keeps -/

/-- A tidy world is left tidy. -/
def KeepsTidy (before after : World η (ω × HandlerLog η)) : Prop :=
  Tidy (observed before) → Tidy (observed after)

omit [DecidableEq η] in
theorem keepsTidy_refl (world : World η (ω × HandlerLog η)) : KeepsTidy world world := id

omit [DecidableEq η] in
theorem keepsTidy_trans (first second third : World η (ω × HandlerLog η))
    (left : KeepsTidy first second) (right : KeepsTidy second third) : KeepsTidy first third :=
  fun tidy => right (left tidy)

theorem guarantees_perform (react : React η ω) (handler : η) (info : NodeInfo) :
    Action.Guarantees KeepsTidy (onHandlers (perform react handler info)) := by
  intro world tidy
  rw [onHandlers, Action.after_zoom]
  have left : (perform react handler info).after (observed world) =
      reacted react info (observed world) handler := by
    have ran := run_perform react info (observed world) handler
    cases outcome : raises react info (observed world) handler with
    | none =>
        rw [outcome] at ran
        exact Action.after_of_ok ran
    | some error =>
        rw [outcome] at ran
        exact Action.after_of_error ran
  show Tidy ((perform react handler info).after (observed world))
  rw [left]
  exact tidy.reacted react info handler

theorem guarantees_tidy_emitUpdate (react : React η ω) (key : Text) (info : NodeInfo) :
    Action.Guarantees KeepsTidy (emitUpdate (perform react) key info) := by
  apply Action.guarantees_bind keepsTidy_trans
  · exact Action.guarantees_get keepsTidy_refl
  · intro world
    cases world.1.nodeUpdateEventDict.lookup key with
    | none => exact Action.guarantees_throw keepsTidy_refl _
    | some event =>
        exact Event.guarantees_emit keepsTidy_refl keepsTidy_trans
          (fun handler arg => guarantees_perform react handler arg) event info

theorem guarantees_tidy_updateNode (react : React η ω) (now : ℚ) (info : NodeInfo) :
    Action.Guarantees KeepsTidy (updateNode (perform react) now info) := by
  apply Action.guarantees_bind keepsTidy_trans
  · intro world tidy
    show Tidy (observed (recorded now info world))
    rw [observed_recorded]
    exact tidy
  · intro _
    apply Action.guarantees_bind keepsTidy_trans
    · exact guarantees_tidy_emitUpdate react "*" info.bindSockets
    · intro _
      apply Action.guarantees_bind keepsTidy_trans
      · exact Action.guarantees_get keepsTidy_refl
      · intro current
        split
        next => exact guarantees_tidy_emitUpdate react info.name info.bindSockets
        next => exact Action.guarantees_pure keepsTidy_refl _

theorem tidy_notify {react : React η ω} {world : World η (ω × HandlerLog η)}
    (tidy : Tidy (observed world)) (event : UpdateEvent η) :
    Tidy (observed (notify react world event)) := by
  cases event with
  | registerNodeUpdateHandler nodeName handler =>
      exact ⟨mem_changed tidy.star (.register nodeName handler),
        tidy.distinct.changed (.register nodeName handler), tidy.seen⟩
  | unregisterNodeUpdateHandler nodeName handler =>
      have left := events_unregisterNodeUpdateHandler nodeName handler world.1
      constructor
      · show _ ∈ (unregisterNodeUpdateHandler nodeName handler world.1).nodeUpdateEventDict
        rw [left]
        exact mem_changed tidy.star (.unregister nodeName handler)
      · show Distinct (unregisterNodeUpdateHandler nodeName handler world.1).nodeUpdateEventDict
        rw [left]
        exact tidy.distinct.changed (.unregister nodeName handler)
      · exact tidy.seen
  | updateNode now info => exact guarantees_tidy_updateNode react now info world tidy

omit [DecidableEq η] in
theorem tidy_init (localName localIp nodeID : Text) (outside : ω) :
    Tidy (observed (init localName localIp nodeID, outside, { called := [], seen := [] }) :
      Observed η ω) where
  star := (Dict.mem_set _ _ _ _).2 (Or.inl rfl)
  distinct := by
    intro key
    show (handlersOf (Dict.set ∅ "*" Event.empty) key).Nodup
    rw [handlersOf_set]
    split <;> exact List.nodup_nil
  seen := nofun

/-- In every run of registrations and updates no event ever holds a handler twice, and each
update calls each of its subscriptions exactly once, if and only if every update reaches all
its handlers, those of the name included, and no handler is subscribed under the name `"*"`
when it is announced again. -/
theorem callsEachOnce_iff (react : React η ω) (localName localIp nodeID : Text) (outside : ω)
    (trace : List (UpdateEvent η)) :
    ((updates react localName localIp nodeID outside).StatesAlong
          (fun world => Tidy (observed world)) trace ∧
        (updates react localName localIp nodeID outside).StepsAlong (CallsEachOnce react) trace) ↔
      (updates react localName localIp nodeID outside).StepsAlong (ReachesAll react) trace := by
  have runs : ∃ state, (updates react localName localIp nodeID outside).exec trace = some state :=
    Machine.exec_of_total (fun world event => ⟨_, rfl⟩) trace
  rcases runs with ⟨state, run⟩
  apply Machine.statesAlong_and_stepsAlong_iff (tidy_init localName localIp nodeID outside) _ run
  intro world event next _ tidy stepped
  cases stepped
  rw [and_iff_right (tidy_notify tidy event)]
  cases event with
  | registerNodeUpdateHandler nodeName handler => exact iff_of_true rfl trivial
  | unregisterNodeUpdateHandler nodeName handler => exact iff_of_true rfl trivial
  | updateNode now info => exact callsEachOnce_updateNode_iff tidy

omit [DecidableEq η] in
/-- Handlers that only return. -/
def quiet : React η ω := fun _ _ seen => { changes := [], outside := seen.2, raised := none }

/-- A node whose name is the key of every update. -/
def starInfo : NodeInfo where
  nodeID := "123e4567-e89b-12d3-a456-426614174000"
  infoID := 1
  name := "*"
  ip := "192.168.0.7"
  topics := []
  services := []

/-- Its update calls a handler of every update twice. -/
theorem not_callsEachOnce_star :
    ¬ ((updates quiet "viewer" "192.168.0.9" "123e4567-e89b-12d3-a456-426614174001" ()).StatesAlong
          (fun world => Tidy (observed world))
          [.registerNodeUpdateHandler "*" 0, .updateNode 0 starInfo] ∧
        (updates quiet "viewer" "192.168.0.9" "123e4567-e89b-12d3-a456-426614174001" ()).StepsAlong
          (CallsEachOnce (quiet : React Nat Unit))
          [.registerNodeUpdateHandler "*" 0, .updateNode 0 starInfo]) := by
  rintro ⟨-, steps⟩
  have once := steps [.registerNodeUpdateHandler "*" 0] (.updateNode 0 starInfo) _
    List.prefix_rfl rfl
  have twice : subscriptionsOf (quiet : React Nat Unit) 0 starInfo
      (registerNodeUpdateHandler "*" 0
        (init "viewer" "192.168.0.9" "123e4567-e89b-12d3-a456-426614174001"),
        (), { called := [], seen := [] }) = [(("*" : Text), 0), (("*" : Text), 0)] := by
    decide +kernel
  have nodup := twice ▸ once.1
  exact absurd nodup (by decide +kernel)

end NodesInfoManager

end Pyzlc
