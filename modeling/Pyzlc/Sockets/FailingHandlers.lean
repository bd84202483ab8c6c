import Pyzlc.Foundation.Attempts
import Pyzlc.Sockets.RefusedConnections

/-!
# Updates whose handlers raise

`update_node` records the version first and announces the description afterwards: to the
handlers under `"*"`, then to those under the node's name, one of which is `check_new_node`
with a loop of its own.  Nothing guards the loops, so what is called and connected is what
stands in front of the first item that raises, and the recorded version keeps the rest from
being announced again.
-/

namespace Pyzlc

open Foundation NodesInfoManager SubscriberManager

/-- A handler of node updates: one of the application's, or the subscriber manager's. -/
inductive AnyHandler (δ : Type) where
  | user (handler : δ)
  | checkNewNode
  deriving DecidableEq, Repr

/-- What the handlers act on: the application's handlers that were called, and the
subscribers. -/
structure Outside (δ : Type) where
  called : List δ
  subscribers : SubscriberManager

/-- The handlers that raise, and what the socket of each topic's subscriber answers. -/
structure Faults (δ : Type) where
  raises : δ → Option PyError
  host : TopicName → Host

namespace Outside

variable {δ : Type}

def onSubscribers (action : Action PyError SubscriberManager Unit) :
    Action PyError (Outside δ) Unit :=
  Action.zoom subscribers (fun part whole => { whole with subscribers := part }) action

/-- A call of one of the application's handlers. -/
def callUser (faults : Faults δ) (handler : δ) : Action PyError (Outside δ) Unit := do
  modify fun outside => { outside with called := outside.called ++ [handler] }
  match faults.raises handler with
  | some error => throw error
  | none => pure ()

/-- `check_new_node`, where each subscriber has a socket of its own. -/
def checkNewNodeOn (host : TopicName → Host) (info : NodeInfo) :
    Action PyError SubscriberManager Unit :=
  forM info.topics fun topic => checkTopic (host topic.name) topic

/-- Where all sockets answer alike this is `check_new_node` on one host. -/
theorem checkNewNodeOn_const (host : Host) (info : NodeInfo) :
    checkNewNodeOn (fun _ => host) info = checkNewNode host info := rfl

/-- One handler, called with a description. -/
def notify (faults : Faults δ) (info : NodeInfo) : AnyHandler δ → Action PyError (Outside δ) Unit
  | .user handler => callUser faults handler
  | .checkNewNode => onSubscribers (checkNewNodeOn faults.host info)

end Outside

/-- What the handlers do.  None of them registers or unregisters handlers. -/
def callAny {δ : Type} (faults : Faults δ) : Call (AnyHandler δ) (Outside δ) :=
  fun handler info => Action.zoom Prod.snd (fun outside part => (part.1, outside))
    (Outside.notify faults info handler)

/-! ## The single steps of an announcement -/

/-- One step that an announcement owes. -/
inductive Deed (δ : Type) where
  /-- A handler of the application is called. -/
  | call (handler : δ)
  /-- The subscriber of a topic is connected to an address. -/
  | connect (topicName : TopicName) (url : Text)
  deriving DecidableEq, Repr

namespace SubscriberManager

/-- What `check_new_node` does with one topic, its address computed. -/
def connectTopic (host : Host) (topicName : TopicName) (url : Text) :
    Action PyError SubscriberManager Unit :=
  onSubscriber topicName (do
    let subscriber ← get
    if url ∉ subscriber.subUrls then Subscriber.connect host url)

theorem run_checkTopic_eq (host : Host) (topic : SocketInfo) (manager : SubscriberManager) :
    (checkTopic host topic).run manager =
      (connectTopic host topic.name (manager.getConnectUrl host topic)).run manager := rfl

variable {host : Host} {topicName : TopicName} {url : Text} {manager : SubscriberManager}
  {subscriber : Subscriber}

theorem run_connectTopic_of_absent (missing : manager.subscriberDict.lookup topicName = none) :
    (connectTopic host topicName url).run manager = .ok ⟨⟩ manager := by
  unfold connectTopic onSubscriber
  rw [Action.bind_of_ok (Action.run_get manager), missing]
  rfl

theorem run_connectTopic_of_accepted
    (found : manager.subscriberDict.lookup topicName = some subscriber)
    (accepted : url ∉ subscriber.subUrls → host.refuses url = none) :
    (connectTopic host topicName url).run manager =
      .ok ⟨⟩ (manager.withTopicUrl topicName url subscriber) := by
  unfold connectTopic onSubscriber
  rw [Action.bind_of_ok (Action.run_get manager), found]
  apply Action.run_zoom_of_ok
  rw [Action.bind_of_ok (Action.run_get subscriber)]
  split
  next unknown => exact Subscriber.run_connect_of_accepted (accepted unknown)
  next known =>
    rw [Subscriber.withUrl, if_pos (not_not.1 known)]
    rfl

theorem run_connectTopic_of_refused {error : PyError}
    (found : manager.subscriberDict.lookup topicName = some subscriber)
    (unknown : url ∉ subscriber.subUrls) (refused : host.refuses url = some error) :
    (connectTopic host topicName url).run manager = .error error
      { manager with
        subscriberDict := Dict.set manager.subscriberDict topicName subscriber } := by
  unfold connectTopic onSubscriber
  rw [Action.bind_of_ok (Action.run_get manager), found]
  apply Action.run_zoom_of_error
  rw [Action.bind_of_ok (Action.run_get subscriber), if_pos unknown]
  exact Subscriber.run_connect_of_refused refused unknown

/-- However it ends, the addresses are computed from the same fields. -/
theorem after_connectTopic (host : Host) (topicName : TopicName) (url : Text)
    (manager : SubscriberManager) :
    ((connectTopic host topicName url).after manager).groupName = manager.groupName ∧
      ((connectTopic host topicName url).after manager).localIp = manager.localIp := by
  cases found : manager.subscriberDict.lookup topicName with
  | none =>
      rw [Action.after_of_ok (run_connectTopic_of_absent found)]
      exact ⟨rfl, rfl⟩
  | some subscriber =>
      by_cases accepted : url ∉ subscriber.subUrls → host.refuses url = none
      · rw [Action.after_of_ok (run_connectTopic_of_accepted found accepted)]
        exact ⟨rfl, rfl⟩
      · rcases Classical.not_imp.1 accepted with ⟨unknown, refuses⟩
        rcases Option.ne_none_iff_exists'.1 refuses with ⟨error, refused⟩
        rw [Action.after_of_error (run_connectTopic_of_refused found unknown refused)]
        exact ⟨rfl, rfl⟩

end SubscriberManager

namespace Deed

variable {δ : Type}

/-- One step of an announcement. -/
def perform (faults : Faults δ) : Deed δ → Action PyError (Outside δ) Unit
  | .call handler => Outside.callUser faults handler
  | .connect topicName url =>
      Outside.onSubscribers (connectTopic (faults.host topicName) topicName url)

/-- The step raises: the handler does, or the socket is asked for an address it refuses. -/
def Fails (faults : Faults δ) (outside : Outside δ) : Deed δ → Prop
  | .call handler => faults.raises handler ≠ none
  | .connect topicName url =>
      ∃ subscriber, outside.subscribers.subscriberDict.lookup topicName = some subscriber ∧
        url ∉ subscriber.subUrls ∧ (faults.host topicName).refuses url ≠ none

/-- The handler has been called, or the topic's subscriber, if there is one, is connected. -/
def Done (outside : Outside δ) : Deed δ → Prop
  | .call handler => handler ∈ outside.called
  | .connect topicName url =>
      ∀ subscriber, outside.subscribers.subscriberDict.lookup topicName = some subscriber →
        url ∈ subscriber.subUrls

variable {faults : Faults δ} {outside next : Outside δ}

/-- What fails and what is done depends on the lookups only. -/
theorem fails_congr (same : ∀ topicName, next.subscribers.subscriberDict.lookup topicName =
      outside.subscribers.subscriberDict.lookup topicName) (deed : Deed δ) :
    Fails faults next deed ↔ Fails faults outside deed := by
  cases deed with
  | call handler => exact Iff.rfl
  | connect topicName url =>
      simp only [Fails, same]

theorem done_connect_congr (same : ∀ topicName, next.subscribers.subscriberDict.lookup topicName =
      outside.subscribers.subscriberDict.lookup topicName) (topicName : TopicName) (url : Text) :
    Done next (.connect topicName url) ↔ Done outside (.connect topicName url) := by
  simp only [Done, same]

/-- A subscriber of the topic has been connected to the address. -/
def connected (topicName : TopicName) (url : Text) (subscriber : Subscriber)
    (outside : Outside δ) : Outside δ :=
  { outside with subscribers := outside.subscribers.withTopicUrl topicName url subscriber }

section Connected

variable {topicName : TopicName} {url : Text} {subscriber : Subscriber}

theorem lookup_connected (other : TopicName) :
    (connected topicName url subscriber outside).subscribers.subscriberDict.lookup other =
      if other = topicName then some (subscriber.withUrl url)
      else outside.subscribers.subscriberDict.lookup other :=
  Dict.lookup_set _ _ _ _

variable (found : outside.subscribers.subscriberDict.lookup topicName = some subscriber)

include found in
/-- A connection that is made or there already changes nothing of what fails. -/
theorem fails_connected
    (accepted : url ∉ subscriber.subUrls → (faults.host topicName).refuses url = none)
    (deed : Deed δ) :
    Fails faults (connected topicName url subscriber outside) deed ↔ Fails faults outside deed := by
  cases deed with
  | call handler => exact Iff.rfl
  | connect otherName otherUrl =>
      simp only [Fails, lookup_connected]
      split
      next here =>
        rw [here, found]
        simp only [Option.some.injEq, exists_eq_left', (Subscriber.gains_withUrl _ _).urls, not_or]
        constructor
        · intro fails
          exact ⟨fails.1.2, fails.2⟩
        · intro fails
          refine ⟨⟨?_, fails.1⟩, fails.2⟩
          intro same
          rw [same] at fails
          exact fails.2 (accepted fails.1)
      next => exact Iff.rfl

include found in
theorem done_connected (deed : Deed δ) :
    Done (connected topicName url subscriber outside) deed ↔
      Done outside deed ∨ deed = .connect topicName url := by
  cases deed with
  | call handler => simp [Done, connected]
  | connect otherName otherUrl =>
      simp only [Done, lookup_connected, connect.injEq]
      split
      next here =>
        rw [here, found]
        simp only [Option.some.injEq, forall_eq', (Subscriber.gains_withUrl _ _).urls, true_and]
        exact or_comm
      next elsewhere => simp [elsewhere]

end Connected

theorem attempts_call (outside : Outside δ) (handler : δ) :
    (faults.raises handler = none → ∃ next,
      (perform faults (.call handler)).run outside = .ok ⟨⟩ next ∧
      (∀ deed, Fails faults next deed ↔ Fails faults outside deed) ∧
      ∀ deed, Done next deed ↔ Done outside deed ∨ deed = .call handler) ∧
    (∀ error, faults.raises handler = some error → ∃ next,
      (perform faults (.call handler)).run outside = .error error next ∧
      ∀ deed, ¬ Fails faults outside deed → (Done next deed ↔ Done outside deed)) := by
  have called : ∀ deed : Deed δ,
      Done { outside with called := outside.called ++ [handler] } deed ↔
        Done outside deed ∨ deed = .call handler := by
    intro deed
    cases deed with
    | call other => simp [Done]
    | connect topicName url => simp [Done]
  constructor
  · intro returns
    refine ⟨{ outside with called := outside.called ++ [handler] }, ?_, ?_, called⟩
    · simp only [perform, Outside.callUser, returns]
      rfl
    · exact fails_congr fun _ => rfl
  · intro error raises
    refine ⟨{ outside with called := outside.called ++ [handler] }, ?_, ?_⟩
    · simp only [perform, Outside.callUser, raises]
      rfl
    · intro deed succeeds
      rw [called deed, or_iff_left]
      rintro rfl
      apply succeeds
      rw [Fails, raises]
      exact nofun

theorem connect_returns {outside : Outside δ} {topicName : TopicName} {url : Text}
    (succeeds : ¬ Fails faults outside (.connect topicName url)) :
    ∃ next, (perform faults (.connect topicName url)).run outside = .ok ⟨⟩ next ∧
      (∀ deed, Fails faults next deed ↔ Fails faults outside deed) ∧
      ∀ deed, Done next deed ↔ Done outside deed ∨ deed = .connect topicName url := by
  cases found : outside.subscribers.subscriberDict.lookup topicName with
  | none =>
      refine ⟨outside, ?_, fun _ => Iff.rfl, ?_⟩
      · exact Action.run_zoom_of_ok (run_connectTopic_of_absent found)
      · intro deed
        constructor
        · exact Or.inl
        · rintro (done | rfl)
          · exact done
          · intro subscriber present
            rw [found] at present
            cases present
  | some subscriber =>
      have accepted : url ∉ subscriber.subUrls →
          (faults.host topicName).refuses url = none := by
        intro unknown
        by_contra refuses
        exact succeeds ⟨subscriber, found, unknown, refuses⟩
      refine ⟨connected topicName url subscriber outside, ?_, ?_, ?_⟩
      · exact Action.run_zoom_of_ok (run_connectTopic_of_accepted found accepted)
      · exact fails_connected found accepted
      · exact done_connected found

theorem connect_raises {outside : Outside δ} {topicName : TopicName} {url : Text}
    (fails : Fails faults outside (.connect topicName url)) :
    ∃ error next, (perform faults (.connect topicName url)).run outside = .error error next ∧
      ∀ deed, ¬ Fails faults outside deed → (Done next deed ↔ Done outside deed) := by
  rcases fails with ⟨subscriber, found, unknown, refuses⟩
  rcases Option.ne_none_iff_exists'.1 refuses with ⟨error, refused⟩
  refine ⟨error, _, Action.run_zoom_of_error
    (run_connectTopic_of_refused found unknown refused), ?_⟩
  intro deed _
  cases deed with
  | call handler => exact Iff.rfl
  | connect otherName otherUrl =>
      apply done_connect_congr
      intro other
      simp only [Dict.lookup_set]
      split
      next here => rw [here, found]
      next => rfl

/-- An announcement's steps are attempted one by one. -/
theorem attempts (faults : Faults δ) :
    Action.Attempts (perform faults) (Fails faults) Done where
  returns := by
    intro outside deed succeeds
    cases deed with
    | call handler => exact (attempts_call outside handler).1 (not_not.1 succeeds)
    | connect topicName url => exact connect_returns succeeds
  raises := by
    intro outside deed fails
    cases deed with
    | call handler =>
        rcases Option.ne_none_iff_exists'.1 fails with ⟨error, raises⟩
        rcases (attempts_call outside handler).2 error raises with ⟨next, ran, left⟩
        exact ⟨error, next, ran, left⟩
    | connect topicName url => exact connect_raises fails

end Deed

/-! ## What an update owes -/

section Updates

variable {δ : Type}

/-- The addresses a manager computes are those of another. -/
def SameAddresses (subscribers : SubscriberManager) (outside : Outside δ) : Prop :=
  outside.subscribers.groupName = subscribers.groupName ∧
    outside.subscribers.localIp = subscribers.localIp

theorem SameAddresses.getConnectUrl {subscribers : SubscriberManager} {outside : Outside δ}
    (same : SameAddresses subscribers outside) (host : Host) (info : SocketInfo) :
    outside.subscribers.getConnectUrl host info = subscribers.getConnectUrl host info := by
  unfold SubscriberManager.getConnectUrl ipcUrl ipcPath
  rw [same.1, same.2]

theorem SameAddresses.perform {subscribers : SubscriberManager} {faults : Faults δ} (deed : Deed δ)
    (outside : Outside δ) (same : SameAddresses subscribers outside) :
    SameAddresses subscribers ((deed.perform faults).after outside) := by
  cases deed with
  | call handler =>
      cases returns : faults.raises handler with
      | none =>
          simp only [Deed.perform, Outside.callUser, returns]
          exact same
      | some error =>
          simp only [Deed.perform, Outside.callUser, returns]
          exact same
  | connect topicName url =>
      have kept := after_connectTopic (faults.host topicName) topicName url outside.subscribers
      simp only [Deed.perform, Outside.onSubscribers, Action.after_zoom]
      exact ⟨kept.1.trans same.1, kept.2.trans same.2⟩

theorem SameAddresses.performAll {subscribers : SubscriberManager} {faults : Faults δ}
    {outside : Outside δ} (same : SameAddresses subscribers outside) (deeds : List (Deed δ)) :
    SameAddresses subscribers ((forM deeds (Deed.perform faults)).after outside) := by
  have guaranteed : Action.Guarantees
      (fun before after => SameAddresses subscribers before → SameAddresses subscribers after)
      (forM deeds (Deed.perform faults)) := by
    apply Action.guarantees_forM
    · exact fun _ => id
    · exact fun _ _ _ first second => second ∘ first
    · exact fun deed outside => SameAddresses.perform deed outside
  exact guaranteed outside same

/-- The steps one handler owes for a description. -/
def deedsOf (faults : Faults δ) (info : NodeInfo) (subscribers : SubscriberManager) :
    AnyHandler δ → List (Deed δ)
  | .user handler => [.call handler]
  | .checkNewNode => info.topics.map fun topic =>
      .connect topic.name (subscribers.getConnectUrl (faults.host topic.name) topic)

/-- The handlers registered under a key. -/
def handlersOf (manager : NodesInfoManager (AnyHandler δ)) (key : Text) : List (AnyHandler δ) :=
  ((manager.nodeUpdateEventDict.lookup key).map Event.handlers).getD []

/-- The steps an update owes: those of the handlers under `"*"` and under the node's name. -/
def owed (faults : Faults δ) (info : NodeInfo)
    (world : World (AnyHandler δ) (Outside δ)) : List (Deed δ) :=
  (handlersOf world.1 "*" ++ handlersOf world.1 info.name).flatMap
    (deedsOf faults info.bindSockets world.2.subscribers)

variable {faults : Faults δ} {info : NodeInfo} {subscribers : SubscriberManager}

/-- A handler takes the steps it owes. -/
theorem run_notify (handler : AnyHandler δ) (outside : Outside δ)
    (same : SameAddresses subscribers outside) :
    (Outside.notify faults info handler).run outside =
      (forM (deedsOf faults info subscribers handler) (Deed.perform faults)).run outside := by
  cases handler with
  | user handler =>
      rw [deedsOf, List.forM_cons, Action.run_bind]
      show (Deed.perform faults (.call handler)).run outside = _
      cases (Deed.perform faults (.call handler)).run outside <;> rfl
  | checkNewNode =>
      rw [deedsOf, List.forM_map]
      apply (Action.run_forM_zoom Outside.subscribers
        (fun part whole => { whole with subscribers := part }) (fun _ _ => rfl) (fun _ => rfl)
        (fun _ _ _ => rfl) _ _ _).symm.trans
      apply Action.run_forM_congr (SameAddresses subscribers) _ _ _ _ same
      · intro topic state holds
        exact SameAddresses.perform _ state holds
      · intro topic state holds
        simp only [Deed.perform, Outside.onSubscribers, Action.run_zoom, run_checkTopic_eq,
          holds.getConnectUrl]

theorem run_forM_notify (handlers : List (AnyHandler δ)) (outside : Outside δ)
    (same : SameAddresses subscribers outside) :
    (forM handlers (Outside.notify faults info)).run outside =
      (forM (handlers.flatMap (deedsOf faults info subscribers)) (Deed.perform faults)).run
        outside := by
  rw [Action.forM_flatMap]
  apply Action.run_forM_congr (SameAddresses subscribers) _ _ _ _ same
  · intro handler state holds
    exact holds.performAll _
  · intro handler state holds
    exact run_notify handler state holds

/-- An emission is the loop over the handlers of its key. -/
theorem run_emitUpdate_of_lookup {key : Text} {event : Event (AnyHandler δ)}
    {world : World (AnyHandler δ) (Outside δ)}
    (found : world.1.nodeUpdateEventDict.lookup key = some event) :
    (emitUpdate (callAny faults) key info).run world =
      (Action.zoom Prod.snd (fun outside part => (part.1, outside))
        (forM event.handlers (Outside.notify faults info))).run world := by
  unfold emitUpdate
  rw [Action.bind_of_ok (Action.run_get world), found]
  apply Eq.trans _ (Action.run_forM_zoom Prod.snd (fun outside part => (part.1, outside))
    (fun _ _ => rfl) (fun _ => rfl) (fun _ _ _ => rfl) _ _ _)
  apply Action.run_forM_congr (fun _ => True) _ _ _ _ trivial
  · exact fun _ _ _ => trivial
  · intro handler state _
    simp only [onHandlers, callAny, Action.run_zoom]
    cases (Outside.notify faults info handler).run state.2 <;> rfl

theorem nodeUpdateEventDict_recordUpdate (now : ℚ) (info : NodeInfo)
    (manager : NodesInfoManager (AnyHandler δ)) :
    (recordUpdate now info manager).nodeUpdateEventDict = manager.nodeUpdateEventDict := by
  unfold recordUpdate
  simp only
  split <;> rfl

/-- An emission takes the steps its handlers owe, and leaves the manager alone. -/
theorem run_emitUpdate_of_deeds (faults : Faults δ) (info : NodeInfo) {key : Text}
    {event : Event (AnyHandler δ)} {world : World (AnyHandler δ) (Outside δ)}
    (found : world.1.nodeUpdateEventDict.lookup key = some event)
    (same : SameAddresses subscribers world.2) :
    (emitUpdate (callAny faults) key info).run world =
      (Action.zoom Prod.snd (fun outside part => (part.1, outside))
        (forM ((handlersOf world.1 key).flatMap (deedsOf faults info subscribers))
          (Deed.perform faults))).run world := by
  rw [run_emitUpdate_of_lookup found, Action.run_zoom, Action.run_zoom,
    run_forM_notify event.handlers world.2 same, handlersOf, found]
  rfl

/-- The announcement under the node's name, if there are handlers for it. -/
theorem after_emitUpdate_of_name {name : Text} {world : World (AnyHandler δ) (Outside δ)}
    (same : SameAddresses subscribers world.2) :
    ((do
        let world ← get
        if name ∈ world.1.nodeUpdateEventDict then emitUpdate (callAny faults) name info :
        Action PyError (World (AnyHandler δ) (Outside δ)) Unit).after world).2 =
      (forM ((handlersOf world.1 name).flatMap (deedsOf faults info subscribers))
        (Deed.perform faults)).after world.2 := by
  rw [Action.after_bind_of_ok (Action.run_get world)]
  split
  next named =>
    rcases Dict.mem_iff_lookup.1 named with ⟨event, found⟩
    have ran := run_emitUpdate_of_deeds faults info found same
    rw [Action.after, ran, ← Action.after, Action.after_zoom]
  next unnamed =>
    rw [handlersOf, AList.lookup_eq_none.2 unnamed]
    rfl

/-- What an update does outside the registry: the steps it owes, up to one that raises. -/
theorem outside_updateNode (now : ℚ) {world : World (AnyHandler δ) (Outside δ)}
    (registered : ("*" : Text) ∈ world.1.nodeUpdateEventDict) :
    ((updateNode (callAny faults) now info).after world).2 =
      (forM (owed faults info world) (Deed.perform faults)).after world.2 := by
  have events := nodeUpdateEventDict_recordUpdate now info world.1
  rcases Dict.mem_iff_lookup.1 registered with ⟨event, found⟩
  have same : SameAddresses world.2.subscribers world.2 := ⟨rfl, rfl⟩
  have recorded : (recordUpdate now info world.1, world.2).1.nodeUpdateEventDict.lookup
      ("*" : Text) = some event := by
    rw [events, found]
  have star := run_emitUpdate_of_deeds faults info.bindSockets recorded same
  have handlers : ∀ key,
      handlersOf (recordUpdate now info world.1) key = handlersOf world.1 key := by
    intro key
    rw [handlersOf, events, handlersOf]
  unfold updateNode
  rw [Action.after_bind_of_ok (run_onManager_modify _ world), owed, List.flatMap_append,
    List.forM_append]
  rw [Action.run_zoom, handlers] at star
  generalize (handlersOf world.1 "*").flatMap
    (deedsOf faults info.bindSockets world.2.subscribers) = starDeeds at star ⊢
  cases ran : (forM starDeeds (Deed.perform faults)).run world.2 with
  | error error outside =>
      rw [ran] at star
      rw [Action.after_of_error (Action.bind_of_error star),
        Action.after_of_error (Action.bind_of_error ran)]
  | ok value outside =>
      rw [ran] at star
      rw [Action.after_bind_of_ok star, Action.after_bind_of_ok ran]
      have kept : SameAddresses world.2.subscribers
          ((forM starDeeds (Deed.perform faults)).after world.2) := same.performAll starDeeds
      rw [Action.after_of_ok ran] at kept
      rw [← handlers info.name]
      exact after_emitUpdate_of_name kept

/-- The update swallowed nothing: every step it owes was taken, apart from those that fail,
or the version is not recorded and the next heartbeat fetches the node again. -/
def NothingSwallowed (faults : Faults δ) (now : ℚ) (info : NodeInfo)
    (world : World (AnyHandler δ) (Outside δ)) : Prop :=
  (∀ deed ∈ owed faults info world, ¬ deed.Fails faults world.2 →
    deed.Done ((updateNode (callAny faults) now info).after world).2) ∨
  ((updateNode (callAny faults) now info).after world).1.checkInfo info.nodeID info.infoID = false

/-- Behind the first step that fails stand only steps that fail too, that were done before, or
that stand in front of it as well. -/
def FailsLast (faults : Faults δ) (info : NodeInfo)
    (world : World (AnyHandler δ) (Outside δ)) : Prop :=
  ∀ before failed behind,
    Action.FirstFailure (Deed.Fails faults world.2) (owed faults info world) before failed behind →
    ∀ deed ∈ behind, ¬ deed.Fails faults world.2 → deed.Done world.2 ∨ deed ∈ before

/-- The version of an update is recorded, however its announcement ends. -/
theorem checkInfo_updateNode (call : Call (AnyHandler δ) (Outside δ)) (now : ℚ) (info : NodeInfo)
    (world : World (AnyHandler δ) (Outside δ)) :
    ((updateNode call now info).after world).1.checkInfo info.nodeID info.infoID = true := by
  rw [checkInfo_eq_true, registry_updateNode]
  by_cases same : world.1.registry.Matches info.nodeID info.infoID
  · rw [Registry.record, if_pos same]
    exact same
  · rw [Registry.record, if_neg same, Registry.Matches, Registry.hear_nodesInfoId,
      Registry.lookupId_store, if_pos rfl]
    rfl

/-- An update swallows nothing if and only if its failures come last. -/
theorem nothingSwallowed_iff (faults : Faults δ) (now : ℚ) (info : NodeInfo)
    (manager : NodesInfoManager (AnyHandler δ)) (subscribers : SubscriberManager)
    (registered : ("*" : Text) ∈ manager.nodeUpdateEventDict) :
    NothingSwallowed faults now info (manager, { called := [], subscribers := subscribers }) ↔
      FailsLast faults info (manager, { called := [], subscribers := subscribers }) := by
  unfold NothingSwallowed FailsLast
  rw [checkInfo_updateNode, or_iff_left Bool.noConfusion, outside_updateNode now registered]
  exact (Deed.attempts faults).all_done_iff _ _

end Updates

/-! ## A node with a port that is no port -/

/-- A node that has subscribed to two topics, with a handler of its own for the node "b". -/
def watchingManager : NodesInfoManager (AnyHandler Nat) :=
  registerNodeUpdateHandler "b" (.user 0)
    (registerNodeUpdateHandler "*" .checkNewNode
      (NodesInfoManager.init "viewer" "10.0.0.1" "a"))

def watchingSubscribers : SubscriberManager where
  subscriberDict := Dict.set (Dict.set ∅ "chat" (Subscriber.create 0 "chat")) "image"
    (Subscriber.create 1 "image")
  detached := []
  created := 2
  groupName := "zlc"
  localIp := "10.0.0.1"

def watchingWorld : World (AnyHandler Nat) (Outside Nat) :=
  (watchingManager, { called := [], subscribers := watchingSubscribers })

/-- A node that publishes both topics. -/
def publisherNode (name : Text) (chatPort imagePort : Int) : NodeInfo where
  nodeID := "b"
  infoID := 1
  name := name
  ip := "10.0.0.2"
  topics := [{ name := "chat", ip := "", port := chatPort },
    { name := "image", ip := "", port := imagePort }]
  services := []

/-- No handler raises, and a socket refuses an address whose port is not a number of digits. -/
def portFaults : Faults Nat where
  raises := fun _ => none
  host := fun _ => {
    pathExists := fun _ => false
    refuses := fun url => if url = "tcp://10.0.0.2:-1" then some .zmqError else none }

/-- Only the last topic's port is refused, and no handler stands under the node's name. -/
theorem nothingSwallowed_of_publisherNode :
    (∃ deed ∈ owed portFaults (publisherNode "arm" 5000 (-1)) watchingWorld,
      deed.Fails portFaults watchingWorld.2) ∧
    NothingSwallowed portFaults 0 (publisherNode "arm" 5000 (-1)) watchingWorld := by
  have owes : owed portFaults (publisherNode "arm" 5000 (-1)) watchingWorld =
      [.connect "chat" "tcp://10.0.0.2:5000", .connect "image" "tcp://10.0.0.2:-1"] := by
    decide +kernel
  constructor
  · refine ⟨.connect "image" "tcp://10.0.0.2:-1", ?_, Subscriber.create 1 "image", ?_⟩
    · rw [owes]
      exact List.mem_cons_of_mem _ List.mem_cons_self
    · decide +kernel
  · apply (nothingSwallowed_iff portFaults 0 (publisherNode "arm" 5000 (-1)) watchingManager
      watchingSubscribers (by decide +kernel)).2
    intro before failed behind first deed member
    have split := owes.symm.trans first.split
    match before with
    | [] =>
        -- the first topic's connection does not fail
        have fails := first.fails
        rw [← (List.cons.inj split).1] at fails
        rcases fails with ⟨_, _, _, refused⟩
        exact absurd (by decide +kernel) refused
    | [_] =>
        rw [← (List.cons.inj (List.cons.inj split).2).2] at member
        cases member
    | _ :: _ :: _ => exact absurd (congrArg List.length split) (by simp)

/-- The first topic's port is refused: the second topic is not connected, the handler under
the node's name is not called, and the version is recorded. -/
theorem refused_port_swallows :
    ((updateNode (callAny portFaults) 0 (publisherNode "b" (-1) 5001)).after
      watchingWorld).2.called = [] ∧
    (((updateNode (callAny portFaults) 0 (publisherNode "b" (-1) 5001)).after
      watchingWorld).2.subscribers.subscriberDict.lookup ("image" : Text)).map
        Subscriber.subUrls = some [] ∧
    ¬ NothingSwallowed portFaults 0 (publisherNode "b" (-1) 5001) watchingWorld := by
  have silent : ((updateNode (callAny portFaults) 0 (publisherNode "b" (-1) 5001)).after
      watchingWorld).2.called = [] := by
    decide +kernel
  refine ⟨silent, by decide +kernel, ?_⟩
  rintro (all | refetched)
  · have owes : Deed.call 0 ∈ owed portFaults (publisherNode "b" (-1) 5001) watchingWorld := by
      decide +kernel
    have called := all (.call 0) owes (fun raises => raises rfl)
    rw [Deed.Done, silent] at called
    cases called
  · rw [checkInfo_updateNode] at refetched
    cases refetched

end Pyzlc
