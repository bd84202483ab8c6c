import Pyzlc.Nodes.RejectedReplies

/-!
# Replies that are descriptions

On the replies of nodes that answer with a description, the registry over objects does what
the registry over `NodeInfo` does: the same stored entries, versions and times, the same
handlers called, and the same exceptions out of them.
-/

namespace Pyzlc

open Foundation

namespace PyObject

variable {φ : Type}

/-- Every socket of a list gets the address. -/
theorem bindAddresses_ofSocketInfo (ip : Text) (infos : List SocketInfo) :
    bindAddresses (.ok (.str ip)) (infos.map (ofSocketInfo (φ := φ))) =
      ((infos.map fun info => { info with ip := ip }).map ofSocketInfo, none) := by
  induction infos with
  | nil => rfl
  | cons info rest ih =>
      rw [List.map_cons, bindAddresses, ih]
      rfl

/-- The loops of `update_node` bind the sockets of a description. -/
theorem bindSockets_ofNodeInfo (info : NodeInfo) :
    (ofNodeInfo info : PyObject φ).bindSockets = (ofNodeInfo info.bindSockets, none) := by
  have services : (ofNodeInfo info : PyObject φ).bindField "services" =
      (ofNodeInfo { info with
        services := info.services.map fun service => { service with ip := info.ip } }, none) := by
    show (_, _) = _
    rw [show (ofNodeInfo info : PyObject φ).item "ip" = .ok (.str info.ip) from rfl,
      bindAddresses_ofSocketInfo]
    rfl
  rw [bindSockets, services]
  show (_, _) = _
  rw [show (ofNodeInfo { info with
      services := info.services.map fun service => { service with ip := info.ip } } :
      PyObject φ).item "ip" = .ok (.str info.ip) from rfl, bindAddresses_ofSocketInfo]
  rfl

theorem namedItems_ofSocketInfo (name : Text) (infos : List SocketInfo) :
    namedItems name (infos.map (ofSocketInfo (φ := φ))) =
      .ok ((infos.filter fun info => info.name = name).map ofSocketInfo) := by
  induction infos with
  | nil => rfl
  | cons info rest ih =>
      rw [List.map_cons, namedItems, ih,
        show (ofSocketInfo info : PyObject φ).item "name" = .ok (.str info.name) from rfl]
      simp only [bind, Except.bind, pure, Except.pure, isText, List.filter_cons]
      by_cases same : info.name = name
      · simp only [same, decide_true, if_true]
        rfl
      · simp only [same, decide_false, Bool.false_eq_true, if_false]

theorem findNamed_ofSocketInfo (name : Text) (infos : List SocketInfo) :
    findNamed name (infos.map (ofSocketInfo (φ := φ))) =
      .ok ((infos.find? fun info => info.name = name).map ofSocketInfo) := by
  induction infos with
  | nil => rfl
  | cons info rest ih =>
      rw [List.map_cons, findNamed,
        show (ofSocketInfo info : PyObject φ).item "name" = .ok (.str info.name) from rfl]
      simp only [bind, Except.bind, isText, List.find?_cons]
      by_cases same : info.name = name
      · simp only [same, decide_true, if_true]
        rfl
      · simp only [same, decide_false, Bool.false_eq_true, if_false]
        exact ih

end PyObject

namespace Untyped

open PyObject

variable {η ω φ μ ν : Type}

/-- Texts are one key if they are the same text, integers are equal if they are the same. -/
structure Plain (equality : PyEquality φ) : Prop where
  text : ∀ first second, equality.sameKey (.str first) (.str second) = decide (first = second)
  integer : ∀ first second, equality.equal (.int first) (.int second) = decide (first = second)

variable {equality : PyEquality φ}

/-! ## Dictionaries under texts -/

/-- The entries of a dictionary under texts, as objects. -/
def ofEntries (image : ν → μ) (entries : List (Sigma fun _ : Text => ν)) :
    List (PyObject φ × μ) :=
  entries.map fun entry => (.str entry.1, image entry.2)

theorem find_ofEntries (plain : Plain equality) (image : ν → μ) (key : Text)
    (entries : List (Sigma fun _ : Text => ν)) :
    Entries.find (equality.sameKey (.str key)) (ofEntries image entries) =
      (entries.dlookup key).map image := by
  induction entries with
  | nil => rfl
  | cons entry rest ih =>
      rw [ofEntries, List.map_cons, Entries.find, plain.text]
      by_cases same : key = entry.1
      · cases same
        rw [if_pos (decide_eq_true rfl), List.dlookup_cons_eq]
        rfl
      · rw [if_neg (by simpa using same), List.dlookup_cons_ne _ _ same]
        exact ih

/-- A store under a text, in place or at the end. -/
theorem put_ofEntries (plain : Plain equality) (image : ν → μ) (key : Text) (value : ν)
    (entries : List (Sigma fun _ : Text => ν)) :
    Entries.put (equality.sameKey (.str key)) (.str key) (image value) (ofEntries image entries) =
      ofEntries image
        (if key ∈ entries.keys then entries.kreplace key value else entries ++ [⟨key, value⟩]) := by
  induction entries with
  | nil => rfl
  | cons entry rest ih =>
      have unfolded : ofEntries (φ := φ) image (entry :: rest) =
          (.str entry.1, image entry.2) :: ofEntries image rest := rfl
      rw [unfolded, Entries.put, plain.text]
      by_cases same : key = entry.1
      · have first : key ∈ List.keys (entry :: rest) := by
          rw [List.keys_cons, same]
          exact List.mem_cons_self
        have replaced : List.kreplace key value (entry :: rest) = ⟨key, value⟩ :: rest :=
          List.lookmap_cons_some _ _ (if_pos same)
        rw [if_pos (decide_eq_true same), if_pos first, replaced, same]
        rfl
      · have later : key ∈ List.keys (entry :: rest) ↔ key ∈ rest.keys := by
          rw [List.keys_cons, List.mem_cons]
          exact or_iff_right same
        rw [if_neg (by simpa using same), ih]
        by_cases present : key ∈ rest.keys
        · have kept : List.kreplace key value (entry :: rest) =
              entry :: List.kreplace key value rest :=
            List.lookmap_cons_none _ _ (if_neg same)
          rw [if_pos present, if_pos (later.2 present), kept]
          rfl
        · rw [if_neg present, if_neg (present ∘ later.1)]
          rfl

theorem put_ofDict (plain : Plain equality) (image : ν → μ) (key : Text) (value : ν)
    (dict : Dict Text ν) :
    Entries.put (equality.sameKey (.str key)) (.str key) (image value)
        (ofEntries image dict.entries) =
      ofEntries image (Dict.set dict key value).entries := by
  rw [put_ofEntries plain, Dict.set]
  by_cases present : key ∈ dict
  · rw [dif_pos present]
    exact congrArg (ofEntries image) (if_pos present)
  · rw [dif_neg present]
    exact congrArg (ofEntries image) (if_neg present)

namespace NodesInfoManager

/-- A registry of descriptions, as a registry of objects. -/
def ofTyped (manager : Pyzlc.NodesInfoManager η) : NodesInfoManager η φ where
  running := manager.running
  nodesInfo := ofEntries ofNodeInfo manager.nodesInfo.entries
  nodesInfoId := ofEntries .int manager.nodesInfoId.entries
  nodesHeartbeat := ofEntries id manager.nodesHeartbeat.entries
  unreplyedHeartbeats := manager.unreplyedHeartbeats
  localNodeInfo := manager.localNodeInfo
  nodeUpdateEventDict := manager.nodeUpdateEventDict

/-! ## Updates -/

theorem checkInfo_ofTyped (plain : Plain equality) (manager : Pyzlc.NodesInfoManager η)
    (nodeId : HashIdentifier) (infoId : Int) :
    (ofTyped manager).checkInfo equality (.str nodeId) (.int infoId) =
      manager.checkInfo nodeId infoId := by
  rw [checkInfo, ofTyped, find_ofEntries plain, Option.getD_map, plain.integer]
  rfl

theorem identify_ofTyped (equality : PyEquality φ) (manager : Pyzlc.NodesInfoManager η)
    (info : NodeInfo) :
    (ofTyped manager).identify equality (ofNodeInfo info) =
      .ok (.str info.nodeID, .int info.infoID) := by
  have name : (ofNodeInfo info : PyObject φ).item "name" = .ok (.str info.name) := rfl
  have version : (ofNodeInfo info : PyObject φ).item "infoID" = .ok (.int info.infoID) := rfl
  show (do
    if (ofTyped manager).checkNode equality (.str info.nodeID) = false then
      let _ ← (ofNodeInfo info : PyObject φ).item "name"
    let infoId ← (ofNodeInfo info : PyObject φ).item "infoID"
    return (PyObject.str info.nodeID, infoId)) = _
  rw [name, version]
  split <;> rfl

/-- What is stored of a description, and when. -/
theorem hear_store_ofTyped (plain : Plain equality) (now : ℚ) (info : NodeInfo)
    (manager : Pyzlc.NodesInfoManager η) :
    ((ofTyped manager).store equality (.str info.nodeID) (.int info.infoID)
        (ofNodeInfo info.bindSockets)).hear equality now (.str info.nodeID) =
      ofTyped (Pyzlc.NodesInfoManager.recordUpdate now info manager) := by
  rw [store, checkInfo_ofTyped plain, Pyzlc.NodesInfoManager.recordUpdate]
  have times := put_ofDict plain (id : ℚ → ℚ) info.nodeID now manager.nodesHeartbeat
  split
  next recorded =>
    simp only [hear, ofTyped]
    rw [← times]
    rfl
  next changed =>
    simp only [hear, ofTyped]
    rw [← times, ← put_ofDict plain ofNodeInfo, ← put_ofDict plain PyObject.int]
    rfl

variable {call : Pyzlc.NodesInfoManager.Call η ω} {objectCall : Call η ω φ}

/-- The result of an action of the registry of descriptions, on the registry of objects. -/
def mapWorld : EStateM.Result PyError (Pyzlc.NodesInfoManager.World η ω) Unit →
    EStateM.Result PyError (World η ω φ) Unit
  | .ok value world => .ok value (ofTyped world.1, world.2)
  | .error error world => .error error (ofTyped world.1, world.2)

/-- An event of the registry runs its handlers on the part they see. -/
theorem run_emitUpdate_typed
    (same : ∀ handler info, objectCall handler (ofNodeInfo info) = call handler info) (key : Text)
    (info : NodeInfo) (world : Pyzlc.NodesInfoManager.World η ω) :
    (Pyzlc.NodesInfoManager.emitUpdate call key info).run world =
      (Pyzlc.NodesInfoManager.onHandlers (emitUpdate objectCall key (ofNodeInfo info))).run
        world := by
  rw [Pyzlc.NodesInfoManager.emitUpdate, Action.bind_of_ok (Action.run_get world),
    Pyzlc.NodesInfoManager.onHandlers, Action.run_zoom, emitUpdate,
    Action.bind_of_ok (Action.run_get _)]
  cases world.1.nodeUpdateEventDict.lookup key with
  | none => rfl
  | some event =>
      have loop : event.emit objectCall (ofNodeInfo info) =
          forM event.handlers fun handler => call handler info := by
        delta Event.emit
        simp only [same]
      simp only [loop]
      exact Action.run_forM_zoom
        (fun world : Pyzlc.NodesInfoManager.World η ω => (world.1.nodeUpdateEventDict, world.2))
        (fun part world => ({ world.1 with nodeUpdateEventDict := part.1 }, part.2))
        (fun _ _ => rfl) (fun _ => rfl) (fun _ _ _ => rfl) (fun handler => call handler info)
        event.handlers world

/-- The last lines of `update_node` run on the part the handlers see. -/
theorem run_announce_typed
    (same : ∀ handler info, objectCall handler (ofNodeInfo info) = call handler info)
    (info : NodeInfo) (world : Pyzlc.NodesInfoManager.World η ω) :
    (do
      Pyzlc.NodesInfoManager.emitUpdate call "*" info
      let current ← get
      if info.name ∈ current.1.nodeUpdateEventDict then
        Pyzlc.NodesInfoManager.emitUpdate call info.name info).run world =
      (Pyzlc.NodesInfoManager.onHandlers (announce objectCall (ofNodeInfo info))).run world := by
  have emitted := run_emitUpdate_typed same "*" info world
  rw [Pyzlc.NodesInfoManager.onHandlers, Action.run_zoom] at emitted ⊢
  rw [Action.run_bind, emitted, announce, Action.run_bind]
  cases (emitUpdate objectCall "*" (ofNodeInfo info)).run
      (world.1.nodeUpdateEventDict, world.2) with
  | error error part => rfl
  | ok value part =>
      have name : (MonadExcept.ofExcept ((ofNodeInfo info : PyObject φ).item "name") :
          Action PyError (Dict Text (Event η) × ω) (PyObject φ)) = pure (.str info.name) := rfl
      rw [name]
      show (if info.name ∈ part.1 then
          Pyzlc.NodesInfoManager.emitUpdate call info.name info else pure ()).run
            ({ world.1 with nodeUpdateEventDict := part.1 }, part.2) =
        (Pyzlc.NodesInfoManager.onHandlers (if info.name ∈ part.1 then
          emitUpdate objectCall info.name (ofNodeInfo info) else pure ())).run
            ({ world.1 with nodeUpdateEventDict := part.1 }, part.2)
      split
      next => exact run_emitUpdate_typed same info.name info _
      next => rfl

theorem run_onHandlers_ofTyped (action : Action PyError (Dict Text (Event η) × ω) Unit)
    (world : Pyzlc.NodesInfoManager.World η ω) :
    (onHandlers action).run (ofTyped (φ := φ) world.1, world.2) =
      mapWorld ((Pyzlc.NodesInfoManager.onHandlers action).run world) := by
  rw [onHandlers, Pyzlc.NodesInfoManager.onHandlers, Action.run_zoom, Action.run_zoom]
  have sameEvents : (ofTyped (φ := φ) world.1).nodeUpdateEventDict =
      world.1.nodeUpdateEventDict := rfl
  rw [sameEvents]
  cases action.run (world.1.nodeUpdateEventDict, world.2) with
  | ok value part => rfl
  | error error part => rfl

/-- On the description of a node, the registry over objects does what the registry over
descriptions does. -/
theorem run_updateNode_ofTyped (plain : Plain equality)
    (same : ∀ handler info, objectCall handler (ofNodeInfo info) = call handler info) (now : ℚ)
    (info : NodeInfo) (world : Pyzlc.NodesInfoManager.World η ω) :
    (updateNode equality objectCall now (ofNodeInfo info)).run (ofTyped world.1, world.2) =
      mapWorld ((Pyzlc.NodesInfoManager.updateNode call now info).run world) := by
  have identified : (ofTyped world.1, world.2).1.identify equality (ofNodeInfo info) =
      .ok (.str info.nodeID, .int info.infoID) := identify_ofTyped equality world.1 info
  have untyped := run_updateNode_of_identified objectCall now identified
  rw [bindSockets_ofNodeInfo] at untyped
  simp only [hear_store_ofTyped plain] at untyped
  rw [untyped, Pyzlc.NodesInfoManager.updateNode,
    Action.bind_of_ok (Pyzlc.NodesInfoManager.run_onManager_modify _ world)]
  refine (run_onHandlers_ofTyped (announce objectCall (ofNodeInfo info.bindSockets))
    (Pyzlc.NodesInfoManager.recordUpdate now info world.1, world.2)).trans ?_
  exact congrArg mapWorld (run_announce_typed same info.bindSockets _).symm

/-! ## Lookups -/

theorem getPublisherInfo_ofTyped (manager : Pyzlc.NodesInfoManager η) (topicName : TopicName) :
    (ofTyped (φ := φ) manager).getPublisherInfo topicName =
      .ok ((manager.getPublisherInfo topicName).map ofSocketInfo) := by
  have remote : ∀ entries : List (Sigma fun _ : Text => NodeInfo),
      remotePublishers topicName (ofEntries (φ := φ) ofNodeInfo entries) =
        .ok (((entries.map fun entry => entry.2).flatMap fun info =>
          info.topics.filter fun topic => topic.name = topicName).map ofSocketInfo) := by
    intro entries
    induction entries with
    | nil => rfl
    | cons entry rest ih =>
        have unfolded : ofEntries (φ := φ) (ofNodeInfo (φ := φ)) (entry :: rest) =
            (.str entry.1, ofNodeInfo entry.2) :: ofEntries ofNodeInfo rest := rfl
        have topics : (ofNodeInfo entry.2 : PyObject φ).sockets "topics" =
            .ok (entry.2.topics.map ofSocketInfo) := rfl
        rw [unfolded, remotePublishers, ih, topics]
        simp only [bind, Except.bind, namedItems_ofSocketInfo, List.map_cons, List.flatMap_cons,
          List.map_append]
        rfl
  rw [getPublisherInfo, ofTyped, remote, Pyzlc.NodesInfoManager.getPublisherInfo, List.map_append]
  rfl

theorem getServiceInfo_ofTyped (manager : Pyzlc.NodesInfoManager η) (serviceName : Text) :
    (ofTyped (φ := φ) manager).getServiceInfo serviceName =
      .ok ((manager.getServiceInfo serviceName).map ofSocketInfo) := by
  have remote : ∀ entries : List (Sigma fun _ : Text => NodeInfo),
      remoteService serviceName (ofEntries (φ := φ) ofNodeInfo entries) =
        .ok (((entries.map fun entry => entry.2).findSome? fun info =>
          info.services.find? fun service => service.name = serviceName).map ofSocketInfo) := by
    intro entries
    induction entries with
    | nil => rfl
    | cons entry rest ih =>
        have unfolded : ofEntries (φ := φ) (ofNodeInfo (φ := φ)) (entry :: rest) =
            (.str entry.1, ofNodeInfo entry.2) :: ofEntries ofNodeInfo rest := rfl
        rw [unfolded, remoteService, show (ofNodeInfo entry.2 : PyObject φ).sockets "services" =
          .ok (entry.2.services.map ofSocketInfo) from rfl]
        simp only [bind, Except.bind, findNamed_ofSocketInfo, List.map_cons, List.findSome?_cons]
        cases entry.2.services.find? fun service => service.name = serviceName with
        | none => exact ih
        | some service => rfl
  rw [getServiceInfo, ofTyped, remote, Pyzlc.NodesInfoManager.getServiceInfo, Dict.values]
  cases (manager.nodesInfo.entries.map fun entry => entry.2).findSome? fun info =>
      info.services.find? fun service => service.name = serviceName with
  | none => rfl
  | some service => rfl

end NodesInfoManager

end Untyped

end Pyzlc
