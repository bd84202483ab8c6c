import Mathlib.Data.Fintype.EquivFin
import Pyzlc.Nodes.UntypedRegistry

/-!
# Rejected replies

`update_node` stores a description and its version before it has gone through the other
fields.  A reply that is refused by the accesses before, that brings the recorded version, or
that is a description as a whole leaves a registry in which every lookup returns; any other
one is stored before the exception and breaks the lookups of the process.
-/

namespace Pyzlc

open Foundation

namespace PyObject

variable {φ : Type} {nodeInfo ip : PyObject φ} {items : List (PyObject φ)} {field name : Text}

/-! ## Descriptions that can be read -/

/-- Every item has a name. -/
def HasNames (items : List (PyObject φ)) : Prop :=
  ∀ item ∈ items, ∃ name, item.item "name" = .ok name

/-- A loop over the sockets of a description finds names. -/
def NamedSockets (field : Text) (nodeInfo : PyObject φ) : Prop :=
  ∃ items, nodeInfo.sockets field = .ok items ∧ HasNames items

/-- A description that the lookups can go through. -/
structure Readable (nodeInfo : PyObject φ) : Prop where
  name : ∃ name, nodeInfo.item "name" = .ok name
  topics : NamedSockets "topics" nodeInfo
  services : NamedSockets "services" nodeInfo

theorem hasNames_cons {item : PyObject φ} {rest : List (PyObject φ)} :
    HasNames (item :: rest) ↔ (∃ name, item.item "name" = .ok name) ∧ HasNames rest :=
  List.forall_mem_cons

theorem namedSockets_of_eq (iterated : nodeInfo.sockets field = .ok items) :
    NamedSockets field nodeInfo ↔ HasNames items := by
  constructor
  · intro found
    rcases found with ⟨others, same, named⟩
    cases iterated.symm.trans same
    exact named
  · intro named
    exact ⟨items, iterated, named⟩

theorem namedSockets_congr {other : PyObject φ} (same : nodeInfo.item field = other.item field) :
    NamedSockets field nodeInfo ↔ NamedSockets field other := by
  rw [NamedSockets, NamedSockets, sockets, sockets, same]

/-- Going through all items takes a name of each. -/
theorem namedItems_returns_iff (name : Text) :
    (∃ found, namedItems name items = .ok found) ↔ HasNames items := by
  induction items with
  | nil => exact iff_of_true ⟨[], rfl⟩ nofun
  | cons item rest ih =>
      rw [hasNames_cons, ← ih, namedItems]
      cases item.item "name" with
      | error error => exact iff_of_false nofun (fun both => nomatch both.1)
      | ok value =>
          cases namedItems name rest with
          | error error => exact iff_of_false nofun (fun both => nomatch both.2)
          | ok others => exact iff_of_true ⟨_, rfl⟩ ⟨⟨value, rfl⟩, others, rfl⟩

theorem isText_eq_true {object : PyObject φ} : object.isText name = true ↔ object = .str name := by
  cases object with
  | str value =>
      rw [isText, decide_eq_true_iff]
      exact ⟨congrArg str, PyObject.str.inj⟩
  | nil | bool | int | float | bytes | list | dict | extType | timestamp =>
      exact iff_of_false nofun nofun

theorem findNamed_of_hasNames (name : Text) (named : HasNames items) :
    ∃ found, findNamed name items = .ok found := by
  induction items with
  | nil => exact ⟨none, rfl⟩
  | cons item rest ih =>
      rcases hasNames_cons.1 named with ⟨⟨value, present⟩, others⟩
      rcases ih others with ⟨found, returned⟩
      rw [findNamed, present]
      cases same : value.isText name with
      | true => exact ⟨some item, by simp only [bind, Except.bind, same, if_true]; rfl⟩
      | false =>
          refine ⟨found, ?_⟩
          simp only [bind, Except.bind, same, Bool.false_eq_true, if_false]
          exact returned

/-- A search for a name that no item has goes through all items. -/
theorem hasNames_of_findNamed {found : Option (PyObject φ)}
    (fresh : ∀ item ∈ items, item.item "name" ≠ .ok (.str name))
    (returned : findNamed name items = .ok found) : HasNames items ∧ found = none := by
  induction items with
  | nil =>
      cases returned
      exact ⟨nofun, rfl⟩
  | cons item rest ih =>
      rw [findNamed] at returned
      cases present : item.item "name" with
      | error error =>
          rw [present] at returned
          cases returned
      | ok value =>
          have different : value.isText name = false := by
            apply Bool.eq_false_of_not_eq_true
            intro same
            rw [isText_eq_true.1 same] at present
            exact fresh item List.mem_cons_self present
          simp only [present, bind, Except.bind, different, Bool.false_eq_true, if_false]
            at returned
          rcases ih (fun other member => fresh other (List.mem_cons_of_mem _ member)) returned with
            ⟨named, nothing⟩
          exact ⟨hasNames_cons.2 ⟨⟨value, present⟩, named⟩, nothing⟩

/-- The name of an item, if it has one that is a text. -/
def textName (item : PyObject φ) : Option Text :=
  match item.item "name" with
  | .ok (.str name) => some name
  | _ => none

/-- Some name is no item's. -/
theorem exists_fresh_name (items : List (PyObject φ)) :
    ∃ name : Text, ∀ item ∈ items, item.item "name" ≠ .ok (.str name) := by
  rcases Infinite.exists_notMem_finset (items.filterMap textName).toFinset with ⟨name, fresh⟩
  refine ⟨name, ?_⟩
  intro item member present
  apply fresh
  rw [List.mem_toFinset, List.mem_filterMap]
  exact ⟨item, member, by rw [textName, present]⟩

/-- The description of a node can be read. -/
theorem readable_ofNodeInfo (info : NodeInfo) : (ofNodeInfo info : PyObject φ).Readable := by
  have named : ∀ infos : List SocketInfo,
      HasNames (infos.map ofSocketInfo : List (PyObject φ)) := by
    intro infos item member
    rcases List.mem_map.1 member with ⟨socket, _, rfl⟩
    exact ⟨.str socket.name, rfl⟩
  exact ⟨⟨.str info.name, rfl⟩, ⟨_, rfl, named info.topics⟩, ⟨_, rfl, named info.services⟩⟩

/-! ## Addresses written to sockets -/

/-- An address leaves the names. -/
theorem hasNames_bindAddresses (ip : Except PyError (PyObject φ)) :
    HasNames (bindAddresses ip items).1 ↔ HasNames items := by
  induction items with
  | nil => exact Iff.rfl
  | cons item rest ih =>
      rw [bindAddresses]
      split
      next => exact Iff.rfl
      next bound stored =>
        cases ip with
        | error error => cases stored
        | ok ip =>
            rw [hasNames_cons, hasNames_cons, ih, item_setItem_of_ne (by decide) stored]

/-- Items with names are dictionaries, which can be given an address. -/
theorem bindAddresses_returns (ip : PyObject φ) (named : HasNames items) :
    (bindAddresses (.ok ip) items).2 = none := by
  induction items with
  | nil => rfl
  | cons item rest ih =>
      rcases hasNames_cons.1 named with ⟨⟨name, present⟩, others⟩
      rcases exists_setItem_of_item present "ip" ip with ⟨bound, stored⟩
      simp only [bindAddresses, bind, Except.bind, stored]
      exact ih others

theorem item_bindField_of_ne {other : Text} (different : other ≠ field) (nodeInfo : PyObject φ) :
    (nodeInfo.bindField field).1.item other = nodeInfo.item other := by
  cases nodeInfo with
  | dict entries =>
      rw [bindField]
      split
      next => rfl
      next items found =>
        have stored : (dict entries).setItem field
            (.list (bindAddresses ((dict entries).item "ip") items).1) =
            .ok (.dict (Entries.put (· = PyKey.str field) (.str field)
              (.list (bindAddresses ((dict entries).item "ip") items).1) entries)) := rfl
        exact item_setItem_of_ne different stored
      next =>
        split
        next => rfl
        next => rfl
  | nil | bool | int | float | str | bytes | list | extType | timestamp => rfl

/-- The loop over a field leaves the names of its sockets. -/
theorem namedSockets_bindField (nodeInfo : PyObject φ) :
    NamedSockets field (nodeInfo.bindField field).1 ↔ NamedSockets field nodeInfo := by
  cases nodeInfo with
  | dict entries =>
      rw [bindField]
      split
      next => exact Iff.rfl
      next items found =>
        have before : (dict entries).sockets field = .ok items := by
          rw [sockets, item_dict_eq_ok.2 found]
          rfl
        have stored : (dict entries).setItem field
            (.list (bindAddresses ((dict entries).item "ip") items).1) =
            .ok (.dict (Entries.put (· = PyKey.str field) (.str field)
              (.list (bindAddresses ((dict entries).item "ip") items).1) entries)) := rfl
        have after : (dict (Entries.put (· = PyKey.str field) (.str field)
            (.list (bindAddresses ((dict entries).item "ip") items).1) entries)).sockets field =
            .ok (bindAddresses ((dict entries).item "ip") items).1 := by
          rw [sockets, item_setItem_self stored]
          rfl
        rw [namedSockets_of_eq before, namedSockets_of_eq after, hasNames_bindAddresses]
      next =>
        split
        next => exact Iff.rfl
        next => exact Iff.rfl
  | nil | bool | int | float | str | bytes | list | extType | timestamp => exact Iff.rfl

/-- The items that are not a list's have no names, so with names there are none. -/
theorem bindField_returns (withIp : nodeInfo.item "ip" = .ok ip)
    (named : NamedSockets field nodeInfo) : (nodeInfo.bindField field).2 = none := by
  rcases named with ⟨items, iterated, named⟩
  have returned := bindAddresses_returns ip named
  rw [sockets] at iterated
  cases present : nodeInfo.item field with
  | error error =>
      rw [present] at iterated
      cases iterated
  | ok sockets =>
      rw [present] at iterated
      replace iterated : sockets.iterate = .ok items := iterated
      rcases exists_entries_of_item present with ⟨entries, rfl, found⟩
      rw [bindField, found, withIp]
      cases sockets with
      | list => cases iterated; exact returned
      | str | bytes | dict | extType =>
          simp only [iterated]
          exact returned
      | nil | bool | int | float | timestamp => cases iterated

theorem readable_bindField (field : Text) (notName : ("name" : Text) ≠ field)
    (nodeInfo : PyObject φ) :
    (nodeInfo.bindField field).1.Readable ↔ nodeInfo.Readable := by
  have named : ∀ other : Text,
      NamedSockets other (nodeInfo.bindField field).1 ↔ NamedSockets other nodeInfo := by
    intro other
    by_cases same : other = field
    · rw [same]
      exact namedSockets_bindField nodeInfo
    · exact namedSockets_congr (item_bindField_of_ne same nodeInfo)
  have sameName := item_bindField_of_ne notName nodeInfo
  constructor
  · intro readable
    exact ⟨sameName ▸ readable.name, (named _).1 readable.topics, (named _).1 readable.services⟩
  · intro readable
    exact ⟨sameName ▸ readable.name, (named _).2 readable.topics, (named _).2 readable.services⟩

/-- Whatever becomes of the loops, they leave a description as readable as it was. -/
theorem readable_bindSockets (nodeInfo : PyObject φ) :
    nodeInfo.bindSockets.1.Readable ↔ nodeInfo.Readable := by
  have services := readable_bindField "services" (by decide) nodeInfo
  rw [bindSockets]
  split
  next bound same =>
    rw [same] at services
    exact (readable_bindField "topics" (by decide) bound).trans services
  next bound error same =>
    rw [same] at services
    exact services

/-- Both loops go through a readable description. -/
theorem Readable.bindSockets_returns (readable : nodeInfo.Readable)
    (withIp : nodeInfo.item "ip" = .ok ip) : nodeInfo.bindSockets.2 = none := by
  have noFailure := bindField_returns withIp readable.services
  rw [bindSockets]
  split
  next bound same =>
    have first : (nodeInfo.bindField "services").1 = bound := congrArg Prod.fst same
    have stillIp : bound.item "ip" = .ok ip := by
      rw [← first, item_bindField_of_ne (by decide)]
      exact withIp
    have stillTopics : NamedSockets "topics" bound := by
      rw [← first, namedSockets_congr (item_bindField_of_ne (by decide) nodeInfo)]
      exact readable.topics
    exact bindField_returns stillIp stillTopics
  next bound error same =>
    rw [same] at noFailure
    cases noFailure

end PyObject

namespace Untyped

open PyObject

namespace NodesInfoManager

variable {η ω φ : Type} {equality : PyEquality φ} {manager : NodesInfoManager η φ}
  {call : Call η ω φ} {now : ℚ} {world : World η ω φ}

/-! ## Lookups -/

/-- Every description of the registry can be read. -/
def AllReadable (manager : NodesInfoManager η φ) : Prop :=
  ∀ entry ∈ manager.nodesInfo, Readable entry.2

/-- No lookup raises, whatever is looked for. -/
def SafeLookups (manager : NodesInfoManager η φ) : Prop :=
  ∀ name, (∃ publishers, manager.getPublisherInfo name = .ok publishers) ∧
    (∃ service, manager.getServiceInfo name = .ok service) ∧
    ∃ node, manager.checkNodeByName name = .ok node

/-- All publishers of all descriptions are gone through. -/
theorem remotePublishers_returns_iff (topicName : TopicName)
    {entries : List (PyObject φ × PyObject φ)} :
    (∃ publishers, remotePublishers topicName entries = .ok publishers) ↔
      ∀ entry ∈ entries, NamedSockets "topics" entry.2 := by
  induction entries with
  | nil => exact iff_of_true ⟨[], rfl⟩ nofun
  | cons entry rest ih =>
      rw [List.forall_mem_cons, ← ih, remotePublishers]
      cases iterated : entry.2.sockets "topics" with
      | error error =>
          apply iff_of_false nofun
          intro both
          rcases both.1 with ⟨items, same, _⟩
          cases iterated.symm.trans same
      | ok items =>
          rw [namedSockets_of_eq iterated, ← namedItems_returns_iff topicName]
          simp only [bind, Except.bind]
          cases namedItems topicName items with
          | error error => exact iff_of_false nofun (fun both => nomatch both.1)
          | ok found =>
              cases remotePublishers topicName rest with
              | error error => exact iff_of_false nofun (fun both => nomatch both.2)
              | ok others => exact iff_of_true ⟨_, rfl⟩ ⟨⟨found, rfl⟩, others, rfl⟩

theorem remoteService_of_named (serviceName : Text) {entries : List (PyObject φ × PyObject φ)}
    (named : ∀ entry ∈ entries, NamedSockets "services" entry.2) :
    ∃ service, remoteService serviceName entries = .ok service := by
  induction entries with
  | nil => exact ⟨none, rfl⟩
  | cons entry rest ih =>
      rcases List.forall_mem_cons.1 named with ⟨⟨items, iterated, names⟩, others⟩
      rcases findNamed_of_hasNames serviceName names with ⟨found, returned⟩
      rcases ih others with ⟨service, later⟩
      simp only [remoteService, bind, Except.bind, iterated, returned]
      cases found with
      | some service => exact ⟨some service, rfl⟩
      | none => exact ⟨service, later⟩

/-- A search for a name that no service has goes through all of them. -/
theorem named_of_remoteService {serviceName : Text} {service : Option (PyObject φ)}
    {entries : List (PyObject φ × PyObject φ)}
    (fresh : ∀ entry ∈ entries, ∀ items, entry.2.sockets "services" = .ok items →
      ∀ item ∈ items, item.item "name" ≠ .ok (.str serviceName))
    (returned : remoteService serviceName entries = .ok service) :
    ∀ entry ∈ entries, NamedSockets "services" entry.2 := by
  induction entries with
  | nil => exact nofun
  | cons entry rest ih =>
      rcases List.forall_mem_cons.1 fresh with ⟨freshFirst, freshRest⟩
      rw [remoteService] at returned
      cases iterated : entry.2.sockets "services" with
      | error error =>
          rw [iterated] at returned
          cases returned
      | ok items =>
          simp only [iterated, bind, Except.bind] at returned
          cases searched : findNamed serviceName items with
          | error error =>
              rw [searched] at returned
              cases returned
          | ok found =>
              rcases hasNames_of_findNamed (freshFirst items iterated) searched with
                ⟨names, rfl⟩
              rw [searched] at returned
              intro other member
              rcases List.mem_cons.1 member with rfl | later
              · exact (namedSockets_of_eq iterated).2 names
              · exact ih freshRest returned other later

/-- The services of an entry, as far as they can be gone through. -/
def serviceItems (entry : PyObject φ × PyObject φ) : List (PyObject φ) :=
  match entry.2.sockets "services" with
  | .ok items => items
  | .error _ => []

theorem getPublisherInfo_returns_iff (topicName : TopicName) :
    (∃ publishers, manager.getPublisherInfo topicName = .ok publishers) ↔
      ∀ entry ∈ manager.nodesInfo, NamedSockets "topics" entry.2 := by
  rw [← remotePublishers_returns_iff topicName, getPublisherInfo]
  cases remotePublishers topicName manager.nodesInfo with
  | error error => exact iff_of_false nofun nofun
  | ok remote => exact iff_of_true ⟨_, rfl⟩ ⟨remote, rfl⟩

theorem getServiceInfo_returns_iff (serviceName : Text) :
    (∃ service, manager.getServiceInfo serviceName = .ok service) ↔
      ∃ service, remoteService serviceName manager.nodesInfo = .ok service := by
  rw [getServiceInfo]
  cases remoteService serviceName manager.nodesInfo with
  | error error => exact iff_of_false nofun nofun
  | ok service =>
      cases service with
      | some found => exact iff_of_true ⟨some found, rfl⟩ ⟨_, rfl⟩
      | none => exact iff_of_true ⟨_, rfl⟩ ⟨_, rfl⟩

/-- Looking for a name that no node and no service has goes through all of them. -/
theorem SafeLookups.allReadable (safe : manager.SafeLookups) : manager.AllReadable := by
  rcases exists_fresh_name (manager.nodesInfo.map Prod.snd ++
    manager.nodesInfo.flatMap serviceItems) with ⟨name, fresh⟩
  rcases safe name with ⟨published, served, ⟨node, found⟩⟩
  have topics := (getPublisherInfo_returns_iff name).1 published
  have services : ∀ entry ∈ manager.nodesInfo, NamedSockets "services" entry.2 := by
    rcases (getServiceInfo_returns_iff name).1 served with ⟨service, returned⟩
    apply named_of_remoteService _ returned
    intro entry member items iterated item inItems
    apply fresh item
    apply List.mem_append_right
    rw [List.mem_flatMap]
    refine ⟨entry, member, ?_⟩
    rw [serviceItems, iterated]
    exact inItems
  have names := (hasNames_of_findNamed
    (fun item member => fresh item (List.mem_append_left _ member)) found).1
  intro entry member
  exact ⟨names entry.2 (List.mem_map_of_mem member), topics entry member, services entry member⟩

/-- Whatever is looked for, the lookups return exactly if all descriptions can be read. -/
theorem safeLookups_iff : manager.SafeLookups ↔ manager.AllReadable := by
  constructor
  · exact SafeLookups.allReadable
  · intro readable name
    refine ⟨?_, ?_, ?_⟩
    · apply (getPublisherInfo_returns_iff name).2
      intro entry member
      exact (readable entry member).topics
    · apply (getServiceInfo_returns_iff name).2
      apply remoteService_of_named
      intro entry member
      exact (readable entry member).services
    · apply findNamed_of_hasNames
      intro item member
      rcases List.mem_map.1 member with ⟨entry, stored, rfl⟩
      exact (readable entry stored).name

/-! ## Updates -/

/-- The two dictionaries that describe nodes. -/
def maps (manager : NodesInfoManager η φ) :
    List (PyObject φ × PyObject φ) × List (PyObject φ × PyObject φ) :=
  (manager.nodesInfo, manager.nodesInfoId)

theorem maps_onHandlers (action : Action PyError (Dict Text (Event η) × ω) Unit)
    (world : World η ω φ) : ((onHandlers action).after world).1.maps = world.1.maps := by
  rw [onHandlers, Action.after_zoom]
  rfl

theorem run_ofExcept_ok {σ β : Type} {result : Except PyError β} {value : β}
    (returned : result = .ok value) (state : σ) :
    (MonadExcept.ofExcept result : Action PyError σ β).run state = .ok value state := by
  rw [returned]
  rfl

theorem run_ofExcept_error {σ β : Type} {result : Except PyError β} {error : PyError}
    (raised : result = .error error) (state : σ) :
    (MonadExcept.ofExcept result : Action PyError σ β).run state = .error error state := by
  rw [raised]
  rfl

/-- An update that is refused changes nothing. -/
theorem run_updateNode_of_refused {nodeInfo : PyObject φ} {error : PyError}
    (refused : world.1.identify equality nodeInfo = .error error) :
    (updateNode equality call now nodeInfo).run world = .error error world := by
  rw [updateNode, Action.bind_of_ok (Action.run_get world)]
  exact Action.bind_of_error (run_ofExcept_error refused world)

/-- An update that is not refused stores, then goes on. -/
theorem run_updateNode_of_identified (call : Call η ω φ) (now : ℚ)
    {nodeInfo nodeId infoId : PyObject φ}
    (identified : world.1.identify equality nodeInfo = .ok (nodeId, infoId)) :
    (updateNode equality call now nodeInfo).run world =
      match nodeInfo.bindSockets.2 with
      | some error =>
          .error error (world.1.store equality nodeId infoId nodeInfo.bindSockets.1, world.2)
      | none =>
          (onHandlers (announce call nodeInfo.bindSockets.1)).run
            ((world.1.store equality nodeId infoId nodeInfo.bindSockets.1).hear equality now nodeId,
              world.2) := by
  rw [updateNode, Action.bind_of_ok (Action.run_get world),
    Action.bind_of_ok (run_ofExcept_ok identified world)]
  cases nodeInfo.bindSockets.2 with
  | some error => rfl
  | none => rfl

/-- However an update ends, it has stored the description if it was not refused. -/
theorem maps_updateNode (equality : PyEquality φ) (call : Call η ω φ) (now : ℚ)
    (nodeInfo : PyObject φ) (world : World η ω φ) :
    ((updateNode equality call now nodeInfo).after world).1.maps =
      match world.1.identify equality nodeInfo with
      | .error _ => world.1.maps
      | .ok identity =>
          (world.1.store equality identity.1 identity.2 nodeInfo.bindSockets.1).maps := by
  cases identified : world.1.identify equality nodeInfo with
  | error error =>
      rw [Action.after_of_error (run_updateNode_of_refused identified)]
  | ok identity =>
      have run := run_updateNode_of_identified call now identified
      cases failure : nodeInfo.bindSockets.2 with
      | some error =>
          rw [failure] at run
          rw [Action.after_of_error run]
      | none =>
          rw [failure] at run
          have announced := maps_onHandlers (announce call nodeInfo.bindSockets.1)
            ((world.1.store equality identity.1 identity.2 nodeInfo.bindSockets.1).hear equality
              now identity.1, world.2)
          rw [Action.after, run]
          exact announced

/-- With a new version, a readable registry stays so if the description can be read. -/
theorem readable_store_iff (nodeInfo : PyObject φ) {nodeId infoId : PyObject φ}
    (readable : manager.AllReadable)
    (changed : manager.checkInfo equality nodeId infoId = false) :
    (manager.store equality nodeId infoId nodeInfo).AllReadable ↔ nodeInfo.Readable := by
  have stored : manager.store equality nodeId infoId nodeInfo = { manager with
      nodesInfo := Entries.put (equality.sameKey nodeId) nodeId nodeInfo manager.nodesInfo
      nodesInfoId := Entries.put (equality.sameKey nodeId) nodeId infoId manager.nodesInfoId } :=
    if_neg (Bool.eq_false_iff.1 changed)
  rw [stored]
  constructor
  · intro all
    rcases Entries.exists_mem_put (equality.sameKey nodeId) nodeId nodeInfo manager.nodesInfo with
      ⟨entry, member, same⟩
    rw [← same]
    exact all entry member
  · intro described entry member
    rcases Entries.value_of_mem_put member with same | before
    · rw [same]
      exact described
    · exact readable entry before

theorem events_store (nodeId infoId nodeInfo : PyObject φ) (manager : NodesInfoManager η φ) :
    (manager.store equality nodeId infoId nodeInfo).nodeUpdateEventDict =
      manager.nodeUpdateEventDict := by
  rw [store]
  split <;> rfl

/-! ## Replies that leave the registry readable -/

/-- The update handlers return for a description. -/
def Taken (call : Call η ω φ) (world : World η ω φ) (nodeInfo : PyObject φ) : Prop :=
  ∃ part, (announce call nodeInfo.bindSockets.1).run (world.1.nodeUpdateEventDict, world.2) =
    .ok ⟨⟩ part

/-- A description that is refused, that brings the recorded version, or that can be read; and
a new one is taken by the update handlers, unless storing it changes nothing. -/
def Acceptable (equality : PyEquality φ) (call : Call η ω φ) (world : World η ω φ)
    (nodeInfo : PyObject φ) : Prop :=
  ∀ nodeId infoId, world.1.identify equality nodeInfo = .ok (nodeId, infoId) →
    world.1.checkInfo equality nodeId infoId = false →
    nodeInfo.Readable ∧ (Taken call world nodeInfo ∨
      (world.1.store equality nodeId infoId nodeInfo.bindSockets.1).maps = world.1.maps)

/-- A reply that is no dictionary, or one that is acceptable with the address it came from. -/
def AcceptableReply (equality : PyEquality φ) (call : Call η ω φ) (world : World η ω φ)
    (nodeIp : Text) : FetchResult φ → Prop
  | .raised => True
  | .value result => ∀ nodeInfo, result.setItem "ip" (.str nodeIp) = .ok nodeInfo →
      Acceptable equality call world nodeInfo

/-- The update with a readable description returns exactly if the handlers do. -/
theorem updateNode_returns_iff (call : Call η ω φ) (now : ℚ)
    {nodeInfo ip nodeId infoId : PyObject φ}
    (readable : nodeInfo.Readable) (withIp : nodeInfo.item "ip" = .ok ip)
    (identified : world.1.identify equality nodeInfo = .ok (nodeId, infoId)) :
    (∃ next, (updateNode equality call now nodeInfo).run world = .ok ⟨⟩ next) ↔
      Taken call world nodeInfo := by
  have run := run_updateNode_of_identified call now identified
  have events : ((world.1.store equality nodeId infoId nodeInfo.bindSockets.1).hear equality now
      nodeId).nodeUpdateEventDict = world.1.nodeUpdateEventDict := events_store _ _ _ _
  simp only [readable.bindSockets_returns withIp, onHandlers, Action.run_zoom, events] at run
  rw [run, Taken]
  cases (announce call nodeInfo.bindSockets.1).run (world.1.nodeUpdateEventDict, world.2) with
  | ok value part => exact iff_of_true ⟨_, rfl⟩ ⟨part, rfl⟩
  | error error part => exact iff_of_false nofun nofun

/-- What `handle_heartbeat_async` does with a reply that is a dictionary. -/
theorem run_resume_dict (equality : PyEquality φ) (call : Call η ω φ) (now : ℚ)
    (world : World η ω φ) (message : HeartbeatMessage) (nodeIp : Text)
    {result nodeInfo : PyObject φ}
    (bound : result.setItem "ip" (.str nodeIp) = .ok nodeInfo) :
    (handleHeartbeatResume equality call now message nodeIp (.value result)).run world =
      match (updateNode equality call now nodeInfo).run world with
      | .error error next => .error error next
      | .ok _ next =>
          let replied : NodesInfoManager η φ := { next.1 with
            unreplyedHeartbeats := next.1.unreplyedHeartbeats.erase message.nodeId }
          match nodeInfo.item "name" with
          | .error error => .error error (replied, next.2)
          | .ok _ => .ok ⟨⟩ (replied, next.2) := by
  cases result with
  | dict entries =>
      refine (Action.bind_of_ok (run_ofExcept_ok bound world)).trans ?_
      rw [Action.run_bind]
      cases (updateNode equality call now nodeInfo).run world with
      | error error next => rfl
      | ok value next =>
          cases nodeInfo.item "name" with
          | error error => rfl
          | ok name => rfl
  | nil | bool | int | float | str | bytes | list | extType | timestamp => cases bound

/-- However a reply is processed, the descriptions are those its update leaves. -/
theorem maps_resume (message : HeartbeatMessage) (nodeIp : Text) {result nodeInfo : PyObject φ}
    (bound : result.setItem "ip" (.str nodeIp) = .ok nodeInfo) :
    ((handleHeartbeatResume equality call now message nodeIp (.value result)).after world).1.maps =
      ((updateNode equality call now nodeInfo).after world).1.maps := by
  have run := run_resume_dict equality call now world message nodeIp bound
  rw [Action.after, run, Action.after]
  cases (updateNode equality call now nodeInfo).run world with
  | error error next => rfl
  | ok value next =>
      cases nodeInfo.item "name" with
      | error error => rfl
      | ok name => rfl

/-- A reply that is no dictionary, if it is not `None`, raises at once. -/
theorem maps_resume_of_untouched (equality : PyEquality φ) (call : Call η ω φ) (now : ℚ)
    (world : World η ω φ) (message : HeartbeatMessage) (nodeIp : Text) (result : FetchResult φ)
    (unbound : ∀ value nodeInfo, result = .value value →
      value.setItem "ip" (.str nodeIp) ≠ .ok nodeInfo) :
    ((handleHeartbeatResume equality call now message nodeIp result).after world).1.maps =
      world.1.maps := by
  cases result with
  | raised => rfl
  | value value =>
      cases value with
      | dict entries => exact absurd rfl (unbound _ _ rfl)
      | nil | bool | int | float | str | bytes | list | extType | timestamp => rfl

theorem AllReadable.of_maps {other : NodesInfoManager η φ} (readable : manager.AllReadable)
    (same : other.maps = manager.maps) : other.AllReadable := by
  intro entry member
  have stored : other.nodesInfo = manager.nodesInfo := congrArg Prod.fst same
  rw [stored] at member
  exact readable entry member

/-- Where an action raises, the descriptions and versions are those before. -/
def RaisesIntact (action : Action PyError (World η ω φ) Unit) (world : World η ω φ) : Prop :=
  ∀ error next, action.run world = .error error next → next.1.maps = world.1.maps

theorem raisesIntact_of_maps {action : Action PyError (World η ω φ) Unit}
    (same : (action.after world).1.maps = world.1.maps) : RaisesIntact action world := by
  intro error next run
  rw [← same, Action.after_of_error run]

/-- The processing of a readable description with a new version leaves the registry as it
was where it raises, exactly if the handlers return or the store changes nothing. -/
theorem raisesIntact_resume_iff (now : ℚ) (message : HeartbeatMessage) {nodeIp : Text}
    {result nodeInfo nodeId infoId : PyObject φ}
    (bound : result.setItem "ip" (.str nodeIp) = .ok nodeInfo) (readable : nodeInfo.Readable)
    (identified : world.1.identify equality nodeInfo = .ok (nodeId, infoId)) :
    RaisesIntact (handleHeartbeatResume equality call now message nodeIp (.value result)) world ↔
      Taken call world nodeInfo ∨
        (world.1.store equality nodeId infoId nodeInfo.bindSockets.1).maps = world.1.maps := by
  have maps := maps_updateNode equality call now nodeInfo world
  rw [← maps_resume message nodeIp bound, identified] at maps
  have returns := updateNode_returns_iff call now readable
    (PyObject.item_setItem_self bound) identified
  have run := run_resume_dict equality call now world message nodeIp bound
  rcases readable.name with ⟨name, present⟩
  rw [present] at run
  rw [← returns]
  cases updated : (updateNode equality call now nodeInfo).run world with
  | ok value next =>
      rw [updated] at run
      apply iff_of_true
      · intro error after raised
        cases run.symm.trans raised
      · exact Or.inl ⟨next, rfl⟩
  | error error next =>
      rw [updated] at run
      rw [Action.after_of_error run] at maps
      constructor
      · intro intact
        exact Or.inr (maps.symm.trans (intact error next run))
      · intro either
        rcases either with returned | same
        · exact nomatch returned
        · intro other after raised
          cases run.symm.trans raised
          exact maps.trans same

/-- A description that can be read leaves a registry that can be read. -/
theorem readable_updateNode (equality : PyEquality φ) (call : Call η ω φ) (now : ℚ)
    {nodeInfo : PyObject φ} (described : nodeInfo.Readable) (readable : world.1.AllReadable) :
    ((updateNode equality call now nodeInfo).after world).1.AllReadable := by
  have maps := maps_updateNode equality call now nodeInfo world
  cases identified : world.1.identify equality nodeInfo with
  | error error =>
      rw [identified] at maps
      exact readable.of_maps maps
  | ok identity =>
      rw [identified] at maps
      cases recorded : world.1.checkInfo equality identity.1 identity.2 with
      | true =>
          have same := maps.trans (congrArg NodesInfoManager.maps (if_pos recorded))
          exact readable.of_maps same
      | false =>
          have stored := (readable_store_iff nodeInfo.bindSockets.1 readable recorded).2
            ((readable_bindSockets nodeInfo).2 described)
          exact stored.of_maps maps

theorem acceptableReply_of_bound {nodeIp : Text} {value nodeInfo : PyObject φ}
    (bound : value.setItem "ip" (.str nodeIp) = .ok nodeInfo) :
    AcceptableReply equality call world nodeIp (.value value) ↔
      Acceptable equality call world nodeInfo := by
  constructor
  · intro acceptable
    exact acceptable nodeInfo bound
  · intro acceptable other same
    cases bound.symm.trans same
    exact acceptable

/-- A description that is stored has to be readable and taken. -/
theorem acceptable_of_identified {nodeInfo nodeId infoId : PyObject φ}
    (identified : world.1.identify equality nodeInfo = .ok (nodeId, infoId))
    (changed : world.1.checkInfo equality nodeId infoId = false) :
    Acceptable equality call world nodeInfo ↔
      nodeInfo.Readable ∧ (Taken call world nodeInfo ∨
        (world.1.store equality nodeId infoId nodeInfo.bindSockets.1).maps = world.1.maps) := by
  constructor
  · intro acceptable
    exact acceptable nodeId infoId identified changed
  · intro holds other version again _
    cases identified.symm.trans again
    exact holds

/-- Processing a reply leaves a readable registry readable, and unchanged where it raises,
exactly if the reply is acceptable. -/
theorem acceptableReply_iff (equality : PyEquality φ) (call : Call η ω φ) (now : ℚ)
    (message : HeartbeatMessage) (nodeIp : Text) (result : FetchResult φ)
    (readable : world.1.AllReadable) :
    (((handleHeartbeatResume equality call now message nodeIp result).after world).1.AllReadable ∧
        RaisesIntact (handleHeartbeatResume equality call now message nodeIp result) world) ↔
      AcceptableReply equality call world nodeIp result := by
  by_cases dictionary : ∃ value nodeInfo, result = .value value ∧
      value.setItem "ip" (.str nodeIp) = .ok nodeInfo
  · rcases dictionary with ⟨value, nodeInfo, rfl, bound⟩
    have maps := maps_updateNode equality call now nodeInfo world
    rw [← maps_resume message nodeIp bound] at maps
    rw [acceptableReply_of_bound bound]
    cases identified : world.1.identify equality nodeInfo with
    | error error =>
        rw [identified] at maps
        apply iff_of_true
        · exact ⟨readable.of_maps maps, raisesIntact_of_maps maps⟩
        · intro nodeId infoId returned
          cases identified.symm.trans returned
    | ok identity =>
        rw [identified] at maps
        cases recorded : world.1.checkInfo equality identity.1 identity.2 with
        | true =>
            have same := maps.trans (congrArg NodesInfoManager.maps (if_pos recorded))
            apply iff_of_true
            · exact ⟨readable.of_maps same, raisesIntact_of_maps same⟩
            · intro nodeId infoId again changed
              cases identified.symm.trans again
              cases recorded.symm.trans changed
        | false =>
            have left := readable_store_iff nodeInfo.bindSockets.1 readable recorded
            rw [readable_bindSockets] at left
            rw [acceptable_of_identified identified recorded, ← left]
            constructor
            · intro both
              have stored := both.1.of_maps maps.symm
              refine ⟨stored, ?_⟩
              exact (raisesIntact_resume_iff now message bound (left.1 stored) identified).1 both.2
            · intro both
              refine ⟨both.1.of_maps maps, ?_⟩
              exact (raisesIntact_resume_iff now message bound (left.1 both.1) identified).2 both.2
  · have same := maps_resume_of_untouched equality call now world message nodeIp result
      (fun value nodeInfo same bound => dictionary ⟨value, nodeInfo, same, bound⟩)
    apply iff_of_true
    · exact ⟨readable.of_maps same, raisesIntact_of_maps same⟩
    · cases result with
      | raised => trivial
      | value value =>
          intro nodeInfo bound
          exact absurd ⟨value, nodeInfo, rfl, bound⟩ dictionary

/-! ## Removals -/

/-- Descriptions are only dropped. -/
def Fewer (before after : NodesInfoManager η φ) : Prop :=
  ∀ entry ∈ after.nodesInfo, entry ∈ before.nodesInfo

theorem fewer_refl (manager : NodesInfoManager η φ) : Fewer manager manager := fun _ => id

theorem fewer_trans (first second third : NodesInfoManager η φ) (before : Fewer first second)
    (after : Fewer second third) : Fewer first third :=
  fun entry member => before entry (after entry member)

theorem guarantees_ofExcept {σ β : Type} {relation : σ → σ → Prop}
    (refl : ∀ state, relation state state) (result : Except PyError β) :
    Action.Guarantees relation (MonadExcept.ofExcept result : Action PyError σ β) := by
  cases result with
  | ok value => exact Action.guarantees_pure refl value
  | error error => exact Action.guarantees_throw refl error

theorem mem_of_mem_popKey {ν : Type} (key : PyObject φ) :
    Action.Guarantees (fun before after => ∀ entry ∈ after, entry ∈ before)
      (popKey equality key : Action PyError (List (PyObject φ × ν)) Unit) := by
  intro entries entry member
  rw [popKey, Action.after_bind_of_ok (Action.run_get entries)] at member
  cases found : Entries.find (equality.sameKey key) entries with
  | none =>
      rw [found] at member
      exact member
  | some value =>
      rw [found] at member
      exact Entries.mem_of_mem_drop member

theorem fewer_removeNode (nodeId : PyObject φ) :
    Action.Guarantees Fewer
      (removeNode equality nodeId : Action PyError (NodesInfoManager η φ) Unit) := by
  apply Action.guarantees_bind fewer_trans (Action.guarantees_get fewer_refl)
  intro manager
  apply Action.guarantees_bind fewer_trans (guarantees_ofExcept fewer_refl _)
  intro _
  apply Action.guarantees_bind fewer_trans (guarantees_ofExcept fewer_refl _)
  intro _
  apply Action.guarantees_bind fewer_trans
  · exact Action.guarantees_zoom (mem_of_mem_popKey nodeId) fun _ _ dropped => dropped
  · intro _
    apply Action.guarantees_bind fewer_trans
    · exact Action.guarantees_zoom (mem_of_mem_popKey nodeId) fun state _ _ => fewer_refl state
    · intro _
      exact Action.guarantees_zoom (mem_of_mem_popKey nodeId) fun state _ _ => fewer_refl state

theorem fewer_checkHeartbeatRound (equality : PyEquality φ) (now : ℚ) :
    Action.Guarantees Fewer
      (checkHeartbeatRound equality now : Action PyError (NodesInfoManager η φ) Unit) := by
  apply Action.guarantees_bind fewer_trans (Action.guarantees_get fewer_refl)
  intro manager
  apply Action.guarantees_bind fewer_trans (guarantees_ofExcept fewer_refl _)
  intro removedNodes
  exact Action.guarantees_forM fewer_refl fewer_trans removedNodes fewer_removeNode

theorem AllReadable.of_fewer {other : NodesInfoManager η φ} (readable : manager.AllReadable)
    (fewer : Fewer manager other) : other.AllReadable :=
  fun entry member => readable entry (fewer entry member)

/-! ## Local registration -/

theorem maps_registerLocalService (serviceName : Text) (port : Int)
    (manager : NodesInfoManager η φ) :
    ((registerLocalService serviceName port).after manager).maps = manager.maps := by
  rw [registerLocalService, Action.after_bind_of_ok (Action.run_get manager)]
  cases manager.checkLocalService serviceName with
  | true => rfl
  | false =>
      cases manager.getServiceInfo serviceName with
      | error error => rfl
      | ok service =>
          cases service with
          | none => rfl
          | some found => rfl

theorem maps_registerLocalPublisher (call : Call η ω φ) (topicName : Text) (port : Int)
    (world : World η ω φ) :
    ((registerLocalPublisher call topicName port).after world).1.maps = world.1.maps :=
  maps_onHandlers _ _

theorem maps_unregisterNodeUpdateHandler [DecidableEq η] (nodeName : Text) (handler : η)
    (manager : NodesInfoManager η φ) :
    (unregisterNodeUpdateHandler nodeName handler manager).maps = manager.maps := by
  rw [unregisterNodeUpdateHandler]
  split <;> rfl

end NodesInfoManager

/-! ## Whole runs -/

namespace Discovery

open Untyped.NodesInfoManager

variable {η ω φ : Type} {equality : PyEquality φ} {call : Call η ω φ}
  {state next : Discovery η ω φ} {event : DiscoveryEvent η φ}

/-- A reply that ends a fetch is acceptable in the state it meets. -/
def AcceptsReply (equality : PyEquality φ) (call : Call η ω φ) (state : Discovery η ω φ)
    (event : DiscoveryEvent η φ) : Prop :=
  ∀ index result message nodeIp, event = .fetchEnds index result →
    state.pending[index]? = some (message, nodeIp) →
    AcceptableReply equality call state.world nodeIp result

/-- If the processing of a reply raises, the descriptions and versions are those before. -/
def RejectsIntact (equality : PyEquality φ) (call : Call η ω φ) (state : Discovery η ω φ)
    (event : DiscoveryEvent η φ) : Prop :=
  ∀ index result message nodeIp, event = .fetchEnds index result →
    state.pending[index]? = some (message, nodeIp) →
    RaisesIntact (handleHeartbeatResume equality call state.now message nodeIp result) state.world

theorem maps_heartbeat (message : HeartbeatMessage) (nodeIp : Text) (state : Discovery η ω φ) :
    (state.heartbeat equality message nodeIp).world.1.maps = state.world.1.maps := by
  rw [heartbeat]
  split
  next manager started =>
    show manager.maps = _
    rw [← show _ = manager from congrArg Prod.fst started]
    rfl
  next manager started =>
    show manager.maps = _
    rw [← show _ = manager from congrArg Prod.fst started]
    rfl

theorem readable_sweep (readable : state.world.1.AllReadable)
    (swept : state.sweep equality = some next) : next.world.1.AllReadable := by
  have fewer := fewer_checkHeartbeatRound equality state.now state.world.1
  simp only [sweep] at swept
  split at swept
  next =>
    split at swept
    next =>
      split at swept
      next manager returned =>
        cases swept
        rw [Action.after_of_ok returned] at fewer
        exact readable.of_fewer fewer
      next error manager raised =>
        cases swept
        rw [Action.after_of_error raised] at fewer
        exact readable.of_fewer fewer
    next =>
      cases swept
      exact readable
  next => cases swept

variable [DecidableEq η]

/-- No step but the end of a fetch takes a readable description away. -/
theorem readable_step (other : ∀ index result, event ≠ .fetchEnds index result)
    (readable : state.world.1.AllReadable) (stepped : state.step equality call event = some next) :
    next.world.1.AllReadable := by
  cases event with
  | heartbeat message nodeIp =>
      cases stepped
      exact readable.of_maps (maps_heartbeat message nodeIp state)
  | fetchEnds index result => exact absurd rfl (other index result)
  | advance elapsed =>
      simp only [step, Option.ite_none_right_eq_some] at stepped
      cases stepped.2
      exact readable
  | sweep => exact readable_sweep readable stepped
  | cancelMonitor =>
      simp only [step] at stepped
      split at stepped
      next =>
        cases stepped
        exact readable
      next => cases stepped
  | updateNode info =>
      cases stepped
      exact readable_updateNode equality call state.now (readable_ofNodeInfo info) readable
  | removeNode nodeId =>
      cases stepped
      exact readable.of_fewer (fewer_removeNode nodeId state.world.1)
  | registerLocalService serviceName port =>
      cases stepped
      exact readable.of_maps (maps_registerLocalService serviceName port state.world.1)
  | registerLocalPublisher topicName port =>
      cases stepped
      exact readable.of_maps (maps_registerLocalPublisher call topicName port state.world)
  | unregisterNodeUpdateHandler nodeName handler =>
      cases stepped
      exact readable.of_maps (maps_unregisterNodeUpdateHandler nodeName handler state.world.1)
  | stopRunning | registerNodeUpdateHandler =>
      cases stepped
      exact readable

/-- The step lemma: lookups stay safe and a raising reply changes nothing, exactly if the reply
that arrives is acceptable. -/
theorem acceptsReply_iff (safe : state.world.1.SafeLookups)
    (stepped : state.step equality call event = some next) :
    (next.world.1.SafeLookups ∧ RejectsIntact equality call state event) ↔
      AcceptsReply equality call state event := by
  rw [safeLookups_iff] at safe ⊢
  by_cases ends : ∃ index result, event = .fetchEnds index result
  · rcases ends with ⟨index, result, rfl⟩
    simp only [step, fetchEnds] at stepped
    split at stepped
    next message nodeIp waiting =>
      cases stepped
      have exactly := acceptableReply_iff equality call state.now message nodeIp result safe
      constructor
      · intro both otherIndex otherResult otherMessage otherIp same found
        cases same
        cases waiting.symm.trans found
        exact exactly.1 ⟨both.1, both.2 index result message nodeIp rfl waiting⟩
      · intro accepts
        have both := exactly.2 (accepts index result message nodeIp rfl waiting)
        refine ⟨both.1, ?_⟩
        intro otherIndex otherResult otherMessage otherIp same found
        cases same
        cases waiting.symm.trans found
        exact both.2
    next => cases stepped
  · have other : ∀ index result, event ≠ .fetchEnds index result := by
      intro index result same
      exact ends ⟨index, result, same⟩
    apply iff_of_true
    · refine ⟨readable_step other safe stepped, ?_⟩
      intro index result message nodeIp same
      exact absurd same (other index result)
    · intro index result message nodeIp same
      exact absurd same (other index result)

/-- Along a run, no lookup raises and a reply whose processing raises leaves the descriptions
and versions as they were, exactly if every reply is acceptable where it arrives. -/
theorem registryIntact_iff {localName localIp nodeID : Text} {outside : ω} {now : ℚ}
    {trace : List (DiscoveryEvent η φ)}
    (run : (machine equality call (init localName localIp nodeID outside now)).exec trace =
      some state) :
    ((machine equality call (init localName localIp nodeID outside now)).StatesAlong
        (fun state => state.world.1.SafeLookups) trace ∧
      (machine equality call (init localName localIp nodeID outside now)).StepsAlong
        (RejectsIntact equality call) trace) ↔
    (machine equality call (init localName localIp nodeID outside now)).StepsAlong
      (AcceptsReply equality call) trace := by
  apply Machine.statesAlong_and_stepsAlong_iff _ _ run
  · exact safeLookups_iff.2 nofun
  · intro before event after _ safe stepped
    exact acceptsReply_iff safe stepped

/-- The comparisons among integers, truth values and texts; other objects differ. -/
def plainEquality : PyEquality Empty where
  equal := comparePlain
  sameKey := comparePlain
where
  comparePlain : PyObject Empty → PyObject Empty → Bool
    | .int first, .int second => first = second
    | .bool first, .int second | .int second, .bool first => second = first.toNat
    | .bool first, .bool second => first = second
    | .str first, .str second => first = second
    | .bytes first, .bytes second => first = second
    | .nil, .nil => true
    | _, _ => false

/-- No update handler is registered. -/
def noHandlers : Call Empty Unit Empty := nofun

/-- A node with no handlers. -/
abbrev listener : Machine (Discovery Empty Unit Empty) (DiscoveryEvent Empty Empty) :=
  machine plainEquality noHandlers (init "listener" "10.0.0.1" "a" () 0)

def heartbeatOfB : HeartbeatMessage where
  zlcVersion := (2, 2, 4)
  nodeId := "b"
  infoId := 1
  servicePort := 5000
  groupName := "zlc"

def acceptedInfo : NodeInfo where
  nodeID := "b"
  infoID := 1
  name := "arm"
  ip := "0.0.0.0"
  topics := [{ name := "joints", ip := "0.0.0.0", port := 5001 }]
  services := []

/-- A reply that is no dictionary, then a whole description. -/
def acceptedRun : List (DiscoveryEvent Empty Empty) :=
  [.heartbeat heartbeatOfB "10.0.0.2", .fetchEnds 0 (.value (.int 7)),
    .heartbeat heartbeatOfB "10.0.0.2", .fetchEnds 0 (.value (.ofNodeInfo acceptedInfo))]

theorem acceptedRun_accepts :
    listener.StepsAlong (AcceptsReply plainEquality noHandlers) acceptedRun := by
  apply Machine.stepsAlong_of_stepsFrom
  refine ⟨nofun, fun heard stepped => ?_⟩
  cases stepped
  refine ⟨?_, fun rejected stepped => ?_⟩
  · intro index result message nodeIp same _
    cases same
    exact nofun
  · cases stepped
    refine ⟨nofun, fun heard stepped => ?_⟩
    cases stepped
    refine ⟨?_, fun _ _ => trivial⟩
    intro index result message nodeIp same found
    cases same
    cases found
    intro nodeInfo bound nodeId infoId _ _
    cases bound
    exact ⟨PyObject.readable_ofNodeInfo { acceptedInfo with ip := "10.0.0.2" }, Or.inl ⟨_, rfl⟩⟩

theorem registryIntact_along_acceptedRun :
    listener.StatesAlong (fun state => state.world.1.SafeLookups) acceptedRun ∧
      listener.StepsAlong (RejectsIntact plainEquality noHandlers) acceptedRun := by
  have runs : (listener.exec acceptedRun).isSome = true := by decide +kernel
  rcases Option.isSome_iff_exists.1 runs with ⟨state, run⟩
  exact (registryIntact_iff run).2 acceptedRun_accepts

/-- A description without services. -/
def partialReply : PyObject Empty :=
  .dict [(.str "nodeID", .str "b"), (.str "infoID", .int 1), (.str "name", .str "arm"),
    (.str "topics", .list [])]

def partialRun : List (DiscoveryEvent Empty Empty) :=
  [.heartbeat heartbeatOfB "10.0.0.2", .fetchEnds 0 (.value partialReply)]

/-- The reply is stored before the missing field is noticed: the processing raises with the
registry changed, and every lookup of a service raises from then on. -/
theorem partial_reply_breaks_lookups :
    (∃ state, listener.exec partialRun = some state ∧
      ∀ name, state.world.1.getServiceInfo name = .error (.keyError "services")) ∧
    ¬ listener.StepsAlong (RejectsIntact plainEquality noHandlers) partialRun := by
  constructor
  · refine ⟨_, rfl, ?_⟩
    intro name
    rfl
  · intro steps
    have rejected := steps [.heartbeat heartbeatOfB "10.0.0.2"] _ _ (List.prefix_rfl) rfl 0
      (.value partialReply) heartbeatOfB "10.0.0.2" rfl rfl (.keyError "services") _ rfl
    cases congrArg (fun maps => maps.1.length) rejected

end Discovery

end Untyped

end Pyzlc
