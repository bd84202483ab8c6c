import Pyzlc.Nodes.NodesInfoManager
import Pyzlc.Utils.NodeInfoFormat

/-!
# The registry behind the manager

The three dictionaries of `NodesInfoManager`, as one value with three operations:
hearing a node, recording a description, dropping a node.  Every method of the
manager acts on them as one of these, whatever its handlers do and however it ends,
and the three operations keep the registry well formed.
-/

namespace Pyzlc

open Foundation

/-- The dictionaries keyed by node identifier. -/
structure Registry where
  nodesInfo : Dict HashIdentifier NodeInfo
  nodesInfoId : Dict HashIdentifier Int
  nodesHeartbeat : Dict HashIdentifier ℚ

namespace Registry

/-- The version recorded for a node is the given one. -/
def Matches (registry : Registry) (nodeId : HashIdentifier) (infoId : Int) : Prop :=
  (registry.nodesInfoId.lookup nodeId).getD (-1) = infoId

instance (registry : Registry) (nodeId : HashIdentifier) (infoId : Int) :
    Decidable (registry.Matches nodeId infoId) := inferInstanceAs (Decidable (_ = _))

/-- A node was heard of. -/
def hear (now : ℚ) (nodeId : HashIdentifier) (registry : Registry) : Registry :=
  { registry with nodesHeartbeat := Dict.set registry.nodesHeartbeat nodeId now }

/-- A description is stored under its node, its sockets at its address. -/
def store (info : NodeInfo) (registry : Registry) : Registry :=
  { registry with
    nodesInfo := Dict.set registry.nodesInfo info.nodeID info.bindSockets
    nodesInfoId := Dict.set registry.nodesInfoId info.nodeID info.infoID }

/-- A description arrives. -/
def record (now : ℚ) (info : NodeInfo) (registry : Registry) : Registry :=
  (if registry.Matches info.nodeID info.infoID then registry else registry.store info).hear
    now info.nodeID

/-- A node is dropped from all three dictionaries. -/
def drop (registry : Registry) (nodeId : HashIdentifier) : Registry where
  nodesInfo := AList.erase nodeId registry.nodesInfo
  nodesInfoId := AList.erase nodeId registry.nodesInfoId
  nodesHeartbeat := AList.erase nodeId registry.nodesHeartbeat

/-- What the three dictionaries have to do with each other. -/
structure WellFormed (registry : Registry) : Prop where
  sameKeys : ∀ nodeId, nodeId ∈ registry.nodesInfo ↔ nodeId ∈ registry.nodesInfoId
  heard : ∀ nodeId, nodeId ∈ registry.nodesInfo → nodeId ∈ registry.nodesHeartbeat
  identified : ∀ nodeId info, registry.nodesInfo.lookup nodeId = some info →
    info.nodeID = nodeId
  versioned : ∀ nodeId info, registry.nodesInfo.lookup nodeId = some info →
    registry.nodesInfoId.lookup nodeId = some info.infoID
  addressed : ∀ nodeId info, registry.nodesInfo.lookup nodeId = some info →
    info.SocketsAtNode

/-! ## Hearing -/

@[simp] theorem hear_nodesInfo (now : ℚ) (nodeId : HashIdentifier) (registry : Registry) :
    (registry.hear now nodeId).nodesInfo = registry.nodesInfo := rfl

@[simp] theorem hear_nodesInfoId (now : ℚ) (nodeId : HashIdentifier) (registry : Registry) :
    (registry.hear now nodeId).nodesInfoId = registry.nodesInfoId := rfl

theorem WellFormed.hear {registry : Registry} (wellFormed : registry.WellFormed) (now : ℚ)
    (nodeId : HashIdentifier) : (registry.hear now nodeId).WellFormed where
  sameKeys := wellFormed.sameKeys
  heard := by
    intro other known
    apply (Dict.mem_set _ _ _ _).2
    exact Or.inr (wellFormed.heard other known)
  identified := wellFormed.identified
  versioned := wellFormed.versioned
  addressed := wellFormed.addressed

/-! ## Recording -/

theorem socketsAtNode_bindSockets (info : NodeInfo) : info.bindSockets.SocketsAtNode := by
  constructor
  · intro topic member
    rcases List.mem_map.1 member with ⟨_, _, rfl⟩
    rfl
  · intro service member
    rcases List.mem_map.1 member with ⟨_, _, rfl⟩
    rfl

theorem lookup_store (info : NodeInfo) (registry : Registry) (nodeId : HashIdentifier) :
    (registry.store info).nodesInfo.lookup nodeId =
      if nodeId = info.nodeID then some info.bindSockets
      else registry.nodesInfo.lookup nodeId :=
  Dict.lookup_set _ _ _ _

theorem lookupId_store (info : NodeInfo) (registry : Registry) (nodeId : HashIdentifier) :
    (registry.store info).nodesInfoId.lookup nodeId =
      if nodeId = info.nodeID then some info.infoID
      else registry.nodesInfoId.lookup nodeId :=
  Dict.lookup_set _ _ _ _

/-- A description stored under a heard node keeps the registry well formed.  The
heartbeat is recorded after the description, so the two steps go together. -/
theorem WellFormed.store_hear {registry : Registry} (wellFormed : registry.WellFormed)
    (now : ℚ) (info : NodeInfo) :
    ((registry.store info).hear now info.nodeID).WellFormed where
  sameKeys := by
    intro nodeId
    simp only [hear_nodesInfo, hear_nodesInfoId, Registry.store, Dict.mem_set,
      wellFormed.sameKeys nodeId]
  heard := by
    intro nodeId known
    apply (Dict.mem_set _ _ _ _).2
    rcases (Dict.mem_set _ _ _ _).1 known with same | before
    · exact Or.inl same
    · exact Or.inr (wellFormed.heard nodeId before)
  identified := by
    intro nodeId stored found
    rw [hear_nodesInfo, lookup_store] at found
    split at found
    next same =>
      cases found
      exact same.symm
    next => exact wellFormed.identified nodeId stored found
  versioned := by
    intro nodeId stored found
    rw [hear_nodesInfo, lookup_store] at found
    rw [hear_nodesInfoId, lookupId_store]
    split at found
    next same =>
      cases found
      rw [if_pos same]
      rfl
    next different =>
      rw [if_neg different]
      exact wellFormed.versioned nodeId stored found
  addressed := by
    intro nodeId stored found
    rw [hear_nodesInfo, lookup_store] at found
    split at found
    next =>
      cases found
      exact socketsAtNode_bindSockets info
    next => exact wellFormed.addressed nodeId stored found

theorem WellFormed.record {registry : Registry} (wellFormed : registry.WellFormed) (now : ℚ)
    (info : NodeInfo) : (registry.record now info).WellFormed := by
  unfold Registry.record
  split
  next => exact wellFormed.hear now info.nodeID
  next => exact wellFormed.store_hear now info

/-- The description found after an arrival: the arrived one, or an old one. -/
theorem lookup_record {registry : Registry} {now : ℚ} {info stored : NodeInfo}
    {nodeId : HashIdentifier}
    (found : (registry.record now info).nodesInfo.lookup nodeId = some stored) :
    registry.nodesInfo.lookup nodeId = some stored ∨
      nodeId = info.nodeID ∧ stored = info.bindSockets := by
  unfold Registry.record at found
  split at found
  next => exact Or.inl found
  next =>
    rw [hear_nodesInfo, lookup_store] at found
    split at found
    next same =>
      cases found
      exact Or.inr ⟨same, rfl⟩
    next => exact Or.inl found

/-- The version recorded after an arrival, at a node known before. -/
theorem lookupId_record {registry : Registry} (now : ℚ) (info : NodeInfo)
    {nodeId : HashIdentifier} (known : nodeId ∈ registry.nodesInfoId) :
    (registry.record now info).nodesInfoId.lookup nodeId =
      if nodeId = info.nodeID then some info.infoID
      else registry.nodesInfoId.lookup nodeId := by
  unfold Registry.record
  split
  next same =>
    rw [hear_nodesInfoId]
    split
    next here =>
      rcases Dict.mem_iff_lookup.1 known with ⟨version, found⟩
      rw [Registry.Matches, ← here, found] at same
      rw [found, ← same]
      rfl
    next => rfl
  next => rw [hear_nodesInfoId, lookupId_store]

/-! ## Dropping -/

theorem WellFormed.drop {registry : Registry} (wellFormed : registry.WellFormed)
    (nodeId : HashIdentifier) : (registry.drop nodeId).WellFormed where
  sameKeys := by
    intro other
    simp only [Registry.drop, AList.mem_erase, wellFormed.sameKeys other]
  heard := by
    intro other known
    have remains := AList.mem_erase.1 known
    exact AList.mem_erase.2 ⟨remains.1, wellFormed.heard other remains.2⟩
  identified := by
    intro other info found
    rw [Registry.drop, Dict.lookup_erase] at found
    split at found
    next => cases found
    next => exact wellFormed.identified other info found
  versioned := by
    intro other info found
    simp only [Registry.drop, Dict.lookup_erase] at found ⊢
    split at found
    next => cases found
    next different =>
      rw [if_neg different]
      exact wellFormed.versioned other info found
  addressed := by
    intro other info found
    rw [Registry.drop, Dict.lookup_erase] at found
    split at found
    next => cases found
    next => exact wellFormed.addressed other info found

/-- The registry without the nodes of a list. -/
def dropAll (registry : Registry) (nodeIds : List HashIdentifier) : Registry :=
  nodeIds.foldl drop registry

theorem WellFormed.dropAll {registry : Registry} (wellFormed : registry.WellFormed)
    (nodeIds : List HashIdentifier) : (registry.dropAll nodeIds).WellFormed := by
  unfold Registry.dropAll
  induction nodeIds generalizing registry with
  | nil => exact wellFormed
  | cons nodeId rest ih => exact ih (wellFormed.drop nodeId)

private theorem lookup_dropAll_of {ν : Type} (part : Registry → Dict HashIdentifier ν)
    (dropped : ∀ registry nodeId,
      part (Registry.drop registry nodeId) = AList.erase nodeId (part registry))
    (nodeIds : List HashIdentifier) (registry : Registry) (nodeId : HashIdentifier) :
    (part (registry.dropAll nodeIds)).lookup nodeId =
      if nodeId ∈ nodeIds then none else (part registry).lookup nodeId := by
  unfold dropAll
  induction nodeIds generalizing registry with
  | nil => simp
  | cons head rest ih =>
      rw [List.foldl_cons, ih, dropped, Dict.lookup_erase]
      by_cases same : nodeId = head <;> by_cases later : nodeId ∈ rest <;> simp [same, later]

theorem lookup_dropAll (registry : Registry) (nodeIds : List HashIdentifier)
    (nodeId : HashIdentifier) :
    (registry.dropAll nodeIds).nodesInfo.lookup nodeId =
      if nodeId ∈ nodeIds then none else registry.nodesInfo.lookup nodeId :=
  lookup_dropAll_of nodesInfo (fun _ _ => rfl) nodeIds registry nodeId

theorem lookupId_dropAll (registry : Registry) (nodeIds : List HashIdentifier)
    (nodeId : HashIdentifier) :
    (registry.dropAll nodeIds).nodesInfoId.lookup nodeId =
      if nodeId ∈ nodeIds then none else registry.nodesInfoId.lookup nodeId :=
  lookup_dropAll_of nodesInfoId (fun _ _ => rfl) nodeIds registry nodeId

theorem lookupHeartbeat_dropAll (registry : Registry) (nodeIds : List HashIdentifier)
    (nodeId : HashIdentifier) :
    (registry.dropAll nodeIds).nodesHeartbeat.lookup nodeId =
      if nodeId ∈ nodeIds then none else registry.nodesHeartbeat.lookup nodeId :=
  lookup_dropAll_of nodesHeartbeat (fun _ _ => rfl) nodeIds registry nodeId

end Registry

end Pyzlc
