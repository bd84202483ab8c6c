import Pyzlc.Foundation.Machine
import Pyzlc.Nodes.LanComNode

/-!
# The lifecycle of nodes

A stop takes the node of a group out of the registry by the name of the group, whichever
node that is, and compares only the default by identity.  A node stopped before leaves its
handle behind, and a stop through it takes the group from the node that has it now.
-/

namespace Pyzlc

open Foundation

/-- What a program does with nodes. -/
inductive LifecycleEvent where
  | init (nodeName nodeIp group : Text) (groupPort : Int) (groupName : Text) (defaultGroup : Bool)
  | stopNode (node : LanComNode)
  | stopAllNodes

namespace LanComNodes

/-- A stop is asked of a node that exists. -/
def step (nodes : LanComNodes) : LifecycleEvent → Option LanComNodes
  | .init nodeName nodeIp group groupPort groupName defaultGroup =>
      some ((initNode nodeName nodeIp group groupPort groupName defaultGroup).after nodes)
  | .stopNode node =>
      if node ∈ nodes.created then some ((stopNode node).after nodes) else none
  | .stopAllNodes => some (stopAllNodes.after nodes)

def lifecycle : Machine LanComNodes LifecycleEvent where
  start := empty
  step := step

/-- A node was started and not stopped since. -/
def Running (nodes : LanComNodes) (node : LanComNode) : Prop :=
  nodes.running.lookup node.serial = some true

instance (nodes : LanComNodes) (node : LanComNode) : Decidable (nodes.Running node) :=
  inferInstanceAs (Decidable (nodes.running.lookup node.serial = some true))

/-- The default and every running node are registered under their groups, so that stopping
all nodes leaves none running. -/
structure Coupled (nodes : LanComNodes) : Prop where
  default : ∀ node, nodes.defaultInstance = some node →
    nodes.nodeInstances.lookup node.groupName = some node
  running : ∀ node ∈ nodes.created, nodes.Running node →
    nodes.nodeInstances.lookup node.groupName = some node
  stopAll : ∀ node ∈ nodes.created, ¬ (stopAllNodes.after nodes).Running node

/-- Stopping a node unregisters no other. -/
def UnregistersNoOther (nodes : LanComNodes) : LifecycleEvent → Prop
  | .stopNode node => ∀ groupName other, nodes.nodeInstances.lookup groupName = some other →
      other ≠ node → ((stopNode node).after nodes).nodeInstances.lookup groupName = some other
  | _ => True

/-- The node that is stopped is the one registered under its group, or none is. -/
def OwnGroup (nodes : LanComNodes) : LifecycleEvent → Prop
  | .stopNode node => ∀ other, nodes.nodeInstances.lookup node.groupName = some other →
      other = node
  | _ => True

/-! ## What always holds -/

structure WellFormed (nodes : LanComNodes) : Prop where
  bound : ∀ node ∈ nodes.created, node.serial < nodes.created.length
  serials : ∀ first ∈ nodes.created, ∀ second ∈ nodes.created,
    first.serial = second.serial → first = second
  started : ∀ node ∈ nodes.created, node.serial ∈ nodes.heartbeatFuture
  registered : ∀ groupName node, nodes.nodeInstances.lookup groupName = some node →
    node ∈ nodes.created ∧ node.groupName = groupName ∧ nodes.Running node

theorem wellFormed_empty : WellFormed empty where
  bound := fun _ member => nomatch member
  serials := fun _ member => nomatch member
  started := fun _ member => nomatch member
  registered := fun _ _ found => nomatch found

/-- What an event does to well-formed nodes. -/
inductive StepCase (nodes : LanComNodes) : LifecycleEvent → LanComNodes → Prop where
  | refused (nodeName nodeIp group : Text) (groupPort : Int) (groupName : Text)
      (defaultGroup : Bool) :
      StepCase nodes (.init nodeName nodeIp group groupPort groupName defaultGroup) nodes
  | initialized (nodeName nodeIp group : Text) (groupPort : Int) (groupName : Text)
      (defaultGroup : Bool) (free : groupName ∉ nodes.nodeInstances) :
      StepCase nodes (.init nodeName nodeIp group groupPort groupName defaultGroup)
        (initialized defaultGroup (nodes.nextNode nodeName nodeIp group groupPort groupName) nodes)
  | stopped (node : LanComNode) (member : node ∈ nodes.created) :
      StepCase nodes (.stopNode node) (nodes.stopped node)
  | allStopped : StepCase nodes .stopAllNodes nodes.allStopped

theorem after_stopNode {nodes : LanComNodes} (wellFormed : nodes.WellFormed) {node : LanComNode}
    (member : node ∈ nodes.created) : (stopNode node).after nodes = nodes.stopped node :=
  Action.after_of_ok (run_stopNode (wellFormed.started node member))

theorem after_stopAllNodes {nodes : LanComNodes} (wellFormed : nodes.WellFormed) :
    stopAllNodes.after nodes = nodes.allStopped := by
  apply Action.after_of_ok (run_stopAllNodes _)
  intro node registered
  rcases Dict.mem_values_iff.1 registered with ⟨groupName, found⟩
  exact wellFormed.started node (wellFormed.registered groupName node found).1

theorem stepCase_of_step {nodes next : LanComNodes} {event : LifecycleEvent}
    (wellFormed : nodes.WellFormed) (stepped : nodes.step event = some next) :
    StepCase nodes event next := by
  cases event with
  | init nodeName nodeIp group groupPort groupName defaultGroup =>
      cases stepped
      rw [after_initNode]
      by_cases taken : groupName ∈ nodes.nodeInstances
      · rw [if_pos taken]
        exact .refused nodeName nodeIp group groupPort groupName defaultGroup
      · rw [if_neg taken]
        exact .initialized nodeName nodeIp group groupPort groupName defaultGroup taken
  | stopNode node =>
      rw [step] at stepped
      by_cases member : node ∈ nodes.created
      · rw [if_pos member, after_stopNode wellFormed member] at stepped
        cases stepped
        exact .stopped node member
      · rw [if_neg member] at stepped
        cases stepped
  | stopAllNodes =>
      rw [step, after_stopAllNodes wellFormed] at stepped
      cases stepped
      exact .allStopped

/-! ## Running nodes -/

theorem running_initialized {nodes : LanComNodes} {defaultGroup : Bool} {new node : LanComNode} :
    (initialized defaultGroup new nodes).Running node ↔
      node.serial = new.serial ∨ nodes.Running node := by
  simp only [Running, initialized, Dict.lookup_set]
  by_cases same : node.serial = new.serial <;> simp [same]

theorem running_stopped {nodes : LanComNodes} {other node : LanComNode} :
    (nodes.stopped other).Running node ↔ other.serial ≠ node.serial ∧ nodes.Running node := by
  simp only [Running, stopped, Dict.lookup_set]
  by_cases same : node.serial = other.serial
  · simp [same]
  · simp [same, Ne.symm same]

theorem created_foldl_stopped (others : List LanComNode) (nodes : LanComNodes) :
    (others.foldl stopped nodes).created = nodes.created := by
  induction others generalizing nodes with
  | nil => rfl
  | cons other rest ih => exact ih (nodes.stopped other)

theorem running_foldl_stopped {others : List LanComNode} {nodes : LanComNodes}
    {node : LanComNode} :
    (others.foldl stopped nodes).Running node ↔
      (∀ other ∈ others, other.serial ≠ node.serial) ∧ nodes.Running node := by
  induction others generalizing nodes with
  | nil => simp
  | cons other rest ih =>
      rw [List.foldl_cons, ih, running_stopped, List.forall_mem_cons]
      constructor
      · rintro ⟨later, here, before⟩
        exact ⟨⟨here, later⟩, before⟩
      · rintro ⟨⟨here, later⟩, before⟩
        exact ⟨later, here, before⟩

theorem heartbeatFuture_foldl_stopped {others : List LanComNode} {nodes : LanComNodes}
    {serial : Nat} (started : serial ∈ nodes.heartbeatFuture) :
    serial ∈ (others.foldl stopped nodes).heartbeatFuture := by
  induction others generalizing nodes with
  | nil => exact started
  | cons other rest ih =>
      exact ih ((stopped_heartbeatFuture nodes other serial).2 (Or.inr started))

/-- Stopping all nodes stops the registered ones. -/
theorem running_allStopped {nodes : LanComNodes} {node : LanComNode} :
    nodes.allStopped.Running node ↔
      (∀ other ∈ nodes.nodeInstances.values, other.serial ≠ node.serial) ∧ nodes.Running node :=
  running_foldl_stopped

/-! ## One event -/

theorem wellFormed_initialized {nodes : LanComNodes} (wellFormed : nodes.WellFormed)
    (defaultGroup : Bool) {new : LanComNode} (fresh : new.serial = nodes.created.length) :
    (initialized defaultGroup new nodes).WellFormed := by
  have younger : ∀ node ∈ nodes.created, node.serial ≠ new.serial := by
    intro node member same
    have bound := wellFormed.bound node member
    omega
  constructor
  case bound =>
    intro node member
    rw [initialized, List.length_append, List.length_singleton]
    rcases List.mem_append.1 member with old | last
    · exact Nat.lt_succ_of_lt (wellFormed.bound node old)
    · rw [List.mem_singleton.1 last, fresh]
      exact Nat.lt_succ_self _
  case serials =>
    intro first firstMember second secondMember same
    rcases List.mem_append.1 firstMember with firstOld | firstLast
    · rcases List.mem_append.1 secondMember with secondOld | secondLast
      · exact wellFormed.serials first firstOld second secondOld same
      · rw [List.mem_singleton.1 secondLast] at same
        exact absurd same (younger first firstOld)
    · rw [List.mem_singleton.1 firstLast] at same ⊢
      rcases List.mem_append.1 secondMember with secondOld | secondLast
      · exact absurd same.symm (younger second secondOld)
      · exact (List.mem_singleton.1 secondLast).symm
  case started =>
    intro node member
    apply (Dict.mem_set _ _ _ _).2
    rcases List.mem_append.1 member with old | last
    · exact Or.inr (wellFormed.started node old)
    · rw [List.mem_singleton.1 last]
      exact Or.inl rfl
  case registered =>
    intro groupName node found
    rw [running_initialized]
    simp only [initialized, Dict.lookup_set] at found
    by_cases same : groupName = new.groupName
    · rw [if_pos same] at found
      cases found
      exact ⟨List.mem_append_right _ (List.mem_singleton.2 rfl), same.symm, Or.inl rfl⟩
    · rw [if_neg same] at found
      rcases wellFormed.registered groupName node found with ⟨member, own, running⟩
      exact ⟨List.mem_append_left _ member, own, Or.inr running⟩

theorem lookup_stopped (nodes : LanComNodes) (node : LanComNode) (groupName : Text) :
    (nodes.stopped node).nodeInstances.lookup groupName =
      if groupName = node.groupName then none else nodes.nodeInstances.lookup groupName :=
  Dict.lookup_erase _ _ _

theorem wellFormed_stopped {nodes : LanComNodes} (wellFormed : nodes.WellFormed)
    {node : LanComNode} (isCreated : node ∈ nodes.created) : (nodes.stopped node).WellFormed where
  bound := wellFormed.bound
  serials := wellFormed.serials
  started := by
    intro other member
    exact (stopped_heartbeatFuture _ _ _).2 (Or.inr (wellFormed.started other member))
  registered := by
    intro groupName other found
    rw [lookup_stopped] at found
    by_cases same : groupName = node.groupName
    · rw [if_pos same] at found
      cases found
    · rw [if_neg same] at found
      rcases wellFormed.registered groupName other found with ⟨member, own, running⟩
      refine ⟨member, own, running_stopped.2 ⟨?_, running⟩⟩
      intro sameSerial
      have sameNode := wellFormed.serials node isCreated other member sameSerial
      rw [sameNode] at same
      exact same own.symm

theorem wellFormed_allStopped {nodes : LanComNodes} (wellFormed : nodes.WellFormed) :
    nodes.allStopped.WellFormed := by
  have created : nodes.allStopped.created = nodes.created := created_foldl_stopped _ _
  constructor
  case bound =>
    rw [created]
    exact wellFormed.bound
  case serials =>
    rw [created]
    exact wellFormed.serials
  case started =>
    rw [created]
    intro node member
    exact heartbeatFuture_foldl_stopped (wellFormed.started node member)
  case registered =>
    intro groupName node found
    cases found

theorem wellFormed_step {nodes next : LanComNodes} {event : LifecycleEvent}
    (wellFormed : nodes.WellFormed) (stepped : StepCase nodes event next) : next.WellFormed := by
  cases stepped with
  | refused => exact wellFormed
  | initialized => exact wellFormed_initialized wellFormed _ rfl
  | stopped node member => exact wellFormed_stopped wellFormed member
  | allStopped => exact wellFormed_allStopped wellFormed

/-- Whatever runs is registered, so stopping all nodes stops it. -/
theorem coupled_of_running {nodes : LanComNodes} (wellFormed : nodes.WellFormed)
    (default : ∀ node, nodes.defaultInstance = some node →
      nodes.nodeInstances.lookup node.groupName = some node)
    (running : ∀ node ∈ nodes.created, nodes.Running node →
      nodes.nodeInstances.lookup node.groupName = some node) : nodes.Coupled where
  default := default
  running := running
  stopAll := by
    intro node member
    rw [after_stopAllNodes wellFormed, running_allStopped]
    rintro ⟨others, stillRunning⟩
    have found := running node member stillRunning
    exact others node (Dict.mem_values_iff.2 ⟨node.groupName, found⟩) rfl

theorem coupled_empty : Coupled empty :=
  coupled_of_running wellFormed_empty (fun _ found => nomatch found)
    (fun _ member => nomatch member)

theorem coupled_initialized {nodes : LanComNodes} (wellFormed : nodes.WellFormed)
    (coupled : nodes.Coupled) (defaultGroup : Bool) {new : LanComNode}
    (fresh : new.serial = nodes.created.length) (free : new.groupName ∉ nodes.nodeInstances) :
    (initialized defaultGroup new nodes).Coupled := by
  have kept : ∀ node : LanComNode, nodes.nodeInstances.lookup node.groupName = some node →
      (initialized defaultGroup new nodes).nodeInstances.lookup node.groupName = some node := by
    intro node found
    rw [initialized, Dict.lookup_set, if_neg]
    · exact found
    · intro same
      rw [← same] at free
      exact free (Dict.mem_of_lookup found)
  have entered : (initialized defaultGroup new nodes).nodeInstances.lookup new.groupName =
      some new := Dict.lookup_set_self _ _ _
  apply coupled_of_running (wellFormed_initialized wellFormed defaultGroup fresh)
  · intro node chosen
    simp only [initialized] at chosen
    by_cases first : defaultGroup = true ∧ nodes.defaultInstance = none
    · rw [if_pos first] at chosen
      cases chosen
      exact entered
    · rw [if_neg first] at chosen
      exact kept node (coupled.default node chosen)
  · intro node member running
    rcases List.mem_append.1 member with old | last
    · apply kept node (coupled.running node old _)
      rcases running_initialized.1 running with same | before
      · have bound := wellFormed.bound node old
        omega
      · exact before
    · rw [List.mem_singleton.1 last]
      exact entered

theorem coupled_stopped_iff {nodes : LanComNodes} (wellFormed : nodes.WellFormed)
    (coupled : nodes.Coupled) {node : LanComNode} (member : node ∈ nodes.created) :
    (nodes.stopped node).Coupled ↔ nodes.OwnGroup (.stopNode node) := by
  constructor
  · intro after other found
    rcases wellFormed.registered _ other found with ⟨otherMember, own, running⟩
    by_contra different
    have stillRunning : (nodes.stopped node).Running other := by
      refine running_stopped.2 ⟨?_, running⟩
      intro same
      exact different (wellFormed.serials node member other otherMember same).symm
    have registered := after.running other otherMember stillRunning
    rw [lookup_stopped, if_pos own] at registered
    cases registered
  · intro ownGroup
    -- a registered node other than the stopped one is in another group
    have kept : ∀ other, nodes.nodeInstances.lookup other.groupName = some other →
        other ≠ node → (nodes.stopped node).nodeInstances.lookup other.groupName = some other := by
      intro other found different
      rw [lookup_stopped, if_neg]
      · exact found
      · intro same
        rw [same] at found
        exact different (ownGroup other found)
    apply coupled_of_running (wellFormed_stopped wellFormed member)
    · intro other chosen
      simp only [stopped] at chosen
      by_cases default : nodes.defaultInstance = some node
      · rw [if_pos default] at chosen
        cases chosen
      · rw [if_neg default] at chosen
        apply kept other (coupled.default other chosen)
        rintro rfl
        exact default chosen
    · intro other otherMember running
      rcases running_stopped.1 running with ⟨different, before⟩
      apply kept other (coupled.running other otherMember before)
      rintro rfl
      exact different rfl

theorem coupled_allStopped {nodes : LanComNodes} (wellFormed : nodes.WellFormed)
    (coupled : nodes.Coupled) : nodes.allStopped.Coupled := by
  apply coupled_of_running (wellFormed_allStopped wellFormed)
  · intro node chosen
    cases chosen
  · intro node member running
    have created : nodes.allStopped.created = nodes.created := created_foldl_stopped _ _
    rw [created] at member
    rw [← after_stopAllNodes wellFormed] at running
    exact absurd running (coupled.stopAll node member)

/-- The coupling survives an event exactly if the event stops a node in its own group. -/
theorem coupled_step_iff {nodes next : LanComNodes} {event : LifecycleEvent}
    (wellFormed : nodes.WellFormed) (coupled : nodes.Coupled)
    (stepped : StepCase nodes event next) : next.Coupled ↔ nodes.OwnGroup event := by
  cases stepped with
  | refused => exact ⟨fun _ => trivial, fun _ => coupled⟩
  | initialized nodeName nodeIp group groupPort groupName defaultGroup free =>
      exact ⟨fun _ => trivial,
        fun _ => coupled_initialized wellFormed coupled defaultGroup rfl free⟩
  | stopped node member => exact coupled_stopped_iff wellFormed coupled member
  | allStopped => exact ⟨fun _ => trivial, fun _ => coupled_allStopped wellFormed coupled⟩

/-- The same condition keeps a stop from unregistering another node. -/
theorem unregistersNoOther_iff {nodes next : LanComNodes} {event : LifecycleEvent}
    (wellFormed : nodes.WellFormed) (stepped : StepCase nodes event next) :
    nodes.UnregistersNoOther event ↔ nodes.OwnGroup event := by
  cases stepped with
  | refused => exact Iff.rfl
  | initialized => exact Iff.rfl
  | stopped node member =>
      simp only [UnregistersNoOther, OwnGroup, after_stopNode wellFormed member, lookup_stopped]
      constructor
      · intro keeps other found
        by_contra different
        have kept := keeps node.groupName other found different
        rw [if_pos rfl] at kept
        cases kept
      · intro ownGroup groupName other found different
        rw [if_neg]
        · exact found
        · rintro rfl
          exact different (ownGroup other found)
  | allStopped => exact Iff.rfl

/-! ## Runs -/

theorem wellFormed_of_reachable {nodes : LanComNodes} (reachable : lifecycle.Reachable nodes) :
    nodes.WellFormed := by
  apply Machine.Reachable.invariant _ _ reachable
  · exact wellFormed_empty
  · intro nodes event next _ wellFormed stepped
    exact wellFormed_step wellFormed (stepCase_of_step wellFormed stepped)

/-- The coupling holds along a run, and no stop of it unregisters another node, if and only
if every node is stopped while it is the one registered under its group or none is. -/
theorem coupled_iff {trace : List LifecycleEvent} {nodes : LanComNodes}
    (run : lifecycle.exec trace = some nodes) :
    (lifecycle.StatesAlong Coupled trace ∧ lifecycle.StepsAlong UnregistersNoOther trace) ↔
      lifecycle.StepsAlong OwnGroup trace := by
  apply Machine.statesAlong_and_stepsAlong_iff coupled_empty _ run
  intro nodes event next reachable coupled stepped
  have wellFormed := wellFormed_of_reachable reachable
  have stepCase := stepCase_of_step wellFormed stepped
  rw [coupled_step_iff wellFormed coupled stepCase, unregistersNoOther_iff wellFormed stepCase,
    and_self]

/-! ## A handle from before -/

/-- The first node of a group, and the second. -/
def firstNode : LanComNode := nextNode "robot" "10.0.0.1" "224.0.0.1" 7720 "zlc" empty

def secondNode : LanComNode := { firstNode with serial := 1 }

def initEvent : LifecycleEvent := .init "robot" "10.0.0.1" "224.0.0.1" 7720 "zlc" true

def freshRun : List LifecycleEvent := [initEvent, .stopNode firstNode, initEvent]

/-- A second node of the group is started after the first is stopped. -/
theorem coupled_along_freshRun :
    lifecycle.StatesAlong Coupled freshRun ∧ lifecycle.StepsAlong UnregistersNoOther freshRun := by
  have ran : (lifecycle.exec freshRun).isSome = true := by decide +kernel
  rcases Option.isSome_iff_exists.1 ran with ⟨nodes, run⟩
  apply (coupled_iff run).2
  apply Machine.stepsAlong_of_stepsFrom
  refine ⟨trivial, fun started stepped => ⟨?_, fun _ _ => ⟨trivial, fun _ _ => trivial⟩⟩⟩
  cases stepped
  intro other found
  apply Option.some.inj (found.symm.trans _)
  decide +kernel

/-- The first node is stopped a second time while the second one runs. -/
def staleRun : List LifecycleEvent := freshRun ++ [.stopNode firstNode]

/-- The second node, the default one, runs on without being registered. -/
theorem coupled_fails_along_staleRun : ¬ lifecycle.StatesAlong Coupled staleRun := by
  intro states
  have coupled := states staleRun _ List.prefix_rfl rfl
  have found := coupled.running secondNode (by decide +kernel) (by decide +kernel)
  revert found
  decide +kernel

end LanComNodes

end Pyzlc
