import Mathlib.Data.List.Infix
import Pyzlc.Nodes.Pair

/-!
# Descriptions that are read in parts

A worker packs the description of a node while the node registers: the version first, then the
topics, then the services.  Every part that is read is the one the node has at some moment of the
run, and no part is read before the one in front of it.
-/

namespace Pyzlc

section Definitions

variable {ε : Type} (describedAt : List ε → NodeInfo → Prop)

/-- Between two moments of a run the version was read, and then the topics. -/
def SnapshotAlong (begins trace : List ε) : Snapshot → Prop
  | .infoIdRead infoId => ∃ first versioned, begins <+: first ∧ first <+: trace ∧
      describedAt first versioned ∧ infoId = versioned.infoID
  | .topicsRead infoId topics => ∃ first second versioned listed, begins <+: first ∧
      first <+: second ∧ second <+: trace ∧ describedAt first versioned ∧
      describedAt second listed ∧ infoId = versioned.infoID ∧ topics = listed.topics

/-- Between two moments of a run an answer was read: its version, at the same moment or later its
topics, and at the same moment or later its services and the rest. -/
def AnswerAlong (begins trace : List ε) (answer : NodeInfo) : Prop :=
  ∃ first second third versioned listed last, begins <+: first ∧ first <+: second ∧
    second <+: third ∧ third <+: trace ∧ describedAt first versioned ∧
    describedAt second listed ∧ describedAt third last ∧
    answer = { last with infoID := versioned.infoID, topics := listed.topics }

end Definitions

variable {ε : Type} {describedAt : List ε → NodeInfo → Prop} {begins trace longer : List ε}
  {info answer : NodeInfo} {infoId : Int} {topics : List SocketInfo}

theorem SnapshotAlong.later {snapshot : Snapshot}
    (along : SnapshotAlong describedAt begins trace snapshot) (isPrefix : trace <+: longer) :
    SnapshotAlong describedAt begins longer snapshot := by
  cases snapshot with
  | infoIdRead infoId =>
      rcases along with ⟨first, versioned, after, within, rest⟩
      exact ⟨first, versioned, after, within.trans isPrefix, rest⟩
  | topicsRead infoId topics =>
      rcases along with ⟨first, second, versioned, listed, after, before, within, rest⟩
      exact ⟨first, second, versioned, listed, after, before, within.trans isPrefix, rest⟩

theorem AnswerAlong.later (along : AnswerAlong describedAt begins trace answer)
    (isPrefix : trace <+: longer) : AnswerAlong describedAt begins longer answer := by
  rcases along with
    ⟨first, second, third, versioned, listed, last, after, before, between, within, rest⟩
  exact ⟨first, second, third, versioned, listed, last, after, before, between,
    within.trans isPrefix, rest⟩

/-- The version is read. -/
theorem snapshotAlong_infoId (after : begins <+: trace) (described : describedAt trace info) :
    SnapshotAlong describedAt begins trace (.infoIdRead info.infoID) :=
  ⟨trace, info, after, List.prefix_rfl, described, rfl⟩

/-- The topics are read after the version. -/
theorem SnapshotAlong.readTopics
    (along : SnapshotAlong describedAt begins trace (.infoIdRead infoId))
    (described : describedAt trace info) :
    SnapshotAlong describedAt begins trace (.topicsRead infoId info.topics) := by
  rcases along with ⟨first, versioned, after, within, versionedAt, same⟩
  exact ⟨first, trace, versioned, info, after, within, List.prefix_rfl, versionedAt, described,
    same, rfl⟩

/-- The services and the rest are read after the topics. -/
theorem SnapshotAlong.readServices
    (along : SnapshotAlong describedAt begins trace (.topicsRead infoId topics))
    (described : describedAt trace info) :
    AnswerAlong describedAt begins trace { info with infoID := infoId, topics := topics } := by
  rcases along with
    ⟨first, second, versioned, listed, after, before, within, versionedAt, listedAt, rfl, rfl⟩
  exact ⟨first, second, trace, versioned, listed, info, after, before, within, List.prefix_rfl,
    versionedAt, listedAt, described, rfl⟩

end Pyzlc
