import Mathlib.Algebra.Order.Ring.Int

/-!
# Data whose version follows its changes

A writer changes its data first and raises the version afterwards; a reader takes the
version first and the data afterwards.  Then data read under the version that is still
current is the current data, unless a change is waiting for its version.  What a reader
has taken is an observation, and observations survive everything the writer does.
-/

namespace Pyzlc.Foundation

universe u v w

/-- Data, its version, and whether a change waits for the version to be raised. -/
structure Versioned (δ : Type u) where
  data : δ
  version : Int
  changing : Bool

namespace Versioned

variable {δ : Type u} {β : Type v} {γ : Type w}

/-- The first half of a change. -/
def change (next : δ) (versioned : Versioned δ) : Versioned δ :=
  { versioned with data := next, changing := true }

/-- The second half of a change. -/
def publish (versioned : Versioned δ) : Versioned δ :=
  { versioned with version := versioned.version + 1, changing := false }

/-- A value was read, under a version taken before, off a part of the data. -/
structure Observed (versioned : Versioned δ) (read : δ → β) (version : Int) (value : β) :
    Prop where
  past : version ≤ versioned.version
  current : version = versioned.version → versioned.changing = false →
    value = read versioned.data

variable {versioned : Versioned δ} {read : δ → β} {other : δ → γ} {version : Int} {value : β}
  {otherValue : γ}

/-- Whatever is read now was read under any version taken up to now. -/
theorem observed_read (read : δ → β) (past : version ≤ versioned.version) :
    versioned.Observed read version (read versioned.data) where
  past := past
  current := fun _ _ => rfl

theorem Observed.change (observed : versioned.Observed read version value) (next : δ) :
    (versioned.change next).Observed read version value where
  past := observed.past
  current := by
    intro _ settled
    cases settled

theorem Observed.publish (observed : versioned.Observed read version value) :
    versioned.publish.Observed read version value where
  past := observed.past.trans (Int.le_add_one le_rfl)
  current := by
    intro same _
    have past := observed.past
    rw [same] at past
    exact absurd past (not_le_of_gt (Int.lt_add_one_of_le le_rfl))

/-- Two parts read under one version. -/
theorem Observed.prod (left : versioned.Observed read version value)
    (right : versioned.Observed other version otherValue) :
    versioned.Observed (fun data => (read data, other data)) version (value, otherValue) where
  past := left.past
  current := by
    intro same settled
    rw [left.current same settled, right.current same settled]

theorem Observed.map (observed : versioned.Observed read version value) (image : β → γ) :
    versioned.Observed (fun data => image (read data)) version (image value) where
  past := observed.past
  current := by
    intro same settled
    rw [observed.current same settled]

end Versioned

end Pyzlc.Foundation
