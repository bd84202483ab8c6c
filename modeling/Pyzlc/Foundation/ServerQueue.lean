import Mathlib.Data.List.Nodup
import Mathlib.Data.List.Perm.Basic
import Pyzlc.Foundation.Machine

/-!
# A queue with several servers

Items are numbered in the order in which they are accepted, they are started in this order, and no
more of them are busy at a time than there are servers.  A queue carries this with it, so whatever
refines it cannot do otherwise.
-/

namespace Pyzlc.Foundation

/-- How many items were accepted and how many of them were started, and the busy ones. -/
structure ServerQueue (limit : Nat) where
  accepted : Nat
  started : Nat
  busy : List Nat
  started_le : started ≤ accepted
  length_le : busy.length ≤ limit
  nodup : busy.Nodup
  known : ∀ item ∈ busy, item < started

inductive ServerAction where
  | accept
  | start
  | finish (item : Nat)
  deriving DecidableEq

namespace ServerQueue

variable {limit : Nat}

def empty : ServerQueue limit where
  accepted := 0
  started := 0
  busy := []
  started_le := Nat.le_refl 0
  length_le := Nat.zero_le limit
  nodup := List.nodup_nil
  known := nofun

/-- The items that wait, the next one first. -/
def waiting (queue : ServerQueue limit) : List Nat :=
  List.range' queue.started (queue.accepted - queue.started)

def accept (queue : ServerQueue limit) : ServerQueue limit :=
  { queue with
    accepted := queue.accepted + 1
    started_le := Nat.le_succ_of_le queue.started_le }

/-- The item that waits longest gets a server. -/
def start (queue : ServerQueue limit) (waits : queue.started < queue.accepted)
    (free : queue.busy.length < limit) : ServerQueue limit where
  accepted := queue.accepted
  started := queue.started + 1
  busy := queue.started :: queue.busy
  started_le := waits
  length_le := free
  nodup := List.nodup_cons.2 ⟨fun listed => Nat.lt_irrefl _ (queue.known _ listed), queue.nodup⟩
  known := by
    intro item listed
    rcases List.mem_cons.1 listed with rfl | earlier
    · exact Nat.lt_succ_self _
    · exact Nat.lt_succ_of_lt (queue.known item earlier)

/-- An item gives its server back. -/
def finish (item : Nat) (queue : ServerQueue limit) : ServerQueue limit :=
  { queue with
    busy := queue.busy.erase item
    length_le := List.length_erase_le.trans queue.length_le
    nodup := queue.nodup.erase item
    known := fun other listed => queue.known other (List.mem_of_mem_erase listed) }

def step (queue : ServerQueue limit) : ServerAction → Option (ServerQueue limit)
  | .accept => some queue.accept
  | .start =>
      if possible : queue.started < queue.accepted ∧ queue.busy.length < limit then
        some (queue.start possible.1 possible.2)
      else none
  | .finish item => if item ∈ queue.busy then some (queue.finish item) else none

def machine (limit : Nat) : Machine (ServerQueue limit) ServerAction where
  start := empty
  step := step

variable {queue : ServerQueue limit}

theorem waiting_accept : queue.accept.waiting = queue.waiting ++ [queue.accepted] := by
  have more : queue.accepted + 1 - queue.started = queue.accepted - queue.started + 1 :=
    Nat.succ_sub queue.started_le
  show List.range' queue.started (queue.accepted + 1 - queue.started) = _
  rw [more, List.range'_concat, Nat.one_mul, Nat.add_sub_cancel' queue.started_le]
  rfl

theorem waiting_start {waits : queue.started < queue.accepted}
    {free : queue.busy.length < limit} :
    queue.waiting = queue.started :: (queue.start waits free).waiting := by
  have more : queue.accepted - queue.started = queue.accepted - (queue.started + 1) + 1 := by
    omega
  rw [waiting, more, List.range'_succ]
  rfl

theorem started_of_waiting {item : Nat} {rest : List Nat} (next : queue.waiting = item :: rest) :
    item = queue.started ∧ queue.started < queue.accepted := by
  have positive : 0 < queue.waiting.length := by
    rw [next]
    exact Nat.succ_pos _
  rw [waiting, List.length_range'] at positive
  have waits : queue.started < queue.accepted := Nat.lt_of_sub_pos positive
  have more : queue.accepted - queue.started = queue.accepted - (queue.started + 1) + 1 := by
    omega
  rw [waiting, more, List.range'_succ] at next
  exact ⟨(List.cons.inj next).1.symm, waits⟩

end ServerQueue

end Pyzlc.Foundation
