import Mathlib.Data.List.Basic

/-!
# Channels that lose messages

A first-in-first-out channel between one sender and one receiver: a message may be refused when it
is handed over and lost on its way, but nothing overtakes, nothing comes twice and nothing comes
that was not sent.  If nothing is lost, what was taken and what is on its way is all that was sent.
-/

namespace Pyzlc.Foundation

universe u

/-- What was handed over so far, what of it is on its way, and what was taken. -/
structure Channel (α : Type u) where
  offered : List α
  transit : List α
  taken : List α

namespace Channel

variable {α : Type u} {channel next : Channel α} {message : α}

def empty : Channel α where
  offered := []
  transit := []
  taken := []

/-- Hand a message over; a full channel does not keep it. -/
def offer (kept : Bool) (message : α) (channel : Channel α) : Channel α :=
  { channel with
    offered := channel.offered ++ [message]
    transit := channel.transit ++ if kept then [message] else [] }

/-- The message at a position of the way is lost. -/
def lose (position : Nat) (channel : Channel α) : Channel α :=
  { channel with transit := channel.transit.eraseIdx position }

/-- Take the first message on its way. -/
def take (channel : Channel α) : Option (α × Channel α) :=
  match channel.transit with
  | [] => none
  | message :: rest =>
      some (message, { channel with transit := rest, taken := channel.taken ++ [message] })

/-- What was taken or can still be. -/
def carried (channel : Channel α) : List α := channel.taken ++ channel.transit

/-- What is carried was handed over, in this order. -/
def Orderly (channel : Channel α) : Prop := channel.carried.Sublist channel.offered

theorem take_eq_some (took : channel.take = some (message, next)) :
    ∃ rest, channel.transit = message :: rest ∧
      next = { channel with transit := rest, taken := channel.taken ++ [message] } := by
  unfold take at took
  split at took
  next => cases took
  next first rest arrives =>
    cases took
    exact ⟨rest, arrives, rfl⟩

theorem carried_offer (kept : Bool) (message : α) (channel : Channel α) :
    (channel.offer kept message).carried = channel.carried ++ if kept then [message] else [] :=
  (List.append_assoc _ _ _).symm

theorem carried_take (took : channel.take = some (message, next)) :
    next.carried = channel.carried := by
  rcases take_eq_some took with ⟨rest, arrives, rfl⟩
  rw [carried, carried, arrives, List.append_assoc]
  rfl

theorem orderly_empty : (empty : Channel α).Orderly := List.Sublist.refl []

theorem Orderly.offer (orderly : channel.Orderly) (kept : Bool) (message : α) :
    (channel.offer kept message).Orderly := by
  rw [Orderly, carried_offer]
  apply List.Sublist.append orderly
  cases kept with
  | true => exact List.Sublist.refl _
  | false => exact List.nil_sublist _

theorem Orderly.lose (orderly : channel.Orderly) (position : Nat) :
    (channel.lose position).Orderly := by
  have fewer : (channel.lose position).carried.Sublist channel.carried :=
    List.Sublist.append (List.Sublist.refl _) (List.eraseIdx_sublist _ _)
  exact fewer.trans orderly

theorem Orderly.take (orderly : channel.Orderly) (took : channel.take = some (message, next)) :
    next.Orderly := by
  have same : next.offered = channel.offered := by
    rcases take_eq_some took with ⟨rest, _, rfl⟩
    rfl
  rw [Orderly, carried_take took, same]
  exact orderly

theorem Orderly.taken (orderly : channel.Orderly) : channel.taken.Sublist channel.offered :=
  (List.sublist_append_left _ _).trans orderly

end Channel

end Pyzlc.Foundation
