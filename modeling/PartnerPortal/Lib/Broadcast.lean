import Mathlib.Tactic.Common

/-!
# Broadcast channels that drop the oldest

A channel keeps its last messages.  A receiver stands at a position of what was ever sent, and takes
what follows it.  One that fell behind what is kept is told how many messages it missed, and goes on
with the oldest one there is.

Result: `Channel.recv_next` — what a receiver takes brings it forward, and never beyond the end.
-/

namespace Broadcast

structure Channel (α : Type*) where
  capacity : Nat
  /-- every message sent, of which the last ones are kept -/
  sent : List α

inductive Received (α : Type*) where
  | message (a : α)
  | lagged (missed : Nat)
deriving DecidableEq

namespace Channel

variable {α : Type*}

def send (tx : Channel α) (a : α) : Channel α := { tx with sent := tx.sent ++ [a] }

/-- The position of the oldest message that is kept. -/
def oldest (tx : Channel α) : Nat := tx.sent.length - tx.capacity

/-- What a receiver at a position takes, and the position it is at then. -/
def recv (tx : Channel α) (next : Nat) : Option (Received α × Nat) :=
  if next < tx.oldest then some (.lagged (tx.oldest - next), tx.oldest)
  else (tx.sent[next]?).map fun a => (.message a, next + 1)

variable {tx : Channel α} {next next' : Nat} {received : Received α}

@[simp] theorem send_length (a : α) : (tx.send a).sent.length = tx.sent.length + 1 := by
  simp [send]

theorem oldest_le : tx.oldest ≤ tx.sent.length := Nat.sub_le _ _

theorem recv_next (h : tx.recv next = some (received, next')) :
    next < next' ∧ next' ≤ tx.sent.length := by
  unfold recv at h
  split at h
  · rename_i hlag
    cases h
    exact ⟨hlag, oldest_le⟩
  · obtain ⟨a, ha, hreceived⟩ := Option.map_eq_some_iff.1 h
    cases hreceived
    exact ⟨Nat.lt_succ_self next, (List.getElem?_eq_some_iff.1 ha).1⟩

end Channel

end Broadcast
