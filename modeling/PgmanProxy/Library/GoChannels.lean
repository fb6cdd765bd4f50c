import Mathlib.Data.List.Basic

/-!
# Buffered channels

What has been sent and not yet received, in order, and whether the channel is closed. An
operation that has to wait gives `none`. A receiver gets everything that was sent before
it learns that the channel is closed.
-/

namespace PgmanProxy.Library.GoChannels

set_option autoImplicit false

variable {Value : Type*}

structure Chan (Value : Type*) where
  buffer : List Value
  closed : Bool

def Chan.empty : Chan Value := ⟨[], false⟩

def Chan.close (chan : Chan Value) : Chan Value := ⟨chan.buffer, true⟩

/-- A send on a closed channel does not happen either: it is a panic. -/
def Chan.send (capacity : Nat) (chan : Chan Value) (value : Value) : Option (Chan Value) :=
  if chan.closed = false ∧ chan.buffer.length < capacity then
    some ⟨chan.buffer ++ [value], false⟩
  else none

/-- A received value, or the sign that there will be no more. -/
inductive Received (Value : Type*) where
  | value (value : Value)
  | closed

def Chan.receive (chan : Chan Value) : Option (Received Value × Chan Value) :=
  match chan.buffer with
  | value :: rest => some (.value value, ⟨rest, chan.closed⟩)
  | [] => if chan.closed then some (.closed, chan) else none

theorem send_some_iff (capacity : Nat) (chan sent : Chan Value) (value : Value) :
    chan.send capacity value = some sent ↔
      (chan.closed = false ∧ chan.buffer.length < capacity) ∧
        sent = ⟨chan.buffer ++ [value], false⟩ := by
  unfold Chan.send
  split
  · rename_i room
    rw [Option.some.injEq, eq_comm]
    exact (and_iff_right room).symm
  · rename_i full
    constructor
    · intro impossible
      cases impossible
    · exact fun both => absurd both.1 full

theorem receive_value (chan rest : Chan Value) (value : Value)
    (received : chan.receive = some (.value value, rest)) :
    chan.buffer = value :: rest.buffer ∧ rest.closed = chan.closed := by
  unfold Chan.receive at received
  split at received
  · rename_i first later buffer
    cases received
    exact ⟨buffer, rfl⟩
  · split at received <;> cases received

theorem receive_closed (chan rest : Chan Value)
    (received : chan.receive = some (.closed, rest)) :
    chan.buffer = [] ∧ chan.closed = true ∧ rest = chan := by
  unfold Chan.receive at received
  split at received
  · cases received
  · rename_i drained
    split at received
    · rename_i closed
      cases received
      exact ⟨drained, closed, rfl⟩
    · cases received

end PgmanProxy.Library.GoChannels
