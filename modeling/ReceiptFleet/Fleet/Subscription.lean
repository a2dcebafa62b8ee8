/-!
Subscriptions to events that are sent once and kept for a while. A subscriber who reads too late
has lost the oldest events and is told how many.
-/

namespace ReceiptFleet.Fleet

/-- How many events are kept when a number is asked for: the next power of two, at least one. -/
def keptFor (capacity : Nat) : Nat := Nat.nextPowerOfTwo (max capacity 1)

/-- A place in a list of events: how many had been sent when its subscriber last read. -/
structure Subscription where
  seen : Nat
deriving DecidableEq, Repr

/-- What there is to read: how many events were lost, and the others in order. -/
structure Reading (α : Type) where
  lost : Nat
  events : List α
deriving DecidableEq, Repr

namespace Subscription

variable {α : Type}

/-- A new subscription, after the events sent so far. -/
def start (sent : List α) : Subscription := ⟨sent.length⟩

/-- What is pending, where `sent` holds all events so far, the latest first, and the latest `kept` of
them can still be read. -/
def pending (s : Subscription) (kept : Nat) (sent : List α) : Reading α :=
  let unread := sent.length - s.seen
  ⟨unread - kept, (sent.take (min unread kept)).reverse⟩

end Subscription

end ReceiptFleet.Fleet
