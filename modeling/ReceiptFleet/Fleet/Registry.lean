import ReceiptFleet.Fleet.Poller
import ReceiptFleet.Keyed

/-!
What a fleet knows: its printers by name, their latest statuses, and the events that it has sent. Every
accepted status is sent as a snapshot of all statuses. A report counts only for the registration that is
in force under its name, and for none once the fleet is dropped.
-/

namespace ReceiptFleet.Fleet

/-- A printer of a fleet: the device behind it, its name and width, and what is reported of it while
its device cannot be reached. -/
structure Member where
  device : String
  name : String
  width : Nat
  unreachable : Status
deriving DecidableEq

/-- A registered printer. -/
structure Entry where
  id : Nat
  member : Member
deriving DecidableEq

/-- The latest status of every printer that has reported one. -/
abbrev Snapshot := Keyed Status

/-- Printers and statuses by name, and the snapshots and ready printers that were sent, the latest first. -/
structure Registry where
  entries : Keyed Entry := .empty
  statuses : Snapshot := .empty
  sent : List Snapshot := []
  ready : List Member := []
  dropped : Bool := false
deriving DecidableEq

namespace Registry

/-- The names of the registered printers, in order. -/
def names (r : Registry) : List String := r.entries.names

/-- Registers a printer under its name. -/
def register (r : Registry) (id : Nat) (member : Member) : Registry :=
  { r with entries := r.entries.insert member.name ⟨id, member⟩ }

/-- Forgets a name: its registration and its status. -/
def forget (r : Registry) (name : String) : Registry :=
  { r with entries := r.entries.erase name, statuses := r.statuses.erase name }

/-- The printer of a registration, if the registration is in force. -/
def member? (r : Registry) (registration : Registration) : Option Member :=
  if r.dropped then none
  else match r.entries.get? registration.name with
    | some entry => if entry.id = registration.id then some entry.member else none
    | none => none

/-- Accepts a status of a registration in force, and sends a snapshot. -/
def publish (r : Registry) (registration : Registration) (status : Status) : Bool × Registry :=
  match r.member? registration with
  | some _ =>
    let statuses := r.statuses.insert registration.name status
    (true, { r with statuses, sent := statuses :: r.sent })
  | none => (false, r)

/-- Sends that the printer of a registration in force is ready. -/
def announce (r : Registry) (registration : Registration) : Registry :=
  match r.member? registration with
  | some member => { r with ready := member :: r.ready }
  | none => r

/-- How pollers report to a registry. -/
def sink : Sink Registry where
  status registration status r := r.publish registration status
  ready registration r := r.announce registration

end Registry

end ReceiptFleet.Fleet
