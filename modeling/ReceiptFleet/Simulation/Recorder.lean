import ReceiptFleet.Fleet.Poller

/-!
A recorder of what a poller reports, which can be told to refuse statuses.
-/

namespace ReceiptFleet.Simulation

open Fleet (Registration Sink)

/-- What a poller has reported: the accepted statuses in order, and how often it was ready. -/
structure Recorder where
  refusing : Bool := false
  published : List (Registration × Status) := []
  ready : Nat := 0

/-- How a poller reports to a recorder. -/
def Recorder.sink : Sink Recorder where
  status registration status r :=
    if r.refusing then (false, r)
    else (true, { r with published := r.published ++ [(registration, status)] })
  ready _ r := { r with ready := r.ready + 1 }

end ReceiptFleet.Simulation
