import ReceiptFleet.Fleet.Poller
import ReceiptFleet.Job.Basic
import ReceiptFleet.Status.Request

/-!
Simulated devices. A device counts how it is used, answers fetches from a script, and can be told to be
slow at an operation or to fail it. Every operation has a beginning and an end: it is counted when it
begins, and whether it fails is decided when it ends.
-/

namespace ReceiptFleet.Simulation

open Fleet (Device)

/-- What a device is used for. -/
inductive Operation where
  | openUp
  | close
  | fetch
  | execute
deriving DecidableEq, Repr

/-- A simulated device: its name, its width, how its answers are read, whether it is open, how often it
was opened, closed and asked, the jobs that it has done, its next answers and the one after those, and for
each operation its duration in milliseconds and its fault. -/
structure SimulatedDevice where
  name : String
  width : Nat := 42
  decoder : StatusDecoder := .epson
  isOpen : Bool := false
  opens : Nat := 0
  closes : Nat := 0
  fetches : Nat := 0
  jobs : List Job := []
  script : List (Except Fault Status) := []
  standing : Except Fault Status := .ok (.ofFlags [(Status.offlineField, false)])
  delay : Operation → Nat := fun _ => 0
  fault : Operation → Option Fault := fun _ => none

namespace SimulatedDevice

/-! ## Setting up -/

/-- The device with answers added to its script. -/
def addScript (d : SimulatedDevice) (answers : List (Except Fault Status)) : SimulatedDevice :=
  { d with script := d.script ++ answers }

/-- The device with the duration of an operation set. -/
def setDelay (d : SimulatedDevice) (operation : Operation) (ms : Nat) : SimulatedDevice :=
  { d with delay := fun o => if o = operation then ms else d.delay o }

/-- The device with the fault of an operation set or taken back. -/
def setFault (d : SimulatedDevice) (operation : Operation) (fault : Option Fault) : SimulatedDevice :=
  { d with fault := fun o => if o = operation then fault else d.fault o }

/-! ## Operations -/

/-- The device when an operation begins. -/
def begin (d : SimulatedDevice) : Operation → SimulatedDevice
  | .openUp => { d with opens := d.opens + 1 }
  | .close => { d with isOpen := false, closes := d.closes + 1 }
  | .fetch => { d with fetches := d.fetches + 1 }
  | .execute => d

/-- The end of opening. -/
def endOpen (d : SimulatedDevice) : Except Fault Unit × SimulatedDevice :=
  match d.fault .openUp with
  | some fault => (.error fault, d)
  | none => (.ok (), { d with isOpen := true })

/-- The end of closing. -/
def endClose (d : SimulatedDevice) : Except Fault Unit × SimulatedDevice :=
  match d.fault .close with
  | some fault => (.error fault, d)
  | none => (.ok (), d)

/-- The end of a fetch. -/
def endFetch (d : SimulatedDevice) : Except Fault Status × SimulatedDevice :=
  match d.fault .fetch, d.script with
  | some fault, _ => (.error fault, d)
  | none, answer :: script => (answer, { d with script })
  | none, [] => (d.standing, d)

/-- The end of doing a job. -/
def endExecute (d : SimulatedDevice) (job : Job) : Except Fault Unit × SimulatedDevice :=
  match d.fault .execute with
  | some fault => (.error fault, d)
  | none => (.ok (), { d with jobs := d.jobs ++ [job] })

/-- A simulated device whose operations end as soon as they begin. -/
def prompt : Device SimulatedDevice where
  isOpen := SimulatedDevice.isOpen
  openUp d := (d.begin .openUp).endOpen
  fetch d := (d.begin .fetch).endFetch
  close d := (d.begin .close).endClose

end SimulatedDevice

end ReceiptFleet.Simulation
