import ReceiptFleet.Job.Basic
import ReceiptFleet.Markup.Parse
import ReceiptFleet.Printer.Fault

/-!
Calls on a fleet: to remove a printer, or to print on one. A call goes through stages, one step at a time;
it finds its printer, waits for the device, uses it once, and returns.
-/

namespace ReceiptFleet.Fleet

/-- What a fleet is asked to do. -/
inductive Request where
  | remove (name : String)
  | print (name markup : String)
  | printDocument (name : String) (document : Markup.Document)

/-- Why a call failed. -/
inductive CallError where
  | markup (error : Markup.MarkupError)
  | device (printer : String) (fault : Fault)
  | unknownPrinter (name : String)
deriving DecidableEq, Repr

/-- The text of a call error. -/
def CallError.message : CallError → String
  | .markup error => error.message
  | .device printer fault => "Printer " ++ printer ++ ": " ++ fault.message
  | .unknownPrinter name => "Unknown printer: " ++ name

/-- The failures of removing all printers of a fleet. -/
structure TeardownError where
  errors : List CallError
deriving DecidableEq, Repr

/-- The text of a teardown error. -/
def TeardownError.message (e : TeardownError) : String :=
  toString e.errors.length ++ " printer(s) failed to shut down"

/-- What a call uses a device for. -/
inductive Work where
  | close
  | execute (job : Job)
deriving DecidableEq, Repr

/-- How far a call has got, with the registration that it is about: asked; the entry taken out of the
registry; bound for the device; waiting for it; working with it; waiting for the poller to stop; or
returned. -/
inductive Progress where
  | asked
  | taken (id : Nat)
  | bound (id : Nat) (work : Work)
  | waiting (id : Nat) (work : Work)
  | working (id : Nat) (work : Work)
  | joining (id : Nat) (result : Except Fault Unit)
  | returned (result : Except CallError Unit)

/-- A call: what was asked, and how far it has got. -/
structure Call where
  request : Request
  progress : Progress := .asked

namespace Request

/-- The name of the printer that a request is about. -/
def name : Request → String
  | .remove name => name
  | .print name _ => name
  | .printDocument name _ => name

end Request

namespace Call

/-- The result of a call that has returned. -/
def result? (c : Call) : Option (Except CallError Unit) :=
  match c.progress with
  | .returned result => some result
  | _ => none

/-- The result of using a device on behalf of a call. -/
def deviceResult (c : Call) (result : Except Fault Unit) : Except CallError Unit :=
  result.mapError (.device c.request.name)

end Call

/-- The result of removing all printers, from the results of removing each. -/
def teardownResult (results : List (Except CallError Unit)) : Except TeardownError Unit :=
  let errors := results.filterMap fun
    | .ok () => none
    | .error e => some e
  if errors.isEmpty then .ok () else .error ⟨errors⟩

end ReceiptFleet.Fleet
