import ReceiptFleet.Printer.Address
import ReceiptFleet.Printer.Fault
import ReceiptFleet.Status.Request
import ReceiptFleet.Wire.ChineseMode

/-!
Printers that are reached over a network connection. A transport says what connecting, sending, receiving
and shutting down come to; the printer holds at most one connection and remembers whether it is open.
-/

namespace ReceiptFleet

/-- What an attempt to connect comes to. -/
inductive Connecting where
  | connected (connection : Nat)
  | timedOut
  | refused (detail : String)
deriving DecidableEq, Repr

/-- What waiting for one byte comes to. -/
inductive Receiving where
  | byte (b : UInt8)
  | ended
  | timedOut
  | failed (detail : String)
deriving DecidableEq, Repr

/-- A network, as a printer sees it: each action on the world `ω` has an outcome and leaves a world. -/
structure Transport (ω : Type) where
  connect : Printer.Address → ω → Connecting × ω
  send : Nat → List UInt8 → ω → Except String Unit × ω
  receive : Nat → ω → Receiving × ω
  shutDown : Nat → ω → Except String Unit × ω
  release : Nat → ω → ω

/-- A network on which nothing listens. -/
def Transport.refusing : Transport Unit where
  connect _ w := (.refused "Connection refused", w)
  send _ _ w := (.error "not connected", w)
  receive _ w := (.ended, w)
  shutDown _ w := (.ok (), w)
  release _ w := w

/-- A printer on a network: its name, address and width, whether it counts as open, and the connection
that it holds. -/
structure NetworkPrinter where
  name : String
  address : Printer.Address
  width : Nat := 42
  isOpen : Bool := false
  connection : Option Nat := none
deriving DecidableEq, Repr

namespace NetworkPrinter

/-- How the answers of the printer are read. -/
def decoder : StatusDecoder := .epson

/-- A printer at the address of a text, named after it. -/
def ofAddress (address : String) : Except Fault NetworkPrinter :=
  match Printer.Address.read? address with
  | some a => .ok { name := a.text, address := a }
  | none => .error (.invalidConfig ("Invalid address: " ++ address))

/-- A printer at a host and a port, which are put together with a colon. -/
def ofHost (host : String) (port : UInt16) : Except Fault NetworkPrinter :=
  ofAddress (host ++ ":" ++ toString port.toNat)

/-- An empty job for the printer. -/
def startJob (p : NetworkPrinter) : Job := Job.start p.width

/-- The fault of using a printer that holds no connection. -/
def notOpen (p : NetworkPrinter) : Fault := .notOpen p.name

variable {ω : Type}

/-- Connects. A connection that was held is given up for the new one; without a new one it stays. -/
def openUp (t : Transport ω) (p : NetworkPrinter) (w : ω)
    : Except Fault Unit × NetworkPrinter × ω :=
  match t.connect p.address w with
  | (.connected connection, w) =>
    let w := match p.connection with
      | some old => t.release old w
      | none => w
    (.ok (), { p with isOpen := true, connection := some connection }, w)
  | (.timedOut, w) => (.error (.timeout ("Connection timeout: " ++ p.address.text)), p, w)
  | (.refused detail, w) => (.error (.connection (p.address.text ++ ": " ++ detail)), p, w)

/-- Gives up the connection, if there is one, and shuts it down. -/
def close (t : Transport ω) (p : NetworkPrinter) (w : ω)
    : Except Fault Unit × NetworkPrinter × ω :=
  let closed := { p with isOpen := false, connection := none }
  match p.connection with
  | none => (.ok (), closed, w)
  | some connection =>
    match t.shutDown connection w with
    | (.ok (), w) => (.ok (), closed, t.release connection w)
    | (.error detail, w) => (.error (.io detail), closed, t.release connection w)

/-- Makes one request and waits for a byte of answer. -/
def ask (t : Transport ω) (p : NetworkPrinter) (connection : Nat) (request : StatusRequest) (w : ω)
    : Except Fault (List UInt8) × ω :=
  match t.send connection request.command w with
  | (.error detail, w) => (.error (.io detail), w)
  | (.ok (), w) =>
    match t.receive connection w with
    | (.byte b, w) => (.ok [b], w)
    | (.ended, w) => (.error (.offline p.name), w)
    | (.timedOut, w) => (.error (.timeout ("Status timeout: " ++ p.address.text)), w)
    | (.failed detail, w) => (.error (.io detail), w)

/-- Makes requests in order and merges what their answers say, up to the first that is not answered. -/
def askAll (t : Transport ω) (p : NetworkPrinter) (connection : Nat) (status : Status)
    : List StatusRequest → ω → Except Fault Status × ω
  | [], w => (.ok status, w)
  | request :: others, w =>
    match p.ask t connection request w with
    | (.ok answer, w) => p.askAll t connection (status.merge (decoder.decode request answer)) others w
    | (.error fault, w) => (.error fault, w)

/-- Fetches the status. -/
def status (t : Transport ω) (p : NetworkPrinter) (w : ω) : Except Fault Status × ω :=
  match p.connection with
  | none => (.error p.notOpen, w)
  | some connection =>
    p.askAll t connection (Status.empty.setFlag Status.notOpenField false) StatusRequest.all w

/-- Sends a job. -/
def execute (t : Transport ω) (p : NetworkPrinter) (job : Job) (w : ω) : Except Fault Unit × ω :=
  match p.connection with
  | none => (.error p.notOpen, w)
  | some connection =>
    match t.send connection job.wireBytes w with
    | (.ok (), w) => (.ok (), w)
    | (.error detail, w) => (.error (.io ("Write failed: " ++ detail)), w)

end NetworkPrinter

end ReceiptFleet
