import ReceiptFleet.Status.Basic

/-!
Asking a printer for its status. There are four requests, each a command of three bytes; a decoder
turns the answer to a request into fields. A decoder also says what is reported of a printer that
does not answer at all.
-/

namespace ReceiptFleet

/-- What a printer can be asked about. -/
inductive StatusRequest where
  | printer
  | offline
  | error
  | paperRoll
deriving DecidableEq, Repr

namespace StatusRequest

/-- All requests, in the order in which they are made. -/
def all : List StatusRequest := [.printer, .offline, .error, .paperRoll]

/-- The number of a request. -/
def code : StatusRequest → UInt8
  | .printer => 1
  | .offline => 2
  | .error => 3
  | .paperRoll => 4

/-- The command of a request: DLE, EOT and its number. -/
def command (r : StatusRequest) : List UInt8 := [0x10, 0x04, r.code]

end StatusRequest

/-- How the answers of a printer are read. -/
structure StatusDecoder where
  decode : StatusRequest → List UInt8 → Status

namespace StatusDecoder

/-- What is reported of a printer that cannot be reached: that it is not open, and what the decoder
makes of empty answers. -/
def unreachable (d : StatusDecoder) : Status :=
  StatusRequest.all.foldl (fun s r => s.merge (d.decode r []))
    (Status.empty.setFlag Status.notOpenField true)

/-- Whether a bit of the first byte is set; an empty answer has no bit set. -/
def bit (answer : List UInt8) (n : Nat) : Bool :=
  match answer with
  | b :: _ => b.toNat.testBit n
  | [] => false

/-- The decoder of Epson printers: bits 2, 3, 5 and 6 of the answer, and for the paper roll either of
two bits. -/
def epson : StatusDecoder where
  decode request answer :=
    let bit := bit answer
    match request with
    | .printer => .ofFlags [("drawerOpen", bit 2), (Status.offlineField, bit 3),
        ("waitingOnlineRecovery", bit 5), ("feedButtonPressed", bit 6)]
    | .offline => .ofFlags [("coverOpen", bit 2), ("paperFeeding", bit 3), ("paperEndStop", bit 5),
        ("errorOccurred", bit 6)]
    | .error => .ofFlags [("recoverableError", bit 2), ("autocutterError", bit 3),
        ("unrecoverableError", bit 5), ("autoRecoverableError", bit 6)]
    | .paperRoll => .ofFlags [("paperNearEnd", bit 2 || bit 3), ("paperEnd", bit 5 || bit 6)]

end StatusDecoder

end ReceiptFleet
