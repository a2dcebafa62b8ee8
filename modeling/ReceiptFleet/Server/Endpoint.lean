import ReceiptFleet.Text.Blank
import ReceiptFleet.Text.Digits
import ReceiptFleet.Text.Pieces

/-!
Printers as settings declare them: `name=address` or `name=address/width`, with commas between the
entries of a list. The first equals sign ends the name and the first slash behind it the address.
-/

namespace ReceiptFleet.Server

/-- A declared printer: its name, the text of its address, and its width if one is given. -/
structure Endpoint where
  name : String
  address : String
  width : Option Nat
deriving DecidableEq, Repr

/-- Why an entry declares no printer. -/
inductive EndpointError where
  | missingEquals (entry : String)
  | emptyName (entry : String)
  | invalidWidth (entry : String)
deriving DecidableEq, Repr

/-- The text of an endpoint error. -/
def EndpointError.message : EndpointError → String
  | .missingEquals entry => "missing '=' in printer entry: " ++ entry
  | .emptyName entry => "empty printer name: " ++ entry
  | .invalidWidth entry => "invalid width in printer entry: " ++ entry

/-- A text without blanks at its ends. -/
def stripBlanks (s : List Char) : List Char := Text.stripChars Text.isBlank s

/-- Reads an entry, given as characters. -/
def Endpoint.ofChars (s : List Char) : Except EndpointError Endpoint :=
  let entry := String.ofList s
  match Text.cut? '=' s with
  | none => .error (.missingEquals entry)
  | some (name, target) =>
    let name := stripBlanks name
    if name.isEmpty then .error (.emptyName entry)
    else
      let named := fun (address : List Char) (width : Option Nat) =>
        Endpoint.mk (String.ofList name) (String.ofList (stripBlanks address)) width
      match Text.cut? '/' target with
      | none => .ok (named target none)
      | some (address, width) =>
        match Text.unsigned? Text.limit64 (stripBlanks width) with
        | some width => .ok (named address (some width))
        | none => .error (.invalidWidth entry)

/-- Reads an entry. -/
def Endpoint.ofText (s : String) : Except EndpointError Endpoint := Endpoint.ofChars s.toList

/-- Reads an entry of a list; blank entries and those that declare no printer are skipped. -/
def Endpoint.ofEntry? (s : List Char) : Option Endpoint :=
  let entry := stripBlanks s
  if entry.isEmpty then none
  else match Endpoint.ofChars entry with
    | .ok endpoint => some endpoint
    | .error _ => none

/-- Reads a list of entries. -/
def endpoints (value : String) : List Endpoint :=
  (Text.pieces ',' value.toList).filterMap Endpoint.ofEntry?

end ReceiptFleet.Server
