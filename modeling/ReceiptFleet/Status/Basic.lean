import ReceiptFleet.Binary64.Basic
import ReceiptFleet.Keyed

/-!
Printer statuses: named values, each a truth value or a number. Statuses compare as their values do,
so one with a NaN differs even from itself.
-/

namespace ReceiptFleet

/-- The value of a status field. -/
inductive StatusValue where
  | flag (on : Bool)
  | number (value : Binary64)
deriving DecidableEq, Repr, Inhabited

/-- Whether two values are equal; numbers compare as numbers. -/
def StatusValue.equal : StatusValue → StatusValue → Bool
  | .flag a, .flag b => a == b
  | .number x, .number y => x.equal y
  | _, _ => false

/-- What is known of a printer: named values. -/
structure Status where
  fields : Keyed StatusValue
deriving DecidableEq, Inhabited

namespace Status

/-- The field that tells that a printer cannot be reached. -/
def notOpenField : String := "notOpen"

/-- The field that tells that a printer is offline. -/
def offlineField : String := "offline"

/-- The status without fields. -/
def empty : Status := ⟨.empty⟩

/-- The status with a field set. -/
def set (s : Status) (name : String) (value : StatusValue) : Status := ⟨s.fields.insert name value⟩

/-- The status with a truth value set. -/
def setFlag (s : Status) (name : String) (on : Bool) : Status := s.set name (.flag on)

/-- The value of a field. -/
def get? (s : Status) (name : String) : Option StatusValue := s.fields.get? name

/-- Whether a field is set to true. A number is not true. -/
def flag (s : Status) (name : String) : Bool := s.get? name = some (.flag true)

/-- Whether the printer cannot be reached. -/
def notOpen (s : Status) : Bool := s.flag notOpenField

/-- Whether the printer is offline. -/
def offline (s : Status) : Bool := s.flag offlineField

/-- The fields of both; where both have a field, the second counts. -/
def merge (s other : Status) : Status := ⟨s.fields.merge other.fields⟩

/-- A status of truth values. -/
def ofFlags (flags : List (String × Bool)) : Status :=
  flags.foldl (fun s (name, on) => s.setFlag name on) empty

/-- Whether two lists of fields are equal, value by value. -/
def equalEntries : List (String × StatusValue) → List (String × StatusValue) → Bool
  | [], [] => true
  | (name, value) :: rest, (name', value') :: rest' =>
    name == name' && value.equal value' && equalEntries rest rest'
  | _, _ => false

/-- Whether two statuses have equal fields. -/
def equal (s other : Status) : Bool := equalEntries s.fields.entries other.fields.entries

/-- Whether a status is news after a previous one; without a previous one it always is. -/
def differsFrom (s : Status) : Option Status → Bool
  | some previous => !previous.equal s
  | none => true

end Status

end ReceiptFleet
