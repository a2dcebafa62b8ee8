/-!
What can go wrong with a printer.
-/

namespace ReceiptFleet

/-- Why an operation on a printer failed. -/
inductive Fault where
  | connection (detail : String)
  | io (detail : String)
  | offline (detail : String)
  | timeout (detail : String)
  | invalidConfig (detail : String)
  | notOpen (detail : String)
deriving DecidableEq, Repr, Inhabited

/-- The text of a fault. -/
def Fault.message : Fault → String
  | .connection detail => "Connection failed: " ++ detail
  | .io detail => "IO error: " ++ detail
  | .offline detail => "Printer offline: " ++ detail
  | .timeout detail => "Timeout: " ++ detail
  | .invalidConfig detail => "Invalid config: " ++ detail
  | .notOpen detail => "Printer not open: " ++ detail

end ReceiptFleet
