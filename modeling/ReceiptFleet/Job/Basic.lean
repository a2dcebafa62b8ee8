import ReceiptFleet.Job.Instruction

/-!
Print jobs: a line width and a list of instructions. A new job begins by initializing the printer;
instructions are only ever added at its end.
-/

namespace ReceiptFleet

/-- A print job for a printer of some width, in columns. -/
structure Job where
  width : Nat
  instructions : List Instruction
deriving DecidableEq, Repr

namespace Job

/-- A job that only initializes the printer. -/
def start (width : Nat) : Job := ⟨width, [.init]⟩

/-- The job with an instruction added. -/
def push (job : Job) (instruction : Instruction) : Job :=
  { job with instructions := job.instructions ++ [instruction] }

/-- The job with a text added, unless it is empty. -/
def print (job : Job) (s : String) : Job :=
  if s = "" then job else job.push (.text s)

/-- The job with a text and a line end added. -/
def line (job : Job) (s : String) : Job := job.print (s ++ "\n")

/-- Whether the job does nothing but initialize. -/
def isEmpty (job : Job) : Bool := job.instructions.all (· = .init)

/-- The text of an instruction; most have none. -/
def textOf : Instruction → String
  | .text s => s
  | _ => ""

/-- The texts of the job in order, without any formatting. -/
def plainText (job : Job) : String := String.join (job.instructions.map textOf)

end Job

end ReceiptFleet
