import ReceiptFleet.Job.Instruction

/-!
The formatting in effect: five switches, a size, an alignment and a typeface. Every formatting
instruction sets one of them, so a list of instructions has a formatting that it leaves behind.
-/

namespace ReceiptFleet

/-- The switches of formatting, in the order in which markup applies them. -/
inductive FontFlag where
  | bold
  | underline
  | underlineThick
  | upsideDown
  | invert
deriving DecidableEq, Repr

/-- All switches, in order. -/
def FontFlag.all : List FontFlag := [.bold, .underline, .underlineThick, .upsideDown, .invert]

/-- The attribute that controls a switch. -/
def FontFlag.attribute : FontFlag → String
  | .bold => "bold"
  | .underline => "underline"
  | .underlineThick => "underlineThick"
  | .upsideDown => "upsideDown"
  | .invert => "invert"

/-- The instruction that sets a switch. -/
def FontFlag.instruction : FontFlag → Bool → Instruction
  | .bold => .bold
  | .underline => .underline
  | .underlineThick => .underlineThick
  | .upsideDown => .upsideDown
  | .invert => .invert

/-- The formatting in effect; the default is plain text at the left in the first typeface. -/
structure Formatting where
  bold : Bool := false
  underline : Bool := false
  underlineThick : Bool := false
  upsideDown : Bool := false
  invert : Bool := false
  size : Size := .normal
  align : Align := .left
  font : Font := .a
deriving DecidableEq, Repr

namespace Formatting

/-- The formatting with a switch set. -/
def setFlag (f : Formatting) (flag : FontFlag) (on : Bool) : Formatting :=
  match flag with
  | .bold => { f with bold := on }
  | .underline => { f with underline := on }
  | .underlineThick => { f with underlineThick := on }
  | .upsideDown => { f with upsideDown := on }
  | .invert => { f with invert := on }

/-- The formatting after an instruction: each formatting instruction sets its own part. -/
def after (f : Formatting) : Instruction → Formatting
  | .bold on => { f with bold := on }
  | .underline on => { f with underline := on }
  | .underlineThick on => { f with underlineThick := on }
  | .upsideDown on => { f with upsideDown := on }
  | .invert on => { f with invert := on }
  | .size size => { f with size }
  | .align align => { f with align }
  | .font font => { f with font }
  | _ => f

/-- The formatting after a list of instructions. -/
def replay (f : Formatting) (instructions : List Instruction) : Formatting :=
  instructions.foldl after f

/-- A switch's instruction sets that switch. -/
theorem after_instruction (f : Formatting) (flag : FontFlag) (on : Bool)
    : f.after (flag.instruction on) = f.setFlag flag on := by
  cases flag <;> rfl

/-- Replaying is done part by part. -/
theorem replay_append (f : Formatting) (first second : List Instruction)
    : f.replay (first ++ second) = (f.replay first).replay second :=
  List.foldl_append

end Formatting

end ReceiptFleet
