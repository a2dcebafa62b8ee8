import ReceiptFleet.Job.Basic
import ReceiptFleet.Text.Utf8

/-!
Instructions as printer commands: an escape byte (ESC or GS), a letter and parameters, or the UTF-8
bytes of a text.
-/

namespace ReceiptFleet.Wire

/-- The byte that begins most commands. -/
def esc : UInt8 := 0x1B

/-- The byte that begins the commands of the second group. -/
def gs : UInt8 := 0x1D

/-- The parameter of a switch. -/
def switch (on : Bool) : UInt8 := if on then 1 else 0

/-- The parameter of an alignment. -/
def alignCode : Align → UInt8
  | .left => 0
  | .center => 1
  | .right => 2

/-- The parameter of a size: width in the high half of the byte, height in the low half. -/
def sizeCode : Size → UInt8
  | .normal => 0x00
  | .doubleHeight => 0x01
  | .doubleWidth => 0x10
  | .quadArea => 0x11

/-- The parameter of a typeface. -/
def fontCode : Font → UInt8
  | .a => 0
  | .b => 1

/-- The command of an instruction. -/
def command : Instruction → List UInt8
  | .init => [esc, 0x40]
  | .text s => Text.utf8 s.toList
  | .align align => [esc, 0x61, alignCode align]
  | .bold on => [esc, 0x45, switch on]
  | .underline on => [esc, 0x2D, switch on]
  | .underlineThick on => [esc, 0x2D, if on then 2 else 0]
  | .upsideDown on => [esc, 0x7B, switch on]
  | .invert on => [gs, 0x42, switch on]
  | .size size => [gs, 0x21, sizeCode size]
  | .font font => [esc, 0x4D, fontCode font]
  | .verticalTab => [0x0A]
  | .beep => [esc, 0x42, 3, 2]
  | .partialCut => [gs, 0x56, 1]
  | .cut => [gs, 0x56, 0]
  | .cashDrawer => [esc, 0x70, 0, 25, 250]

/-- The commands of a list of instructions, one after the other. -/
def commands (instructions : List Instruction) : List UInt8 := instructions.flatMap command

end ReceiptFleet.Wire
