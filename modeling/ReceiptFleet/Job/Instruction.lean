/-!
The instructions of a receipt printer: text, formatting and device actions, and the spellings of
the formatting modes.
-/

namespace ReceiptFleet

/-- Where a line stands between the margins. -/
inductive Align where
  | left
  | center
  | right
deriving DecidableEq, Repr, Inhabited

/-- The size of characters. -/
inductive Size where
  | normal
  | doubleHeight
  | doubleWidth
  | quadArea
deriving DecidableEq, Repr, Inhabited

/-- The two built-in typefaces. -/
inductive Font where
  | a
  | b
deriving DecidableEq, Repr, Inhabited

/-- What a printer is told to do, one step at a time. -/
inductive Instruction where
  | init
  | text (content : String)
  | align (align : Align)
  | bold (on : Bool)
  | underline (on : Bool)
  | underlineThick (on : Bool)
  | upsideDown (on : Bool)
  | invert (on : Bool)
  | size (size : Size)
  | font (font : Font)
  | verticalTab
  | beep
  | partialCut
  | cut
  | cashDrawer
deriving DecidableEq, Repr, Inhabited

/-- The kinds of formatting mode that have spellings. -/
inductive ModeKind where
  | align
  | size
  | font
deriving DecidableEq, Repr

/-- The word for a kind of mode. -/
def ModeKind.word : ModeKind → String
  | .align => "align"
  | .size => "size"
  | .font => "font"

/-- A spelling that no mode of a kind has. -/
structure ModeError where
  kind : ModeKind
  value : String
deriving DecidableEq, Repr

/-- The text of a mode error. -/
def ModeError.message (e : ModeError) : String := "Unknown " ++ e.kind.word ++ ": " ++ e.value

/-- The alignment of a spelling. -/
def Align.ofName? : String → Option Align
  | "left" => some .left
  | "center" => some .center
  | "right" => some .right
  | _ => none

/-- The spelling of an alignment. -/
def Align.name : Align → String
  | .left => "left"
  | .center => "center"
  | .right => "right"

/-- The size of a spelling. -/
def Size.ofName? : String → Option Size
  | "normal" => some .normal
  | "doubleHeight" => some .doubleHeight
  | "doubleWidth" => some .doubleWidth
  | "quadArea" => some .quadArea
  | _ => none

/-- The spelling of a size. -/
def Size.name : Size → String
  | .normal => "normal"
  | .doubleHeight => "doubleHeight"
  | .doubleWidth => "doubleWidth"
  | .quadArea => "quadArea"

/-- The typeface of a spelling. -/
def Font.ofName? : String → Option Font
  | "A" => some .a
  | "B" => some .b
  | _ => none

/-- The spelling of a typeface. -/
def Font.name : Font → String
  | .a => "A"
  | .b => "B"

/-- Reads the spelling of a mode of some kind, in its canonical form. -/
def ModeKind.read (kind : ModeKind) (value : String) : Except ModeError String :=
  let spelled := match kind with
    | .align => (Align.ofName? value).map Align.name
    | .size => (Size.ofName? value).map Size.name
    | .font => (Font.ofName? value).map Font.name
  match spelled with
  | some name => .ok name
  | none => .error ⟨kind, value⟩

end ReceiptFleet
