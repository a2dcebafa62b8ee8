/-!
The element names that markup for printing knows.
-/

namespace ReceiptFleet.Markup

/-- The name of the root element of a document that can be printed. -/
def rootName : String := "printing"

/-- The kinds of element that print something. -/
inductive Tag where
  | verticalTab
  | beep
  | partialCut
  | cut
  | cashDrawer
  | style
  | paragraph
  | table
  | row
  | separator
deriving DecidableEq, Repr

/-- All kinds, with their element names. -/
def Tag.all : List Tag :=
  [.verticalTab, .beep, .partialCut, .cut, .cashDrawer, .style, .paragraph, .table, .row,
    .separator]

/-- The kind of an element name. -/
def Tag.ofName? : String → Option Tag
  | "verticalTab" => some .verticalTab
  | "beep" => some .beep
  | "partialCut" => some .partialCut
  | "cut" => some .cut
  | "cashDrawer" => some .cashDrawer
  | "style" => some .style
  | "p" => some .paragraph
  | "table" => some .table
  | "tr" => some .row
  | "separator" => some .separator
  | _ => none

end ReceiptFleet.Markup
