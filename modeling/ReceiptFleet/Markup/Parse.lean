import ReceiptFleet.Markup.Xml.Content
import ReceiptFleet.Markup.Xml.Tree

/-!
Reading a document from XML text. A blank text and a text without an element are the empty document;
anything that is not well formed is refused.
-/

namespace ReceiptFleet.Markup

/-- Why markup cannot be printed. -/
inductive MarkupError where
  | malformed
  | empty
  | notPrinting (root : String)
deriving DecidableEq, Repr

/-- The text of a markup error. -/
def MarkupError.message : MarkupError → String
  | .malformed => "Malformed markup"
  | .empty => "Markup document is empty"
  | .notPrinting root => "Root element must be <printing>, found <" ++ root ++ ">"

/-- Reads a document. -/
def Document.parse (xml : String) : Except MarkupError Document :=
  if Text.isAllBlank xml.toList then .ok .empty
  else match (Xml.tokens? xml.toList).bind Xml.tree? with
    | none => .error .malformed
    | some none => .ok .empty
    | some (some root) => .ok ⟨[root]⟩

end ReceiptFleet.Markup
