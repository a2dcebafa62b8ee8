import ReceiptFleet.Markup.Document
import ReceiptFleet.Markup.Xml.Namespace
import ReceiptFleet.Markup.Xml.Token

/-!
From tokens to a tree. The elements that are open form a stack; adjacent texts become one, and a
text of nothing but blanks is dropped.
-/

namespace ReceiptFleet.Markup.Xml

/-- An element that is still open, with the children that it has so far, last first. -/
structure OpenElement where
  name : Name
  attributes : Keyed String
  scope : Scope
  children : List Node

/-- The node of an open element that ends. -/
def OpenElement.node (e : OpenElement) : Node :=
  .element e.name.localPart e.attributes e.children.reverse

/-- A tree under construction: the open elements, innermost first, the text since the last tag or
aside, and the finished element at the top. -/
structure Builder where
  stack : List OpenElement := []
  text : List Char := []
  root : Option Node := none

namespace Builder

/-- Adds a finished node to the innermost open element, or at the top. -/
def add (b : Builder) (node : Node) : Builder :=
  match b.stack with
  | [] => { b with root := some node }
  | inner :: outer => { b with stack := { inner with children := node :: inner.children } :: outer }

/-- Ends the text at hand; it becomes a node unless it is blank. -/
def flush (b : Builder) : Builder :=
  let ended := { b with text := [] }
  if Text.isAllBlank b.text then ended else ended.add (.text (String.ofList b.text))

/-- The scope of the innermost open element. -/
def scope (b : Builder) : Scope :=
  match b.stack with
  | [] => []
  | inner :: _ => inner.scope

/-- A start tag as an open element without children. -/
def opened? (b : Builder) (name : Name) (attributes : List Attribute) : Option OpenElement := do
  let declared ← declaredFor? name attributes
  let scope := declared.bindings ++ b.scope
  let resolved ← resolve? scope [] Keyed.empty declared.attributes
  if bindsElement scope name then some ⟨name, resolved, scope, []⟩ else none
where
  /-- The declarations of a start tag, whose own qualifier must not be the one of declarations. -/
  declaredFor? (name : Name) (attributes : List Attribute) : Option Declared :=
    if name.qualifier = "xmlns" then none else declared? attributes

/-- Takes up one token. A start tag that the text cuts off must be sound as far as it goes. -/
def step? (b : Builder) : Token → Option Builder
  | .text content => some { b with text := b.text ++ content }
  | .aside => some b.flush
  | .openTag name attributes => do
    let b := b.flush
    return { b with stack := (← b.opened? name attributes) :: b.stack }
  | .emptyTag name attributes => do
    let b := b.flush
    return b.add (← b.opened? name attributes).node
  | .cutTag name attributes => do
    let _ ← opened?.declaredFor? name attributes
    return b.flush
  | .closeTag name =>
    let b := b.flush
    match b.stack with
    | inner :: outer =>
      if inner.name = name then some (add { b with stack := outer } inner.node) else none
    | [] => none

end Builder

/-- The tree of a document's tokens, if they have an element. -/
def tree? (tokens : List Token) : Option (Option Node) :=
  (tokens.foldlM Builder.step? {}).map Builder.root

end ReceiptFleet.Markup.Xml
