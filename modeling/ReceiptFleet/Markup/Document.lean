import ReceiptFleet.Keyed
import ReceiptFleet.Text.Blank

/-!
Markup documents as trees: elements with attributes and children, and texts. A document is a list of
top-level nodes; its root is the first element among them.
-/

namespace ReceiptFleet.Markup

/-- A piece of markup: a text, or an element with attributes and children. -/
inductive Node where
  | text (content : String)
  | element (name : String) (attributes : Keyed String) (children : List Node)

instance : Inhabited Node := ⟨.text ""⟩

/-- An element, taken out of its node. -/
structure Element where
  name : String
  attributes : Keyed String
  children : List Node
deriving Inhabited

/-- The element of a node that is one. -/
def Node.element? : Node → Option Element
  | .element name attributes children => some ⟨name, attributes, children⟩
  | .text _ => none

/-- The text of a node that is one. -/
def Node.text? : Node → Option String
  | .text content => some content
  | .element .. => none

/-- The elements among some nodes, in order. -/
def elementsOf (nodes : List Node) : List Element := nodes.filterMap Node.element?

namespace Element

/-- The value of an attribute. -/
def attribute? (e : Element) (name : String) : Option String := e.attributes.get? name

/-- The child elements, in order. -/
def elements (e : Element) : List Element := elementsOf e.children

/-- The child elements of a name, in order. -/
def elementsNamed (e : Element) (name : String) : List Element :=
  e.elements.filter (·.name = name)

/-- The first text among the children, trimmed; the empty text if there is none. -/
def innerText (e : Element) : String :=
  match e.children.findSome? Node.text? with
  | some content => Text.trim content
  | none => ""

end Element

/-- A document: its top-level nodes. -/
structure Document where
  nodes : List Node
deriving Inhabited

namespace Document

/-- The document without any node. -/
def empty : Document := ⟨[]⟩

/-- The first top-level element. -/
def root? (document : Document) : Option Element := document.nodes.findSome? Node.element?

end Document

mutual
/-- Whether two nodes are the same tree. -/
def Node.decideEq : (a b : Node) → Decidable (a = b)
  | .text s, .text t => if h : s = t then isTrue (by rw [h]) else isFalse (by simp [h])
  | .element n as cs, .element m bs ds =>
    if h : n = m ∧ as = bs then
      match Node.decideEqList cs ds with
      | isTrue same => isTrue (by rw [h.1, h.2, same])
      | isFalse different => isFalse (by simp [different])
    else isFalse (by simp only [Node.element.injEq]; exact fun e => h ⟨e.1, e.2.1⟩)
  | .text _, .element .. => isFalse (by simp)
  | .element .., .text _ => isFalse (by simp)

/-- Whether two lists of nodes are the same forest. -/
def Node.decideEqList : (as bs : List Node) → Decidable (as = bs)
  | [], [] => isTrue rfl
  | [], _ :: _ => isFalse (by simp)
  | _ :: _, [] => isFalse (by simp)
  | a :: as, b :: bs =>
    match Node.decideEq a b with
    | isFalse different => isFalse (by simp [different])
    | isTrue head =>
      match Node.decideEqList as bs with
      | isTrue tail => isTrue (by rw [head, tail])
      | isFalse different => isFalse (by simp [different])
end

instance : DecidableEq Node := Node.decideEq

deriving instance DecidableEq for Document

end ReceiptFleet.Markup
