import ReceiptFleet.Keyed
import ReceiptFleet.Markup.Xml.Scan

/-!
Namespaces. Declarations among the attributes of an element bind qualifiers to names of namespaces,
for the element and all inside it. Only local names stay in the tree; but a qualifier must be bound,
and no two attributes of an element may have the same local name in the same namespace.
-/

namespace ReceiptFleet.Markup.Xml

/-- The namespace of the qualifier `xml`. -/
def xmlNamespace : String := "http://www.w3.org/XML/1998/namespace"

/-- The namespace of declarations, which nothing may be bound to. -/
def declarationNamespace : String := "http://www.w3.org/2000/xmlns/"

/-- What qualifiers are bound to, innermost first; the empty qualifier is the default. -/
abbrev Scope := List (String × String)

/-- The namespace that a qualifier is bound to. -/
def Scope.find? (scope : Scope) (qualifier : String) : Option String :=
  (List.find? (·.1 = qualifier) scope).map Prod.snd

/-- What the attributes of an element come to: its own bindings, in the order of their declarations,
and the attributes that declare nothing. -/
structure Declared where
  bindings : Scope := []
  attributes : List Attribute := []
deriving DecidableEq

/-- Takes up one more attribute. A declaration must not bind the namespace of declarations, nor bind
`xml` and its namespace to anything but each other, nor bind a qualifier twice; the default may be
declared twice, and then the first counts. -/
def Declared.add? (d : Declared) (added : Attribute) : Option Declared :=
  let (name, value) := added
  if name.qualifier = "xmlns" then
    if value = declarationNamespace then none
    else if name.localPart = "xml" ∧ value ≠ xmlNamespace then none
    else if name.localPart ≠ "xml" ∧ value = xmlNamespace then none
    else if d.bindings.any (·.1 = name.localPart) then none
    else if value = xmlNamespace then some d
    else some { d with bindings := d.bindings ++ [(name.localPart, value)] }
  else if name.localPart = "xmlns" then
    if value = declarationNamespace ∨ value = xmlNamespace then none
    else some { d with bindings := d.bindings ++ [("", value)] }
  else some { d with attributes := d.attributes ++ [added] }

/-- Sorts the attributes of an element into declarations and others. -/
def declared? (attributes : List Attribute) : Option Declared :=
  attributes.foldlM Declared.add? {}

/-- The namespace of an attribute: none without a qualifier, else what the qualifier is bound to. -/
def attributeNamespace? (scope : Scope) (name : Name) : Option (Option String) :=
  if name.qualifier = "xml" then some (some xmlNamespace)
  else if name.qualifier = "" then some none
  else (scope.find? name.qualifier).map some

/-- The attributes of an element by local name, where `seen` holds the expanded names before. Of two
with one local name the later counts. -/
def resolve? (scope : Scope) (seen : List (Option String × String)) (resolved : Keyed String)
    : List Attribute → Option (Keyed String)
  | [] => some resolved
  | (name, value) :: rest => do
    let expanded := (← attributeNamespace? scope name, name.localPart)
    if seen.contains expanded then none
    else resolve? scope (expanded :: seen) (resolved.insert name.localPart value) rest

/-- Whether the qualifier of an element is bound; the empty one always is. -/
def bindsElement (scope : Scope) (name : Name) : Bool :=
  name.qualifier = "" || (scope.find? name.qualifier).isSome

end ReceiptFleet.Markup.Xml
