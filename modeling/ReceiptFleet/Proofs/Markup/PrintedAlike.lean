import ReceiptFleet.Proofs.Markup.RelatedTrees

/-!
Nodes that print alike. What has to be the same for that depends on the role of the nodes: the
instructions of lines, and in a table its layout too; the attributes and texts of the cells of a row;
the first text of a cell. Nodes that print nothing may still define columns, by their names and
attributes.
-/

namespace ReceiptFleet.Markup

/-- The attributes and the texts of the cells among some nodes. -/
def cellsIn (nodes : List Node) : List (Keyed String × String) :=
  ((elementsOf nodes).filter (·.name = cellName)).map fun td => (td.attributes, td.innerText)

/-- The names and the attributes of the elements among some nodes. -/
def outline (nodes : List Node) : List (String × Keyed String) :=
  (elementsOf nodes).map fun e => (e.name, e.attributes)

/-- The text that a cell of some nodes shows. -/
def shown? (nodes : List Node) : Option String := (nodes.findSome? Node.text?).map Text.trim

/-- Nodes of a role that print alike on lines of some width. -/
def PrintedAlike (width : Nat) : Role → List Node → List Node → Prop
  | .top, _, _ => True
  | .lines inTable, xs, ys =>
    (∀ table : Option Table,
      table.isSome = inTable → emission table width xs = emission table width ys)
    ∧ (inTable = true → measured xs = measured ys)
  | .row, xs, ys => cellsIn xs = cellsIn ys
  | .cell, xs, ys => shown? xs = shown? ys
  | .nothing, xs, ys => outline xs = outline ys

variable {width : Nat}

theorem printedAlike_refl (role : Role) (nodes : List Node)
    : PrintedAlike width role nodes nodes := by
  cases role with
  | top => trivial
  | lines inTable => exact ⟨fun _ _ => rfl, fun _ => rfl⟩
  | row | cell | nothing => rfl

-----------------------------------------------------------------------------------------
-- More nodes
-----------------------------------------------------------------------------------------

theorem measured_append (xs ys : List Node)
    : measured (xs ++ ys) = (elementsOf ys).foldl tableStep (measured xs) := by
  rw [measured, elementsOf_append, List.foldl_append]
  rfl

theorem cellsIn_append (xs ys : List Node)
    : cellsIn (xs ++ ys) = cellsIn xs ++ cellsIn ys := by
  rw [cellsIn, elementsOf_append, List.filter_append, List.map_append]
  rfl

theorem outline_append (xs ys : List Node)
    : outline (xs ++ ys) = outline xs ++ outline ys := by
  rw [outline, elementsOf_append, List.map_append]
  rfl

theorem shown?_append (xs ys : List Node)
    : shown? (xs ++ ys) = (shown? xs).or (shown? ys) := by
  rw [shown?, List.findSome?_append, shown?, shown?]
  cases xs.findSome? Node.text? <;> rfl

/-- Nodes go on printing alike when others are put behind them. -/
theorem PrintedAlike.append {role : Role} {xs ys : List Node} (alike : PrintedAlike width role xs ys)
    (nodes : List Node)
    : PrintedAlike width role (xs ++ nodes) (ys ++ nodes) := by
  cases role with
  | top => trivial
  | lines inTable =>
      refine ⟨fun table inside => ?_, fun inside => ?_⟩
      · rw [emission_append, emission_append, alike.1 table inside]
      · rw [measured_append, measured_append, alike.2 inside]
  | row =>
      have same : cellsIn xs = cellsIn ys := alike
      rw [PrintedAlike, cellsIn_append, cellsIn_append, same]
  | cell =>
      have same : shown? xs = shown? ys := alike
      rw [PrintedAlike, shown?_append, shown?_append, same]
  | nothing =>
      have same : outline xs = outline ys := alike
      rw [PrintedAlike, outline_append, outline_append, same]

-----------------------------------------------------------------------------------------
-- Elements around nodes
-----------------------------------------------------------------------------------------

theorem columns_of_outline {xs ys : List Node} (same : outline xs = outline ys) (name : String)
    (attributes : Keyed String)
    : ((Element.mk name attributes xs).elementsNamed cellName).map columnOf
      = ((Element.mk name attributes ys).elementsNamed cellName).map columnOf := by
  have columns (nodes : List Node)
      : ((Element.mk name attributes nodes).elementsNamed cellName).map columnOf
        = ((outline nodes).filter (·.1 = cellName)).map fun e => columnOf ⟨e.1, e.2, []⟩ := by
    rw [outline, List.filter_map, List.map_map]
    rfl
  rw [columns, columns, same]

theorem cellTexts_of_cellsIn {xs ys : List Node} (same : cellsIn xs = cellsIn ys) (name : String)
    (attributes : Keyed String)
    : cellTexts ⟨name, attributes, xs⟩ = cellTexts ⟨name, attributes, ys⟩ := by
  have texts (nodes : List Node)
      : cellTexts ⟨name, attributes, nodes⟩ = (cellsIn nodes).map Prod.snd := by
    rw [cellsIn, List.map_map]
    rfl
  rw [texts, texts, same]

/-- The instructions of a cell depend on its attributes and its text. -/
theorem cellInstructions_congr {td td' : Element} (attributes : td.attributes = td'.attributes)
    (text : td.innerText = td'.innerText) (column : Table.Column)
    : cellInstructions column td = cellInstructions column td' := by
  have flags (revert : Bool) : flagInstruction td revert = flagInstruction td' revert := by
    funext flag
    simp only [flagInstruction, Element.attribute?, attributes]
  simp only [cellInstructions, flagInstructions, flags, text]

/-- So do those of a row, by induction over the columns. -/
theorem rowInstructions_congr {tds tds' : List Element}
    (same
      : (tds.map fun td => (td.attributes, td.innerText))
        = tds'.map fun td => (td.attributes, td.innerText))
    (columns : List Table.Column)
    : rowInstructions columns tds = rowInstructions columns tds' := by
  induction columns generalizing tds tds' with
  | nil => rfl
  | cons column columns ih =>
      cases tds with
      | nil =>
          rw [List.map_nil, eq_comm, List.map_eq_nil_iff] at same
          rw [same]
      | cons td tds =>
          cases tds' with
          | nil => cases same
          | cons td' tds' =>
              obtain ⟨first, later⟩ := List.cons.inj same
              obtain ⟨attributes, text⟩ := Prod.mk.inj first
              rw [rowInstructions, rowInstructions, cellInstructions_congr attributes text, ih later]

/-- Elements among lines print alike if their children do. The cases are the kinds of element. -/
theorem emissionOf_alike {inTable : Bool} {name : String} {xs ys : List Node}
    (alike : PrintedAlike width ((Role.lines inTable).inside name) xs ys) (attributes : Keyed String)
    {table : Option Table} (inside : table.isSome = inTable)
    : emissionOf table width (.element name attributes xs)
      = emissionOf table width (.element name attributes ys) := by
  simp only [emissionOf]
  simp only [Role.inside] at alike
  cases tagged : Tag.ofName? name with
  | none => rfl
  | some tag =>
      rw [tagged] at alike
      cases tag with
      | paragraph => exact alike.1 none rfl
      | table =>
          -- The columns are laid out from what the table measures: it needs both halves of `alike`.
          have same : tableOf xs width = tableOf ys width :=
            congrArg (Table.layOut · width) (alike.2 rfl)
          rw [same]
          exact alike.1 _ rfl
      | row =>
          cases table with
          | none => rfl
          | some t =>
              cases inside
              exact rowInstructions_congr alike t.columns
      | _ => rfl

/-- A table measures such elements alike. -/
theorem tableStep_alike {name : String} {xs ys : List Node}
    (alike : PrintedAlike width ((Role.lines true).inside name) xs ys) (attributes : Keyed String)
    (t : Table)
    : tableStep t ⟨name, attributes, xs⟩ = tableStep t ⟨name, attributes, ys⟩ := by
  by_cases definition : name = "tdef"
  · subst definition
    simp only [tableStep, if_true, columns_of_outline alike]
  · by_cases row : name = "tr"
    · subst row
      simp only [tableStep, if_neg definition, if_true, cellTexts_of_cellsIn alike]
    · simp only [tableStep, if_neg definition, if_neg row]

theorem innerText_eq (e : Element)
    : e.innerText = (shown? e.children).getD "" := by
  rw [Element.innerText, shown?]
  cases e.children.findSome? Node.text? <;> rfl

/-- Printing alike is carried through a document. -/
theorem carried_printedAlike (width : Nat)
    : Xml.Carried (PrintedAlike width) where
  behind node related := related.append [node]
  around {role name xs ys} before attributes among alike := by
    cases role with
    | top => exact absurd rfl among
    | lines inTable =>
        refine ⟨fun table inside => ?_, ?_⟩
        · simp only [emission_append, emission, emissionOf_alike alike attributes inside]
        · rintro rfl
          rw [measured_append, measured_append]
          exact tableStep_alike alike attributes _
    | row =>
        rw [PrintedAlike, cellsIn_append, cellsIn_append]
        congr 1
        by_cases named : name = cellName
        · rw [Role.inside, if_pos named] at alike
          have same : shown? xs = shown? ys := alike
          simp [cellsIn, elementsOf, Node.element?, named, innerText_eq, same]
        · simp [cellsIn, elementsOf, Node.element?, named]
    | cell =>
        rw [PrintedAlike, shown?_append, shown?_append]
        rfl
    | nothing =>
        rw [PrintedAlike, outline_append, outline_append]
        rfl

-----------------------------------------------------------------------------------------
-- Texts
-----------------------------------------------------------------------------------------

/-- Texts print alike if they are the same without the white space around them. -/
theorem printedAlike_text {s t : String}
    (same : Text.stripChars Text.isBlank s.toList = Text.stripChars Text.isBlank t.toList) (role : Role)
    (before : List Node)
    : PrintedAlike width role (before ++ [.text s]) (before ++ [.text t]) := by
  cases role with
  | top => trivial
  | lines inTable =>
      refine ⟨fun table _ => ?_, fun _ => ?_⟩
      · simp only [emission_append, emission, emissionOf, normalText, same]
      · rw [measured_append, measured_append]
        rfl
  | row =>
      rw [PrintedAlike, cellsIn_append, cellsIn_append]
      rfl
  | cell =>
      have trimmed : Text.trim s = Text.trim t := congrArg String.ofList same
      rw [PrintedAlike, shown?_append, shown?_append]
      simp [shown?, Node.text?, trimmed]
  | nothing =>
      rw [PrintedAlike, outline_append, outline_append]
      rfl

/-- A text that comes next in a role prints: among lines always, and in a cell if it is the first one.
-/
def Role.Prints (before : List Node) : Role → Prop
  | .lines _ => True
  | .cell => before.findSome? Node.text? = none
  | .top | .row | .nothing => False

/-- Texts where no text prints do not matter. -/
theorem printedAlike_of_not_prints {role : Role} {before : List Node} (idle : ¬ role.Prints before)
    (texts others : List String)
    : PrintedAlike width role (before ++ texts.map Node.text) (before ++ others.map Node.text) := by
  have none (texts : List String) : elementsOf (texts.map Node.text) = [] := by
    rw [elementsOf, List.filterMap_map, List.filterMap_eq_nil_iff]
    exact fun _ _ => rfl
  cases role with
  | top => trivial
  | lines inTable => exact absurd trivial idle
  | row =>
      rw [PrintedAlike, cellsIn_append, cellsIn_append]
      simp only [cellsIn, none]
  | cell =>
      obtain ⟨first, found⟩ := Option.ne_none_iff_exists'.mp idle
      rw [PrintedAlike, shown?_append, shown?_append]
      simp [shown?, found]
  | nothing =>
      rw [PrintedAlike, outline_append, outline_append]
      simp only [outline, none]

end ReceiptFleet.Markup
