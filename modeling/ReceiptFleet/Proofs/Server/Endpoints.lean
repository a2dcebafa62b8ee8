import ReceiptFleet.Proofs.Text.Digits
import ReceiptFleet.Proofs.Text.Pieces
import ReceiptFleet.Proofs.Text.Trimming
import ReceiptFleet.Server.Endpoint

/-!
Lists of printers, entry by entry. A list is read as its entries are, each for itself: an entry that is
written for a printer declares that printer, whatever white space stands around its parts, and one that
declares none leaves no trace.
-/

namespace ReceiptFleet.Server

open Text (isBlank isAllBlank dropEnd)

-----------------------------------------------------------------------------------------
-- Entries as they are written
-----------------------------------------------------------------------------------------

/-- A text with any white space around it. -/
def Padded (s padded : List Char) : Prop :=
  ∃ before after, isAllBlank before = true ∧ isAllBlank after = true ∧ padded = before ++ s ++ after

/-- A printer that an entry of a list can declare. -/
structure Endpoint.Declarable (e : Endpoint) : Prop where
  name_nonempty : e.name ≠ ""
  name_trimmed : Text.trim e.name = e.name
  name_free : ',' ∉ e.name.toList ∧ '=' ∉ e.name.toList
  address_trimmed : Text.trim e.address = e.address
  address_free : ',' ∉ e.address.toList ∧ '/' ∉ e.address.toList
  width_lt : ∀ width ∈ e.width, width < Text.limit64

/-- The address of a printer as it is written, with its width behind a slash if it has one. -/
def Endpoint.TargetAs (e : Endpoint) (target : List Char) : Prop :=
  match e.width with
  | none => Padded e.address.toList target
  | some width =>
    ∃ address number,
      Padded e.address.toList address
      ∧ Padded (toString width).toList number
      ∧ target = address ++ '/' :: number

/-- The entry of a printer as it is written: its name, an equals sign and its address. -/
def Endpoint.WrittenAs (e : Endpoint) (entry : List Char) : Prop :=
  ∃ name target,
    Padded e.name.toList name ∧ e.TargetAs target ∧ Padded (name ++ '=' :: target) entry

/-- An entry that declares no printer: it is blank or has no equals sign, its name is blank, or what follows
a slash in the address is no number of 64 bits. -/
inductive DeclaresNone : List Char → Prop where
  | blank {entry} (blank : isAllBlank entry = true) : DeclaresNone entry
  | noEquals {entry} (none : '=' ∉ entry) : DeclaresNone entry
  | noName {name} (target) (blank : isAllBlank name = true) : DeclaresNone (name ++ '=' :: target)
  | noWidth {name width} (address) (first : '=' ∉ name)
    (none : ∀ number n, Text.Spells Text.limit64 number n → ¬ Padded number width)
    : DeclaresNone (name ++ '=' :: (address ++ '/' :: width))

/-- An entry of a list, and the printer that it should declare. -/
inductive Entry : List Char → Option Endpoint → Prop where
  | printer {e entry} (declarable : e.Declarable) (written : e.WrittenAs entry) : Entry entry (some e)
  | skipped {entry} (whole : ',' ∉ entry) (silent : DeclaresNone entry) : Entry entry none

-----------------------------------------------------------------------------------------
-- White space
-----------------------------------------------------------------------------------------

theorem not_mem_of_isAllBlank {s : List Char} {c : Char} (blank : isAllBlank s = true)
    (inked : isBlank c = false)
    : c ∉ s := by
  intro member
  rw [List.all_eq_true.mp blank c member] at inked
  cases inked

theorem stripBlanks_of_isAllBlank {s : List Char} (blank : isAllBlank s = true)
    : stripBlanks s = [] := by
  rw [stripBlanks, Text.stripChars, List.dropWhile_eq_nil_iff.mpr (List.all_eq_true.mp blank)]
  rfl

theorem stripBlanks_dropEnd (s : List Char)
    : stripBlanks (dropEnd isBlank s) = stripBlanks s :=
  Text.stripChars_dropEnd isBlank s

variable {s padded : List Char}

/-- White space may be added in front and at the end. -/
theorem Padded.prepend (around : Padded s padded) {more : List Char} (blank : isAllBlank more = true)
    : Padded s (more ++ padded) := by
  obtain ⟨before, after, front, back, rfl⟩ := around
  refine ⟨more ++ before, after, ?_, back, by simp⟩
  rw [Text.isAllBlank_append, blank, front]
  rfl

theorem Padded.append (around : Padded s padded) {more : List Char} (blank : isAllBlank more = true)
    : Padded s (padded ++ more) := by
  obtain ⟨before, after, front, back, rfl⟩ := around
  refine ⟨before, after ++ more, front, ?_, by simp⟩
  rw [Text.isAllBlank_append, back, blank]
  rfl

theorem Padded.stripBlanks_eq (around : Padded s padded)
    : stripBlanks padded = stripBlanks s := by
  obtain ⟨before, after, front, back, rfl⟩ := around
  rw [stripBlanks, Text.stripChars_append_right (List.all_eq_true.mp back),
    Text.stripChars_append_left (List.all_eq_true.mp front), stripBlanks]

theorem Padded.not_mem (around : Padded s padded) {c : Char} (inked : isBlank c = false)
    (none : c ∉ s)
    : c ∉ padded := by
  obtain ⟨before, after, front, back, rfl⟩ := around
  simp [none, not_mem_of_isAllBlank front inked, not_mem_of_isAllBlank back inked]

/-- A text stands in white space as what is left when it is trimmed. -/
theorem padded_stripBlanks (s : List Char)
    : Padded (stripBlanks s) s := by
  refine ⟨s.takeWhile isBlank, (s.dropWhile isBlank).rtakeWhile isBlank, ?_, ?_, ?_⟩
  · exact List.all_eq_true.mpr fun c => List.mem_takeWhile_imp
  · exact List.all_eq_true.mpr fun c => List.mem_rtakeWhile_imp
  · rw [List.append_assoc, stripBlanks, Text.stripChars, Text.dropEnd_eq_rdropWhile,
      List.rdropWhile_append_rtakeWhile, List.takeWhile_append_dropWhile]

theorem stripBlanks_of_trimmed {s : String} (trimmed : Text.trim s = s)
    : stripBlanks s.toList = s.toList := by
  have same := congrArg String.toList trimmed
  rwa [Text.trim, String.toList_ofList] at same

-----------------------------------------------------------------------------------------
-- Reading one entry
-----------------------------------------------------------------------------------------

/-- Reads what stands behind the equals sign: an address, and a width if there is a slash. -/
def readTarget (target : List Char) : Option (List Char × Option Nat) :=
  match Text.cut? '/' target with
  | none => some (stripBlanks target, none)
  | some (address, width) =>
    (Text.unsigned? Text.limit64 (stripBlanks width)).map fun n => (stripBlanks address, some n)

theorem readTarget_of_slash {address : List Char} (first : '/' ∉ address) (width : List Char)
    : readTarget (address ++ '/' :: width)
      = (Text.unsigned? Text.limit64 (stripBlanks width)).map
          fun n => (stripBlanks address, some n) := by
  rw [readTarget, Text.cut?_append_cons first]

theorem readTarget_of_not_mem {target : List Char} (none : '/' ∉ target)
    : readTarget target = some (stripBlanks target, .none) := by
  rw [readTarget, Text.cut?_of_not_mem none]

/-- White space at the end makes no difference. -/
theorem readTarget_dropEnd (target : List Char)
    : readTarget (dropEnd isBlank target) = readTarget target := by
  by_cases slash : '/' ∈ target
  · obtain ⟨address, width, rfl, first⟩ := List.eq_append_cons_of_mem slash
    rw [Text.dropEnd_append_cons rfl, readTarget_of_slash first, readTarget_of_slash first,
      stripBlanks_dropEnd]
  · have none : '/' ∉ dropEnd isBlank target := fun member =>
      slash ((List.rdropWhile_prefix isBlank target).subset member)
    rw [readTarget_of_not_mem none, readTarget_of_not_mem slash, stripBlanks_dropEnd]

/-- An entry with an equals sign is read as its name and what stands behind it. -/
theorem ofEntry?_of_equals {name : List Char} (first : '=' ∉ name) (target : List Char)
    : Endpoint.ofEntry? (name ++ '=' :: target)
      = if (stripBlanks name).isEmpty then none
        else (readTarget target).map fun (address, width) =>
          ⟨String.ofList (stripBlanks name), String.ofList address, width⟩ := by
  have trimmed
      : stripBlanks (name ++ '=' :: target)
        = name.dropWhile isBlank ++ '=' :: dropEnd isBlank target :=
    Text.stripChars_append_cons rfl name target
  have nonempty : (name.dropWhile isBlank ++ '=' :: dropEnd isBlank target).isEmpty = false := by simp
  have front : '=' ∉ name.dropWhile isBlank := fun member =>
    first ((List.dropWhile_suffix isBlank).subset member)
  have named : stripBlanks (name.dropWhile isBlank) = stripBlanks name :=
    Text.stripChars_dropWhile isBlank name
  rw [← readTarget_dropEnd target]
  simp only [Endpoint.ofEntry?, Endpoint.ofChars, trimmed, nonempty, Text.cut?_append_cons front, named,
    readTarget]
  cases (stripBlanks name).isEmpty with
  | true => rfl
  | false =>
      rcases Text.cut? '/' (dropEnd isBlank target) with _ | ⟨address, width⟩
      · rfl
      · cases read : Text.unsigned? Text.limit64 (stripBlanks width) with
        | none => simp [read]
        | some n => simp [read]

/-- An entry without one declares nothing. -/
theorem ofEntry?_of_not_mem {entry : List Char} (none : '=' ∉ entry)
    : Endpoint.ofEntry? entry = .none := by
  have stripped : '=' ∉ stripBlanks entry := fun member => none (Text.mem_of_mem_stripChars member)
  simp only [Endpoint.ofEntry?, Endpoint.ofChars, Text.cut?_of_not_mem stripped]
  split <;> rfl

-----------------------------------------------------------------------------------------
-- Entries of a list
-----------------------------------------------------------------------------------------

variable {e : Endpoint} {entry : List Char}

theorem Endpoint.Declarable.spelled (declarable : e.Declarable) {width : Nat}
    (given : e.width = some width)
    : Text.Spells Text.limit64 (toString width).toList width :=
  Text.spells_toString (declarable.width_lt width given)

/-- A target is read back as it was written, with white space behind it. -/
theorem Endpoint.TargetAs.read {target after : List Char} (declarable : e.Declarable)
    (written : e.TargetAs target) (blank : isAllBlank after = true)
    : readTarget (target ++ after) = some (e.address.toList, e.width) := by
  have noSlash {address : List Char} (around : Padded e.address.toList address) : '/' ∉ address :=
    around.not_mem rfl declarable.address_free.2
  have address_eq {address : List Char} (around : Padded e.address.toList address)
      : stripBlanks address = e.address.toList :=
    around.stripBlanks_eq.trans (stripBlanks_of_trimmed declarable.address_trimmed)
  unfold Endpoint.TargetAs at written
  cases given : e.width with
  | none =>
      rw [given] at written
      have around : Padded e.address.toList (target ++ after) := Padded.append written blank
      rw [readTarget_of_not_mem (noSlash around), address_eq around]
  | some n =>
      rw [given] at written
      obtain ⟨address, number, around, digits, rfl⟩ := written
      have spelled := declarable.spelled given
      have trimmed : stripBlanks (number ++ after) = (toString n).toList :=
        (digits.append blank).stripBlanks_eq.trans spelled.stripChars_eq
      have read : Text.unsigned? Text.limit64 (stripBlanks (number ++ after)) = some n := by
        rw [trimmed]
        exact Text.unsigned?_eq_some_iff.mpr spelled
      rw [List.append_assoc, List.cons_append, readTarget_of_slash (noSlash around), read,
        address_eq around]
      rfl

/-- An entry that is written for a printer declares it. -/
theorem ofEntry?_of_writtenAs (declarable : e.Declarable) (written : e.WrittenAs entry)
    : Endpoint.ofEntry? entry = some e := by
  obtain ⟨name, target, named, aimed, before, after, front, back, rfl⟩ := written
  have around : Padded e.name.toList (before ++ name) := named.prepend front
  have name_eq : stripBlanks (before ++ name) = e.name.toList :=
    around.stripBlanks_eq.trans (stripBlanks_of_trimmed declarable.name_trimmed)
  have shape
      : before ++ (name ++ '=' :: target) ++ after = (before ++ name) ++ '=' :: (target ++ after) := by
    simp
  have nonempty : e.name.toList.isEmpty = false := by
    simpa using declarable.name_nonempty
  rw [shape, ofEntry?_of_equals (around.not_mem rfl declarable.name_free.2), name_eq, nonempty,
    aimed.read declarable back]
  simp

/-- What follows a slash is no number, so there is no target to read, even if another slash comes first. -/
theorem readTarget_eq_none {width : List Char}
    (none : ∀ number n, Text.Spells Text.limit64 number n → ¬ Padded number width)
    (address : List Char)
    : readTarget (address ++ '/' :: width) = .none := by
  by_cases slash : '/' ∈ address
  · obtain ⟨front, back, rfl, first⟩ := List.eq_append_cons_of_mem slash
    have unread : Text.unsigned? Text.limit64 (stripBlanks (back ++ '/' :: width)) = .none := by
      refine Option.eq_none_iff_forall_ne_some.mpr fun n read => ?_
      have member : '/' ∈ stripBlanks (back ++ '/' :: width) :=
        Text.mem_stripChars (by simp) rfl
      exact (Text.unsigned?_eq_some_iff.mp read).not_mem rfl (by decide) member
    rw [List.append_assoc, List.cons_append, readTarget_of_slash first, unread]
    rfl
  · have unread : Text.unsigned? Text.limit64 (stripBlanks width) = .none :=
      Option.eq_none_iff_forall_ne_some.mpr fun n read =>
        none _ n (Text.unsigned?_eq_some_iff.mp read) (padded_stripBlanks width)
    rw [readTarget_of_slash slash, unread]
    rfl

/-- An entry that declares no printer is left out. -/
theorem ofEntry?_of_declaresNone (silent : DeclaresNone entry)
    : Endpoint.ofEntry? entry = none := by
  cases silent with
  | blank blank => exact ofEntry?_of_not_mem (not_mem_of_isAllBlank blank rfl)
  | noEquals none => exact ofEntry?_of_not_mem none
  | noName target blank =>
      rw [ofEntry?_of_equals (not_mem_of_isAllBlank blank rfl), stripBlanks_of_isAllBlank blank]
      rfl
  | noWidth address first none =>
      rw [ofEntry?_of_equals first, readTarget_eq_none none, Option.map_none, ite_self]

/-- There is no comma in an entry that is written for a printer. -/
theorem not_mem_of_writtenAs (declarable : e.Declarable) (written : e.WrittenAs entry)
    : ',' ∉ entry := by
  obtain ⟨name, target, named, aimed, around⟩ := written
  have inTarget : ',' ∉ target := by
    unfold Endpoint.TargetAs at aimed
    cases given : e.width with
    | none =>
        rw [given] at aimed
        exact aimed.not_mem rfl declarable.address_free.1
    | some n =>
        rw [given] at aimed
        obtain ⟨address, number, beside, digits, rfl⟩ := aimed
        have noNumber : ',' ∉ number :=
          digits.not_mem rfl ((declarable.spelled given).not_mem rfl (by decide))
        simp [beside.not_mem rfl declarable.address_free.1, noNumber]
  refine around.not_mem rfl ?_
  simp [named.not_mem rfl declarable.name_free.1, inTarget]

theorem Entry.ofEntry?_eq {declared : Option Endpoint} (listed : Entry entry declared)
    : Endpoint.ofEntry? entry = declared := by
  cases listed with
  | printer declarable written => exact ofEntry?_of_writtenAs declarable written
  | skipped _ silent => exact ofEntry?_of_declaresNone silent

theorem Entry.not_mem {declared : Option Endpoint} (listed : Entry entry declared)
    : ',' ∉ entry := by
  cases listed with
  | printer declarable written => exact not_mem_of_writtenAs declarable written
  | skipped whole _ => exact whole

-----------------------------------------------------------------------------------------
-- Lists
-----------------------------------------------------------------------------------------

/-- The entries on both sides of a comma are read apart. -/
theorem endpoints_append (value other : String)
    : endpoints (value ++ "," ++ other) = endpoints value ++ endpoints other := by
  have joined : (value ++ "," ++ other).toList = value.toList ++ ',' :: other.toList := by
    simp
  rw [endpoints, joined, Text.pieces_append_cons, List.filterMap_append, endpoints, endpoints]

theorem endpoints_empty
    : endpoints "" = [] :=
  rfl

theorem endpoints_of_not_mem {value : String} (whole : ',' ∉ value.toList)
    : endpoints value = (Endpoint.ofEntry? value.toList).toList := by
  rw [endpoints, Text.pieces_eq_splitOn, List.splitOn_eq_singleton whole, List.filterMap_cons]
  cases Endpoint.ofEntry? value.toList <;> rfl

/-- A list of entries with commas between them declares the printers of its entries, in order, and nothing
else: an entry that is written for a printer declares it, whatever white space stands around its parts, and
an entry that declares none is skipped, wherever it stands. Any two lists can be joined with a comma. -/
theorem endpoints_of_entries (entries : List (String × Option Endpoint))
    (each : ∀ entry ∈ entries, Entry entry.1.toList entry.2)
    : endpoints (String.intercalate "," (entries.map Prod.fst)) = entries.filterMap Prod.snd
      ∧ ∀ value other : String,
          endpoints (value ++ "," ++ other) = endpoints value ++ endpoints other := by
  refine ⟨?_, endpoints_append⟩
  induction entries with
  | nil => rfl
  | cons first others ih =>
      obtain ⟨listed, later⟩ := List.forall_mem_cons.mp each
      have here : endpoints first.1 = first.2.toList := by
        rw [endpoints_of_not_mem listed.not_mem, listed.ofEntry?_eq]
      have all : first.2.toList ++ others.filterMap Prod.snd = (first :: others).filterMap Prod.snd := by
        rw [List.filterMap_cons]
        cases first.2 <;> rfl
      rw [← all, ← here, ← ih later]
      cases others with
      | nil => simp [endpoints_empty]
      | cons second more =>
          simp only [List.map_cons, String.intercalate_cons_cons]
          exact endpoints_append _ _

/-- Witness: two printers among an empty, a blank and three other entries that declare none. The name of the
second one has a slash, and its address an equals sign. -/
theorem endpoints_of_seven_entries
    : let bar : Endpoint := ⟨"bar", "192.168.1.214:9100", some 42⟩
      let hall : Endpoint := ⟨"hall/2", "a=b", none⟩
      let entries : List (String × Option Endpoint) :=
        [(" bar =192.168.1.214:9100 / 42\t", some bar), ("", none), (" ", none), ("bad", none),
          (" =10.0.0.1:9100", none), ("hall/2= a=b", some hall), ("n=10.0.0.1:9100/wide", none)]
      (∀ entry ∈ entries, Entry entry.1.toList entry.2)
      ∧ endpoints
          " bar =192.168.1.214:9100 / 42\t,, ,bad, =10.0.0.1:9100,hall/2= a=b,n=10.0.0.1:9100/wide"
        = [bar, hall] := by
  intro bar hall entries
  have barEntry : Entry " bar =192.168.1.214:9100 / 42\t".toList (some bar) := by
    refine .printer ⟨by decide, by decide, by decide, by decide, by decide, ?_⟩ ?_
    · rintro width ⟨⟩
      decide
    · refine ⟨"bar ".toList, "192.168.1.214:9100 / 42".toList, ?_, ?_, ?_⟩
      · exact ⟨[], [' '], rfl, rfl, by decide⟩
      · exact ⟨"192.168.1.214:9100 ".toList, " 42".toList, ⟨[], [' '], rfl, rfl, by decide⟩,
          ⟨[' '], [], rfl, rfl, rfl⟩, rfl⟩
      · exact ⟨[' '], ['\t'], rfl, rfl, rfl⟩
  have hallEntry : Entry "hall/2= a=b".toList (some hall) := by
    refine .printer ⟨by decide, by decide, by decide, by decide, by decide, nofun⟩ ?_
    exact ⟨"hall/2".toList, " a=b".toList, ⟨[], [], rfl, rfl, by decide⟩,
      ⟨[' '], [], rfl, rfl, by decide⟩, ⟨[], [], rfl, rfl, rfl⟩⟩
  have noName : DeclaresNone " =10.0.0.1:9100".toList :=
    DeclaresNone.noName "10.0.0.1:9100".toList (show isAllBlank [' '] = true from rfl)
  have noWidth : DeclaresNone "n=10.0.0.1:9100/wide".toList := by
    refine @DeclaresNone.noWidth "n".toList "wide".toList "10.0.0.1:9100".toList (by decide) ?_
    intro number n spelled around
    have same : "wide".toList = number := around.stripBlanks_eq.trans spelled.stripChars_eq
    rw [← same, ← Text.unsigned?_eq_some_iff] at spelled
    cases spelled
  have each : ∀ entry ∈ entries, Entry entry.1.toList entry.2 := by
    simp only [entries, List.forall_mem_cons, List.not_mem_nil, false_implies, implies_true, and_true]
    exact ⟨barEntry, .skipped (by decide) (.blank rfl), .skipped (by decide) (.blank rfl),
      .skipped (by decide) (.noEquals (by decide)), .skipped (by decide) noName, hallEntry,
      .skipped (by decide) noWidth⟩
  exact ⟨each, (endpoints_of_entries entries each).1⟩

end ReceiptFleet.Server
