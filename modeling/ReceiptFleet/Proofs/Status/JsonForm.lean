import ReceiptFleet.Proofs.Keyed
import ReceiptFleet.Proofs.Text.Digits
import ReceiptFleet.Status.Json
import ReceiptFleet.Status.Request

/-!
The JSON form of a status. What is written is read back, whatever characters the names are made of. So
statuses of truth values have one text just when they are equal, and that is when every field was given the
same value last, in whatever order fields were set and merged.
-/

namespace ReceiptFleet.Status

-----------------------------------------------------------------------------------------
-- Statuses of truth values
-----------------------------------------------------------------------------------------

/-- All fields are truth values. -/
def TruthValued (s : Status) : Prop := ∀ field ∈ s.fields.entries, ∃ on, field.2 = .flag on

theorem truthValued_iff {s : Status}
    : s.TruthValued ↔ ∀ name value, s.get? name = some value → ∃ on, value = .flag on := by
  simp only [TruthValued, Status.get?, Keyed.get?_eq_some_iff, Prod.forall]

theorem truthValued_empty
    : Status.empty.TruthValued :=
  nofun

theorem TruthValued.setFlag {s : Status} (truths : s.TruthValued) (name : String) (on : Bool)
    : (s.setFlag name on).TruthValued := by
  rw [truthValued_iff] at truths ⊢
  intro other value found
  rw [Status.setFlag, Status.set, Status.get?, Keyed.get?_insert] at found
  split at found
  · exact ⟨on, (Option.some.inj found).symm⟩
  · exact truths other value found

theorem TruthValued.merge {s other : Status} (truths : s.TruthValued) (truths' : other.TruthValued)
    : (s.merge other).TruthValued := by
  rw [truthValued_iff] at truths truths' ⊢
  intro name value found
  rw [Status.merge, Status.get?, Keyed.get?_merge, Option.or_eq_some_iff] at found
  exact found.elim (truths' name value) fun kept => truths name value kept.2

theorem truthValued_ofFlags (flags : List (String × Bool))
    : (ofFlags flags).TruthValued :=
  List.foldlRecOn flags _ truthValued_empty fun _ truths flag _ => truths.setFlag flag.1 flag.2

/-- The decoder makes truth values of all answers. -/
theorem truthValued_epson (request : StatusRequest) (answer : List UInt8)
    : (StatusDecoder.epson.decode request answer).TruthValued := by
  cases request <;> exact truthValued_ofFlags _

theorem truthValued_unreachable
    : StatusDecoder.epson.unreachable.TruthValued :=
  List.foldlRecOn StatusRequest.all _ (truthValued_empty.setFlag _ _)
    fun _ truths request _ => truths.merge (truthValued_epson request [])

/-- A way to come to a status of truth values: fields are set one after the other, and those of another
status are merged in. -/
inductive Assembly where
  | empty
  | set (earlier : Assembly) (name : String) (on : Bool)
  | merge (earlier other : Assembly)

/-- The status that was come to. -/
def Assembly.status : Assembly → Status
  | empty => .empty
  | set earlier name on => earlier.status.setFlag name on
  | merge earlier other => earlier.status.merge other.status

/-- The value that a field was given last. -/
def Assembly.latest? (name : String) : Assembly → Option Bool
  | empty => none
  | set earlier field on => if name = field then some on else earlier.latest? name
  | merge earlier other => (other.latest? name).or (earlier.latest? name)

/-- A field has the value that it was given last, by induction over how the status came about. -/
theorem Assembly.get?_status (a : Assembly) (name : String)
    : a.status.get? name = (a.latest? name).map .flag := by
  induction a with
  | empty => rfl
  | set earlier field on ih =>
      simp only [status, latest?, setFlag, Status.set, Status.get?, Keyed.get?_insert]
      split
      · rfl
      · exact ih
  | merge earlier other ih ihOther =>
      simp only [status, latest?, Status.merge, Status.get?, Keyed.get?_merge] at ih ihOther ⊢
      rw [ih, ihOther, Option.map_or]

theorem Assembly.truthValued_status (a : Assembly)
    : a.status.TruthValued := by
  induction a with
  | empty => exact truthValued_empty
  | set earlier name on ih => exact ih.setFlag name on
  | merge earlier other ih ihOther => exact ih.merge ihOther

/-- Two ways lead to one status just when every field was given the same value last. -/
theorem Assembly.status_eq_iff (a b : Assembly)
    : a.status = b.status ↔ ∀ name, a.latest? name = b.latest? name := by
  have injective : Function.Injective (Option.map StatusValue.flag) :=
    Option.map_injective fun on on' same => by cases same; rfl
  constructor
  · intro same name
    apply injective
    rw [← a.get?_status, ← b.get?_status, same]
  · intro same
    have values (name : String) : a.status.get? name = b.status.get? name := by
      rw [a.get?_status, b.get?_status, same]
    exact congrArg Status.mk (Keyed.eq_of_get?_eq values)

/-- Lists of truth values are equal only if they are the same, by induction over both. -/
theorem equalEntries_iff_eq {fields : List (String × StatusValue)}
    (truths : ∀ field ∈ fields, ∃ on, field.2 = .flag on) (others : List (String × StatusValue))
    : equalEntries fields others = true ↔ fields = others := by
  induction fields generalizing others with
  | nil => cases others <;> simp [equalEntries]
  | cons field rest ih =>
      obtain ⟨name, value⟩ := field
      obtain ⟨⟨on, flag⟩, later⟩ := List.forall_mem_cons.mp truths
      obtain rfl : value = .flag on := flag
      cases others with
      | nil => simp [equalEntries]
      | cons other more =>
          obtain ⟨name', value'⟩ := other
          have same_value : (StatusValue.flag on).equal value' = true ↔ .flag on = value' := by
            cases value' <;> simp [StatusValue.equal]
          simp only [equalEntries, Bool.and_eq_true, beq_iff_eq, ih later more, same_value,
            List.cons.injEq, Prod.mk.injEq]

/-- Statuses of truth values are equal only if they are the same. -/
theorem TruthValued.equal_iff {s : Status} (truths : s.TruthValued) (other : Status)
    : s.equal other = true ↔ s = other := by
  obtain ⟨⟨fields, sorted⟩⟩ := s
  obtain ⟨⟨others, sorted'⟩⟩ := other
  rw [equal, equalEntries_iff_eq truths]
  simp only [Status.mk.injEq, Keyed.mk.injEq]

-----------------------------------------------------------------------------------------
-- Reading what was written
-----------------------------------------------------------------------------------------

namespace Json

/-- The four digits of a control character are read back. -/
theorem digits?_control {n : Nat} (below : n < 0x20)
    : Text.digits? 16 ['0', '0', hexDigit (n / 16), hexDigit (n % 16)] = some n := by
  have digit {d : Nat} (below : d < 16) : Text.digit? 16 (hexDigit d) = some d :=
    Text.digit?_digitChar (Nat.le_refl 16) below
  have high := digit (show n / 16 < 16 by omega)
  have low := digit (show n % 16 < 16 by omega)
  have zero : Text.digit? 16 '0' = some 0 := rfl
  simp only [Text.digits?, Text.digitsFrom?, List.isEmpty_cons, Bool.false_eq_true, if_false, zero,
    high, low, Option.bind_some, Option.some.injEq]
  omega

theorem stringFrom?_control {c : Char} (control : c.toNat < 0x20) (rest : List Char)
    : stringFrom?
        ('\\' :: 'u' :: '0' :: '0' :: hexDigit (c.toNat / 16) :: hexDigit (c.toNat % 16) :: rest)
      = before c (stringFrom? rest) := by
  have trailing : isTrailing c.toNat = false := by
    simp only [isTrailing, Bool.and_eq_false_iff, decide_eq_false_iff_not]
    omega
  have leading : isLeading c.toNat = false := by
    simp only [isLeading, Bool.and_eq_false_iff, decide_eq_false_iff_not]
    omega
  rw [stringFrom?, digits?_control control]
  simp only [trailing, leading, Bool.false_eq_true, if_false, Char.ofNat_toNat]

/-- A character is read back from its escaped form, whatever stands behind it. -/
theorem stringFrom?_escapeChar (c : Char) (rest : List Char)
    : stringFrom? (escapeChar c ++ rest) = before c (stringFrom? rest) := by
  unfold escapeChar
  -- One case for each way of escaping; the last is that of a character that stands for itself.
  split
  case isTrue quote => subst quote; rfl
  split
  case isTrue backslash => subst backslash; rfl
  split
  case isTrue backspace => subst backspace; rfl
  split
  case isTrue formFeed => subst formFeed; rfl
  split
  case isTrue lineFeed => subst lineFeed; rfl
  split
  case isTrue lineReturn => subst lineReturn; rfl
  split
  case isTrue tab => subst tab; rfl
  split
  case isTrue control => exact stringFrom?_control control rest
  case isFalse quote backslash _ _ _ _ _ plain =>
      have kept : ¬ (c = '\\' ∨ c.toNat < 0x20) := not_or.mpr ⟨backslash, plain⟩
      rw [List.singleton_append, stringFrom?, if_neg kept]
      · exact quote
      · exact fun _ _ _ _ _ same => absurd same backslash
      · exact fun _ _ same => absurd same backslash

/-- The characters of a string are read back, up to its closing quote. -/
theorem stringFrom?_escaped (s rest : List Char)
    : stringFrom? (s.flatMap escapeChar ++ '"' :: rest) = some (s, rest) := by
  induction s with
  | nil => rfl
  | cons c s ih =>
      rw [List.flatMap_cons, List.append_assoc, stringFrom?_escapeChar, ih]
      rfl

theorem string?_writeString (name : String) (rest : List Char)
    : string? (writeString name.toList ++ rest) = some (name, rest) := by
  simp only [writeString, string?, List.cons_append, List.append_assoc, List.nil_append,
    stringFrom?_escaped, Option.map_some, String.ofList_toList]

theorem value?_writeValue (on : Bool) (rest : List Char)
    : value? (writeValue (.flag on) ++ rest) = some (.flag on, rest) := by
  cases on <;> rfl

/-- A field is read back, and what stands behind it is left. -/
theorem field?_writeField (name : String) (on : Bool) {rest : List Char}
    (ended : skipSpace rest = rest)
    : field? (writeField (name, .flag on) ++ rest) = some ((name, .flag on), rest) := by
  have shape
      : writeField (name, .flag on) ++ rest
        = writeString name.toList ++ ':' :: (writeValue (.flag on) ++ rest) := by
    simp [writeField]
  have beforeName (more : List Char)
      : skipSpace (writeString name.toList ++ more) = writeString name.toList ++ more := rfl
  have beforeValue : skipSpace (writeValue (.flag on) ++ rest) = writeValue (.flag on) ++ rest := by
    cases on <;> rfl
  have beforeColon (more : List Char) : skipSpace (':' :: more) = ':' :: more := rfl
  simp only [shape, field?, beforeName, string?_writeString, beforeColon, beforeValue,
    value?_writeValue, Option.bind_eq_bind, Option.bind_some, ended]
  rfl

/-- Fields with commas between them are read back, by induction over them: one unit of fuel is enough for
each. -/
theorem fields?_writeFields {fields : List (String × StatusValue)} (some_field : fields ≠ [])
    (truths : ∀ field ∈ fields, ∃ on, field.2 = .flag on) {fuel : Nat}
    (enough : fields.length ≤ fuel) (left : List Char)
    : fields? fuel (writeFields fields ++ '\x7d' :: left) = some (fields, left) := by
  induction fields generalizing fuel with
  | nil => exact absurd rfl some_field
  | cons field others ih =>
      obtain ⟨name, value⟩ := field
      obtain ⟨⟨on, flag⟩, later⟩ := List.forall_mem_cons.mp truths
      obtain rfl : value = .flag on := flag
      cases fuel with
      | zero => exact absurd enough (Nat.not_succ_le_zero _)
      | succ fuel =>
          have enough_later : others.length ≤ fuel := Nat.le_of_succ_le_succ enough
          cases others with
          | nil =>
              rw [writeFields, fields?, field?_writeField name on rfl]
              rfl
          | cons second more =>
              have shape
                  : writeFields ((name, .flag on) :: second :: more) ++ '\x7d' :: left
                    = writeField (name, .flag on)
                      ++ ',' :: (writeFields (second :: more) ++ '\x7d' :: left) := by
                simp [writeFields]
              rw [shape, fields?, field?_writeField name on rfl]
              simp only [Option.bind_eq_bind, Option.bind_some,
                ih (List.cons_ne_nil second more) later enough_later, Option.map_some]

/-- Every field takes up some of the text. -/
theorem length_le_length_writeFields (fields : List (String × StatusValue))
    : fields.length ≤ (writeFields fields).length := by
  fun_induction writeFields fields with
  | case1 => exact Nat.le_refl 0
  | case2 field =>
      simp only [writeField, List.length_append, List.length_cons, List.length_nil]
      omega
  | case3 field others _ ih =>
      simp only [List.length_cons, List.length_append]
      omega

/-- The text of fields begins with the quote of the first name. -/
theorem writeFields_cons (field : String × StatusValue) (others : List (String × StatusValue))
    : ∃ more, writeFields (field :: others) = '"' :: more := by
  cases others <;> exact ⟨_, rfl⟩

/-- A status of truth values is read back from its text. -/
theorem read?_write {s : Status} (truths : s.TruthValued)
    : read? (write s) = some s := by
  have same : (⟨Keyed.ofList s.fields.entries⟩ : Status) = s :=
    congrArg Status.mk (Keyed.ofList_entries s.fields)
  have text : (write s).toList = '\x7b' :: (writeFields s.fields.entries ++ ['\x7d']) := by
    simp [write]
  have opened (more : List Char) : skipSpace ('\x7b' :: more) = '\x7b' :: more := rfl
  rw [read?, text, opened]
  unfold TruthValued at truths
  generalize s.fields.entries = fields at same truths ⊢
  cases fields with
  | nil => exact congrArg some same
  | cons field others =>
      have enough
          : (field :: others).length ≤ (writeFields (field :: others) ++ ['\x7d']).length + 1 := by
        have := length_le_length_writeFields (field :: others)
        rw [List.length_append]
        omega
      have back := fields?_writeFields (List.cons_ne_nil field others) truths enough []
      obtain ⟨more, quoted⟩ := writeFields_cons field others
      rw [quoted, List.cons_append] at back ⊢
      have named : skipSpace ('"' :: (more ++ ['\x7d'])) = '"' :: (more ++ ['\x7d']) := rfl
      simp only [named, back]
      exact congrArg some same

-- The fields stand in the order of their names, in whatever order they were set.
example
    : write ((Status.empty.setFlag "offline" false).setFlag "notOpen" true)
      = "\x7b\"notOpen\":true,\"offline\":false\x7d" := by
  decide

-----------------------------------------------------------------------------------------
-- Texts of equal statuses
-----------------------------------------------------------------------------------------

/-- Whatever a printer answers or does not, its status has truth values only. Such a status is read back from
its JSON text as it was. Two of them are equal, so that neither is news after the other, just when their texts
are the same, and that is when every field was given the same value last in both, however they came about. -/
theorem status_survives_json
    : ((∀ request answer, (StatusDecoder.epson.decode request answer).TruthValued)
        ∧ StatusDecoder.epson.unreachable.TruthValued)
      ∧ ∀ s other : Status,
          s.TruthValued → other.TruthValued →
            (read? (write s) = some s ∧ s.equal s = true)
            ∧ (s.differsFrom (some other) = false ↔ write s = write other)
            ∧ ∀ a b : Assembly,
                a.status = s → b.status = other →
                  (write s = write other ↔ ∀ name, a.latest? name = b.latest? name) := by
  refine ⟨⟨truthValued_epson, truthValued_unreachable⟩, fun s other truths truths' => ?_⟩
  have same_text : write s = write other ↔ s = other := by
    constructor
    · intro same
      have back : read? (write s) = some other := by rw [same, read?_write truths']
      exact Option.some.inj ((read?_write truths).symm.trans back)
    · intro same
      rw [same]
  refine ⟨⟨read?_write truths, (truths.equal_iff s).mpr rfl⟩, ?_, ?_⟩
  · rw [differsFrom, Bool.not_eq_false', truths'.equal_iff, same_text, eq_comm]
  · rintro a b rfl rfl
    rw [same_text, a.status_eq_iff]

/-- Witness: a quote, a backslash, control characters and a character beyond 16 bits in the names, which are
set in two orders. In the second one, a field is set once more and two fields are merged in. -/
theorem status_survives_json_odd_names
    : let quoted := "a\"b\\c"
      let control := "\n\x01\x7f"
      let one := ((Assembly.empty.set quoted true).set "😀" false).set control true
      let two := (Assembly.empty.set control true).merge
        (((Assembly.empty.set "😀" true).set quoted true).set "😀" false)
      (one.status.TruthValued ∧ two.status.TruthValued)
      ∧ read? (write one.status) = some one.status
      ∧ write one.status = write two.status
      ∧ one.status.differsFrom (some two.status) = false := by
  intro quoted control one two
  have truths : one.status.TruthValued ∧ two.status.TruthValued :=
    ⟨one.truthValued_status, two.truthValued_status⟩
  obtain ⟨⟨back, -⟩, news, latest⟩ :=
    status_survives_json.2 one.status two.status truths.1 truths.2
  have same_latest (name : String) : one.latest? name = two.latest? name := by
    have apart : quoted ≠ control ∧ "😀" ≠ control ∧ "😀" ≠ quoted := by decide
    simp only [one, two, Assembly.latest?]
    grind
  have same_text : write one.status = write two.status := (latest one two rfl rfl).mpr same_latest
  exact ⟨truths, back, same_text, news.mpr same_text⟩

end Json

end ReceiptFleet.Status
