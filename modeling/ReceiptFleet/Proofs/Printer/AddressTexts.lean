import ReceiptFleet.Printer.Address
import ReceiptFleet.Proofs.Text.Digits

/-!
Texts of addresses. An IPv4 address has one text. An IPv6 address has many: its groups may begin with zeros,
two colons may stand for groups that are zero, and the last two groups may be written as an IPv4 address.
The readers take exactly these texts, up to what cannot go on with them.
-/

namespace ReceiptFleet.Printer.Address

open Text (digit? digits?)

-----------------------------------------------------------------------------------------
-- Numbers
-----------------------------------------------------------------------------------------

/-- A text does not begin with a digit of a base. -/
def NoDigit (base : Nat) (s : List Char) : Prop := ∀ c ∈ s.head?, isDigitOf base c = false

theorem noDigit_nil (base : Nat)
    : NoDigit base [] :=
  nofun

theorem noDigit_cons {base : Nat} {c : Char} (other : isDigitOf base c = false) (s : List Char)
    : NoDigit base (c :: s) := by
  rintro d ⟨⟩
  exact other

/-- A digit of base ten is one of base sixteen. -/
theorem isDigitOf_sixteen {c : Char} (decimal : isDigitOf 10 c = true)
    : isDigitOf 16 c = true := by
  obtain ⟨n, read⟩ := Option.isSome_iff_exists.mp decimal
  simp only [digit?, Option.ite_none_right_eq_some] at read
  rw [isDigitOf, Option.isSome_iff_exists]
  refine ⟨n, ?_⟩
  simp only [digit?, Option.ite_none_right_eq_some]
  exact ⟨by omega, read.2⟩

theorem NoDigit.ten {s : List Char} (none : NoDigit 16 s)
    : NoDigit 10 s := by
  intro c begins
  refine Bool.eq_false_iff.mpr fun decimal => ?_
  have other := none c begins
  rw [isDigitOf_sixteen decimal] at other
  cases other

theorem isDigitOf_of_digits? {base n : Nat} {digits : List Char} (read : digits? base digits = some n)
    : ∀ c ∈ digits, isDigitOf base c = true := by
  have each (value : Nat) (s : List Char) (n : Nat) (read : Text.digitsFrom? base value s = some n)
      : ∀ c ∈ s, isDigitOf base c = true := by
    induction s generalizing value with
    | nil => exact nofun
    | cons c rest ih =>
        obtain ⟨d, digit, later⟩ := Option.bind_eq_some_iff.mp read
        refine List.forall_mem_cons.mpr ⟨?_, ih _ later⟩
        rw [isDigitOf, digit]
        rfl
  rw [digits?] at read
  split at read
  · cases read
  · exact each 0 digits n read

/-- There is one place where the digits in front of a text end. -/
theorem digits_unique {base : Nat} {digits digits' s s' : List Char}
    (all : ∀ c ∈ digits, isDigitOf base c = true) (all' : ∀ c ∈ digits', isDigitOf base c = true)
    (ended : NoDigit base s) (ended' : NoDigit base s') (same : digits ++ s = digits' ++ s')
    : digits = digits' ∧ s = s' := by
  obtain ⟨front, back⟩ := Text.span_run all ended
  obtain ⟨front', back'⟩ := Text.span_run all' ended'
  rw [same] at front back
  exact ⟨front.symm.trans front', back.symm.trans back'⟩

/-- A number is read from all digits in front. -/
theorem number?_eq_some_iff {base limit n : Nat} {s rest : List Char}
    : number? base limit s = some (n, rest)
      ↔ ∃ digits, s = digits ++ rest ∧ digits? base digits = some n ∧ n < limit ∧ NoDigit base rest := by
  constructor
  · intro read
    obtain ⟨m, digits, read⟩ := Option.bind_eq_some_iff.mp read
    split at read
    · rename_i below
      cases read
      exact ⟨_, List.takeWhile_append_dropWhile.symm, digits, below, Text.stops_dropWhile _ s⟩
    · cases read
  · rintro ⟨digits, rfl, read, below, ended⟩
    obtain ⟨front, back⟩ := Text.span_run (isDigitOf_of_digits? read) ended
    rw [number?, front, back, read]
    exact if_pos below

theorem shortNumber?_eq_some_iff {base limit most n : Nat} {s rest : List Char}
    : shortNumber? base limit most s = some (n, rest)
      ↔ ∃ digits,
          s = digits ++ rest ∧ digits.length ≤ most ∧ digits? base digits = some n ∧ n < limit
          ∧ NoDigit base rest := by
  constructor
  · intro read
    rw [shortNumber?, Option.ite_none_right_eq_some, number?_eq_some_iff] at read
    obtain ⟨short, digits, rfl, read, below, ended⟩ := read
    rw [(Text.span_run (isDigitOf_of_digits? read) ended).1] at short
    exact ⟨digits, rfl, short, read, below, ended⟩
  · rintro ⟨digits, rfl, short, read, below, ended⟩
    rw [shortNumber?, (Text.span_run (isDigitOf_of_digits? read) ended).1, if_pos short]
    exact number?_eq_some_iff.mpr ⟨digits, rfl, read, below, ended⟩

theorem char?_eq_some_iff {c : Char} {s rest : List Char}
    : char? c s = some rest ↔ s = c :: rest := by
  cases s with
  | nil => simp [char?]
  | cons head tail =>
      simp only [char?, Option.ite_none_right_eq_some, Option.some.injEq, List.cons.injEq]

-----------------------------------------------------------------------------------------
-- IPv4 addresses
-----------------------------------------------------------------------------------------

theorem digits?_decimal (n : Nat)
    : digits? 10 (decimal n) = some n :=
  Text.digits?_toDigits (by decide) (by decide) n

theorem length_decimal_le {n : Nat} (below : n < 256)
    : (decimal n).length ≤ 3 :=
  (Nat.length_toDigits_le_iff (by decide) (by decide)).mpr (by omega)

theorem octet?_eq_some_iff_plain {s : List Char} {read : Nat × List Char}
    : octet? s = some read
      ↔ (∀ d more, s = '0' :: d :: more → isDigitOf 10 d = false)
        ∧ shortNumber? 10 256 3 s = some read := by
  unfold octet?
  split
  case h_1 c tail => simp
  case h_2 plain =>
      exact (and_iff_right fun d more same => absurd same (plain d more)).symm

/-- A part of an IPv4 address is read from its own decimal digits, and from no others. -/
theorem octet?_eq_some_iff {n : Nat} {s rest : List Char}
    : octet? s = some (n, rest) ↔ s = decimal n ++ rest ∧ n < 256 ∧ NoDigit 10 rest := by
  rw [octet?_eq_some_iff_plain, shortNumber?_eq_some_iff]
  constructor
  · rintro ⟨plain, digits, rfl, -, read, below, ended⟩
    -- A zero in front of other digits is refused, so the digits are those of the number.
    have canonical : digits = decimal n := by
      refine Text.eq_toDigits_of_digits? read fun zero => ?_
      by_contra several
      rcases digits with _ | ⟨first, _ | ⟨second, more⟩⟩
      · cases zero
      · exact several rfl
      · cases zero
        have digit := isDigitOf_of_digits? read second (by simp)
        rw [plain second (more ++ rest) rfl] at digit
        cases digit
    exact ⟨by rw [canonical], below, ended⟩
  · rintro ⟨rfl, below, ended⟩
    refine ⟨?_, decimal n, rfl, length_decimal_le below, digits?_decimal n, below, ended⟩
    intro d more same
    have zero : n = 0 := by
      by_contra positive
      have head := congrArg List.head? same
      rw [decimal, List.head?_append_of_ne_nil _ Nat.toDigits_ne_nil] at head
      exact Text.head?_toDigits_ne (Nat.pos_of_ne_zero positive) head
    subst zero
    cases same
    exact ended d rfl

theorem writeV4_append (a b c d : Nat) (rest : List Char)
    : writeV4 a b c d ++ rest
      = decimal a ++ '.' :: (decimal b ++ '.' :: (decimal c ++ '.' :: (decimal d ++ rest))) := by
  simp [writeV4]

/-- An IPv4 address is read from its own text, and from no other. -/
theorem v4?_eq_some_iff {a b c d : Nat} {s rest : List Char}
    : v4? s = some ((a, b, c, d), rest)
      ↔ s = writeV4 a b c d ++ rest ∧ (a < 256 ∧ b < 256 ∧ c < 256 ∧ d < 256) ∧ NoDigit 10 rest := by
  simp only [v4?, Option.bind_eq_bind, Option.bind_eq_some_iff, Prod.exists, octet?_eq_some_iff,
    char?_eq_some_iff, writeV4_append]
  constructor
  · rintro ⟨a, _, ⟨rfl, belowA, -⟩, _, rfl, b, _, ⟨rfl, belowB, -⟩, _, rfl, c, _, ⟨rfl, belowC, -⟩, _,
      rfl, d, _, ⟨rfl, belowD, ended⟩, ⟨⟩⟩
    exact ⟨rfl, ⟨belowA, belowB, belowC, belowD⟩, ended⟩
  · rintro ⟨rfl, ⟨belowA, belowB, belowC, belowD⟩, ended⟩
    have dot (more : List Char) : NoDigit 10 ('.' :: more) := noDigit_cons rfl more
    exact ⟨a, _, ⟨rfl, belowA, dot _⟩, _, rfl, b, _, ⟨rfl, belowB, dot _⟩, _, rfl, c, _,
      ⟨rfl, belowC, dot _⟩, _, rfl, d, _, ⟨rfl, belowD, ended⟩, rfl⟩

theorem v4?_of_noDigit {s : List Char} (none : NoDigit 10 s)
    : v4? s = .none := by
  refine Option.eq_none_iff_forall_ne_some.mpr fun ⟨(a, b, c, d), left⟩ read => ?_
  obtain ⟨same, -, -⟩ := v4?_eq_some_iff.mp read
  rw [writeV4_append, ← List.nil_append s] at same
  have decimals := isDigitOf_of_digits? (digits?_decimal a)
  have no_digits :=
    (digits_unique (List.forall_mem_nil _) decimals none (noDigit_cons rfl _) same).1
  exact Nat.toDigits_ne_nil no_digits.symm

/-- Without a dot behind the digits in front of a text there is no IPv4 address. -/
theorem v4?_eq_none {digits rest : List Char} (all : ∀ c ∈ digits, isDigitOf 16 c = true)
    (ended : NoDigit 16 rest) (undotted : ∀ more, rest ≠ '.' :: more)
    : v4? (digits ++ rest) = none := by
  refine Option.eq_none_iff_forall_ne_some.mpr fun ⟨(a, b, c, d), left⟩ read => ?_
  obtain ⟨same, -, -⟩ := v4?_eq_some_iff.mp read
  rw [writeV4_append] at same
  have decimals : ∀ c ∈ decimal a, isDigitOf 16 c = true := fun c member =>
    isDigitOf_sixteen (isDigitOf_of_digits? (digits?_decimal a) c member)
  exact undotted _ (digits_unique all decimals ended (noDigit_cons rfl _) same).2

-----------------------------------------------------------------------------------------
-- Groups of IPv6 addresses
-----------------------------------------------------------------------------------------

/-- The text of a group: one to four digits of base sixteen. -/
structure GroupText (s : List Char) (g : Nat) : Prop where
  short : s.length ≤ 4
  value : digits? 16 s = some g

/-- The text of groups with colons between them, and whether an IPv4 address stands for the last two. -/
inductive GroupsText : Bool → List Char → List Nat → Prop
  | one {s g} (group : GroupText s g) : GroupsText false s [g]
  | dotted {a b c d} (bytes : a < 256 ∧ b < 256 ∧ c < 256 ∧ d < 256)
    : GroupsText true (writeV4 a b c d) [a * 256 + b, c * 256 + d]
  | more {dotted s g rest gs} (group : GroupText s g) (later : GroupsText dotted rest gs)
    : GroupsText dotted (s ++ ':' :: rest) (g :: gs)

/-- No groups, or the text of some. -/
def OptionalGroupsText (dotted : Bool) (s : List Char) (gs : List Nat) : Prop :=
  (dotted = false ∧ s = [] ∧ gs = []) ∨ GroupsText dotted s gs

/-- The text of an IPv6 address: all eight groups, or two colons in the place of one or more zero groups. -/
inductive V6Text : List Char → List Nat → Prop
  | full {dotted s gs} (groups : GroupsText dotted s gs) (eight : gs.length = 8) : V6Text s gs
  | short {dotted front head back tail} (before : OptionalGroupsText false front head)
    (after : OptionalGroupsText dotted back tail) (room : head.length + tail.length < 8)
    : V6Text (front ++ ':' :: ':' :: back)
        (head ++ List.replicate (8 - head.length - tail.length) 0 ++ tail)

/-- What cannot go on with groups that stand in front of it. -/
structure EndsGroups (rest : List Char) : Prop where
  noDigit : NoDigit 16 rest
  undotted : ∀ more, rest ≠ '.' :: more
  noGroup : ∀ more, rest = ':' :: more → NoDigit 16 more

theorem shortNumber?_group {s : List Char} {g : Nat} (group : GroupText s g) {rest : List Char}
    (ended : NoDigit 16 rest)
    : shortNumber? 16 65536 4 (s ++ rest) = some (g, rest) := by
  have below : g < 16 ^ 4 :=
    Nat.lt_of_lt_of_le (Text.digits?_lt group.value) (Nat.pow_le_pow_right (by decide) group.short)
  exact shortNumber?_eq_some_iff.mpr ⟨s, rfl, group.short, group.value, below, ended⟩

theorem shortNumber?_eq_none {base limit most : Nat} {s : List Char} (none : NoDigit base s)
    : shortNumber? base limit most s = .none := by
  refine Option.eq_none_iff_forall_ne_some.mpr fun ⟨n, rest⟩ read => ?_
  obtain ⟨digits, rfl, -, read, -, -⟩ := shortNumber?_eq_some_iff.mp read
  cases digits with
  | nil => cases read
  | cons c more =>
      have digit := isDigitOf_of_digits? read c List.mem_cons_self
      rw [none c rfl] at digit
      cases digit

/-- A text, with a colon in front of it unless it comes first. -/
def lead (first : Bool) (s : List Char) : List Char := if first then s else ':' :: s

theorem separated_lead {α : Type} (first : Bool) (read : Reader α) (s : List Char)
    : separated first read (lead first s) = read s := by
  cases first <;> rfl

theorem separated_eq_some_iff {α : Type} {first : Bool} {read : Reader α} {s : List Char}
    {found : α × List Char}
    : separated first read s = some found ↔ ∃ t, s = lead first t ∧ read t = some found := by
  cases first with
  | true => simp [separated, lead]
  | false =>
      simp [separated, lead, Option.bind_eq_some_iff, char?_eq_some_iff]

theorem separated_eq_none {α : Type} {first : Bool} {read : Reader α} {s : List Char}
    (none : ∀ t, s = lead first t → read t = .none)
    : separated first read s = .none := by
  refine Option.eq_none_iff_forall_ne_some.mpr fun found reads => ?_
  obtain ⟨t, same, reads⟩ := separated_eq_some_iff.mp reads
  rw [none t same] at reads
  cases reads

/-- Where no group begins, none is read. -/
theorem groups?_of_noDigit {s : List Char} (first : Bool) (limit : Nat)
    (none : ∀ t, s = lead first t → NoDigit 16 t)
    : groups? first limit s = (([], false), s) := by
  have no_address : separated first v4? s = .none :=
    separated_eq_none fun t same => v4?_of_noDigit (none t same).ten
  have no_group : separated first (shortNumber? 16 65536 4) s = .none :=
    separated_eq_none fun t same => shortNumber?_eq_none (none t same)
  cases limit with
  | zero => rfl
  | succ limit => simp only [groups?, no_address, no_group, ite_self]

/-- A group is read in front of what does not belong to it, and then what stands behind it. -/
theorem groups?_group {s : List Char} {g : Nat} (group : GroupText s g) {rest : List Char}
    (ended : NoDigit 16 rest) (undotted : ∀ more, rest ≠ '.' :: more) (first : Bool) (limit : Nat)
    : groups? first (limit + 1) (lead first (s ++ rest))
      = let ((others, dotted), left) := groups? false limit rest
        ((g :: others, dotted), left) := by
  -- An IPv4 address is tried first, and would begin with decimal digits too.
  have no_address : v4? (s ++ rest) = none :=
    v4?_eq_none (isDigitOf_of_digits? group.value) ended undotted
  simp only [groups?, separated_lead, no_address, shortNumber?_group group ended, ite_self]

/-- Groups are read as they are written, by induction over them. -/
theorem groups?_append {dotted : Bool} {s : List Char} {gs : List Nat}
    (text : GroupsText dotted s gs) {limit : Nat} (room : gs.length ≤ limit) {rest : List Char}
    (ends : EndsGroups rest) (first : Bool)
    : groups? first limit (lead first (s ++ rest)) = ((gs, dotted), rest) := by
  have nothing (limit : Nat) : groups? false limit rest = (([], false), rest) :=
    groups?_of_noDigit false limit fun t same => ends.noGroup t same
  induction text generalizing first limit with
  | one group =>
      obtain ⟨spare, rfl⟩ := Nat.exists_eq_add_of_le' room
      change groups? first (spare + 1) _ = _
      rw [groups?_group group ends.noDigit ends.undotted, nothing]
  | @dotted a b c d bytes =>
      obtain ⟨spare, rfl⟩ := Nat.exists_eq_add_of_le' room
      change groups? first (spare + 1 + 1) _ = _
      have address : v4? (writeV4 a b c d ++ rest) = some ((a, b, c, d), rest) :=
        v4?_eq_some_iff.mpr ⟨rfl, bytes, ends.noDigit.ten⟩
      rw [groups?, if_pos (Nat.succ_pos spare), separated_lead, address]
  | @more dotted s g later gs group _ ih =>
      obtain ⟨spare, rfl⟩ := Nat.exists_eq_add_of_le' room
      change groups? first (spare + gs.length + 1) _ = _
      have colon : NoDigit 16 (lead false (later ++ rest)) := noDigit_cons rfl _
      have shape : s ++ ':' :: later ++ rest = s ++ lead false (later ++ rest) := by simp [lead]
      rw [shape, groups?_group group colon (by simp [lead]), ih (Nat.le_add_left _ _) false]

/-- What is read as groups is a text of groups, if it is any, by induction over the limit. -/
theorem text_of_groups? {first dotted : Bool} {limit : Nat} {s left : List Char} {gs : List Nat}
    (read : groups? first limit s = ((gs, dotted), left))
    : gs.length ≤ limit
      ∧ ((dotted = false ∧ gs = [] ∧ left = s)
        ∨ ∃ text, GroupsText dotted text gs ∧ s = lead first (text ++ left)) := by
  induction limit generalizing first s gs dotted left with
  | zero =>
      cases read
      exact ⟨Nat.le_refl 0, .inl ⟨rfl, rfl, rfl⟩⟩
  | succ limit ih =>
      simp only [groups?] at read
      split at read
      · rename_i a b c d after embedded
        cases read
        obtain ⟨room, embedded⟩ := Option.ite_none_right_eq_some.mp embedded
        obtain ⟨t, rfl, address⟩ := separated_eq_some_iff.mp embedded
        obtain ⟨rfl, bytes, -⟩ := v4?_eq_some_iff.mp address
        exact ⟨Nat.succ_le_succ room, .inr ⟨_, .dotted bytes, rfl⟩⟩
      · split at read
        · rename_i g after found
          obtain ⟨t, rfl, number⟩ := separated_eq_some_iff.mp found
          obtain ⟨digits, rfl, short, value, -, -⟩ := shortNumber?_eq_some_iff.mp number
          have group : GroupText digits g := ⟨short, value⟩
          rcases later : groups? false limit after with ⟨⟨others, more⟩, behind⟩
          rw [later] at read
          cases read
          obtain ⟨room, rest⟩ := ih later
          refine ⟨Nat.succ_le_succ room, .inr ?_⟩
          rcases rest with ⟨rfl, rfl, rfl⟩ | ⟨text, groups, rfl⟩
          · exact ⟨digits, .one group, rfl⟩
          · exact ⟨_, .more group groups, by simp [lead]⟩
        · cases read
          exact ⟨Nat.zero_le _, .inl ⟨rfl, rfl, rfl⟩⟩

theorem groups?_optional {dotted : Bool} {s : List Char} {gs : List Nat}
    (text : OptionalGroupsText dotted s gs) {limit : Nat} (room : gs.length ≤ limit)
    {rest : List Char} (ends : EndsGroups rest)
    : groups? true limit (s ++ rest) = ((gs, dotted), rest) := by
  rcases text with ⟨rfl, rfl, rfl⟩ | text
  · refine groups?_of_noDigit true limit fun t same => ?_
    obtain rfl : rest = t := same
    exact ends.noDigit
  · exact groups?_append text room ends true

theorem optional_of_groups? {dotted : Bool} {limit : Nat} {s left : List Char} {gs : List Nat}
    (read : groups? true limit s = ((gs, dotted), left))
    : gs.length ≤ limit ∧ ∃ text, OptionalGroupsText dotted text gs ∧ s = text ++ left := by
  obtain ⟨room, ⟨rfl, rfl, rfl⟩ | ⟨text, groups, same⟩⟩ := text_of_groups? read
  · exact ⟨room, [], .inl ⟨rfl, rfl, rfl⟩, rfl⟩
  · exact ⟨room, text, .inr groups, same⟩

-----------------------------------------------------------------------------------------
-- IPv6 addresses
-----------------------------------------------------------------------------------------

/-- What cannot go on with an IPv6 address that stands in front of it. -/
structure EndsV6 (rest : List Char) : Prop where
  noDigit : NoDigit 16 rest
  undotted : ∀ more, rest ≠ '.' :: more
  noColon : ∀ more, rest ≠ ':' :: more

theorem EndsV6.endsGroups {rest : List Char} (ends : EndsV6 rest)
    : EndsGroups rest :=
  ⟨ends.noDigit, ends.undotted, fun more same => absurd same (ends.noColon more)⟩

/-- Groups stop in front of two colons. -/
theorem endsGroups_colons (s : List Char)
    : EndsGroups (':' :: ':' :: s) where
  noDigit := noDigit_cons rfl _
  undotted := by simp
  noGroup := by
    rintro more ⟨⟩
    exact noDigit_cons rfl _

/-- An IPv6 address is read from each of its texts. -/
theorem v6?_append {s : List Char} {gs : List Nat} (text : V6Text s gs) {rest : List Char}
    (ends : EndsV6 rest)
    : v6? (s ++ rest) = some (gs, rest) := by
  cases text with
  | full groups eight =>
      have read := groups?_append groups (Nat.le_of_eq eight) ends.endsGroups true
      rw [v6?, show s ++ rest = lead true (s ++ rest) from rfl, read]
      exact if_pos eight
  | @short dotted front head back tail before after room =>
      have shape
          : front ++ ':' :: ':' :: back ++ rest = front ++ ':' :: ':' :: (back ++ rest) := by
        simp
      have roomHead : head.length ≤ 8 := by omega
      have roomTail : tail.length ≤ 7 - head.length := by omega
      have fewer : ¬ head.length = 8 := by omega
      rw [v6?, shape, groups?_optional before roomHead (endsGroups_colons (back ++ rest))]
      simp only [fewer, Bool.false_eq_true, if_false, char?, if_true, Option.bind_eq_bind,
        Option.bind_some, groups?_optional after roomTail ends.endsGroups]
      rfl

/-- What is read as an IPv6 address is one of its texts. -/
theorem text_of_v6? {s left : List Char} {gs : List Nat} (read : v6? s = some (gs, left))
    : ∃ text, V6Text text gs ∧ s = text ++ left := by
  rw [v6?] at read
  rcases front : groups? true 8 s with ⟨⟨head, dotted⟩, behind⟩
  obtain ⟨roomHead, text, before, rfl⟩ := optional_of_groups? front
  rw [front] at read
  simp only at read
  split at read
  case isTrue eight =>
      cases read
      refine ⟨text, .full (before.resolve_left ?_) eight, rfl⟩
      rintro ⟨-, -, rfl⟩
      cases eight
  case isFalse fewer =>
      rw [Option.ite_none_left_eq_some] at read
      obtain ⟨plain, read⟩ := read
      obtain rfl : dotted = false := Bool.eq_false_iff.mpr plain
      simp only [Option.bind_eq_bind, Option.bind_eq_some_iff, char?_eq_some_iff] at read
      obtain ⟨_, rfl, after, rfl, read⟩ := read
      rcases back : groups? true (7 - head.length) after with ⟨⟨tail, dotted⟩, rest⟩
      obtain ⟨roomTail, text', behind, rfl⟩ := optional_of_groups? back
      rw [back] at read
      cases read
      have room : head.length + tail.length < 8 := by omega
      exact ⟨_, .short before behind room, by simp⟩

/-- What is read as an IPv6 address to its end is exactly one of the texts of that address. -/
theorem v6?_eq_some_iff {s : List Char} {gs : List Nat}
    : v6? s = some (gs, []) ↔ V6Text s gs := by
  constructor
  · intro read
    obtain ⟨text, spelled, same⟩ := text_of_v6? read
    rwa [same, List.append_nil]
  · intro spelled
    have read := v6?_append spelled ⟨noDigit_nil 16, nofun, nofun⟩
    rwa [List.append_nil] at read

/-- There is a colon in an IPv6 address, with nothing but digits before it. -/
theorem V6Text.exists_colon {s : List Char} {gs : List Nat} (text : V6Text s gs)
    : ∃ digits more, s = digits ++ ':' :: more ∧ ∀ c ∈ digits, isDigitOf 16 c = true := by
  cases text with
  | full groups eight =>
      cases groups with
      | one group => cases eight
      | dotted bytes => cases eight
      | more group later => exact ⟨_, _, rfl, isDigitOf_of_digits? group.value⟩
  | @short dotted front head back tail before after room =>
      rcases before with ⟨-, rfl, -⟩ | groups
      · exact ⟨[], _, rfl, List.forall_mem_nil _⟩
      · cases groups with
        | one group => exact ⟨front, _, rfl, isDigitOf_of_digits? group.value⟩
        | more group later =>
            exact ⟨_, _, List.append_assoc _ _ _, isDigitOf_of_digits? group.value⟩

-----------------------------------------------------------------------------------------
-- Canonical texts
-----------------------------------------------------------------------------------------

theorem groupText_toDigits {g : Nat} (below : g < 65536)
    : GroupText (Nat.toDigits 16 g) g where
  short := (Nat.length_toDigits_le_iff (by decide) (by decide)).mpr below
  value := Text.digits?_toDigits (by decide) (by decide) g

theorem optionalGroupsText_writeGroups {gs : List Nat} (below : ∀ g ∈ gs, g < 65536)
    : OptionalGroupsText false (writeGroups gs) gs := by
  fun_induction writeGroups gs with
  | case1 => exact .inl ⟨rfl, rfl, rfl⟩
  | case2 g => exact .inr (.one (groupText_toDigits (below g List.mem_cons_self)))
  | case3 g others several ih =>
      obtain ⟨first, later⟩ := List.forall_mem_cons.mp below
      refine .inr (.more (groupText_toDigits first) ((ih later).resolve_left ?_))
      rintro ⟨-, -, rfl⟩
      exact several rfl

theorem takeWhile_zero (gs : List Nat)
    : gs.takeWhile (· = 0) = List.replicate (zeroRun gs) 0 :=
  List.eq_replicate_of_mem fun g member => by simpa using List.mem_takeWhile_imp member

/-- The longest run of zeros is one: by induction over the groups. -/
theorem longestZeros_run (gs : List Nat)
    : ∃ front back,
        gs = front ++ List.replicate (longestZeros gs).2 0 ++ back
        ∧ front.length = (longestZeros gs).1 := by
  induction gs with
  | nil => exact ⟨[], [], rfl, rfl⟩
  | cons g others ih =>
      obtain ⟨front, back, split, place⟩ := ih
      rw [longestZeros]
      simp only
      split
      · refine ⟨[], (g :: others).dropWhile (· = 0), ?_, rfl⟩
        rw [List.nil_append, ← takeWhile_zero, List.takeWhile_append_dropWhile]
      · exact ⟨g :: front, back, by rw [List.cons_append, List.cons_append, ← split], by simp [place]⟩

/-- The canonical text of an IPv6 address is one of its texts. -/
theorem v6Text_writeV6 {gs : List Nat} (eight : gs.length = 8) (below : ∀ g ∈ gs, g < 65536)
    : V6Text (writeV6 gs) gs := by
  unfold writeV6
  split
  case h_1 g h =>
    have groupG : g < 65536 := below g (by simp)
    have groupH : h < 65536 := below h (by simp)
    have bytes : g / 256 < 256 ∧ g % 256 < 256 ∧ h / 256 < 256 ∧ h % 256 < 256 := by omega
    have mark : GroupText ['f', 'f', 'f', 'f'] 65535 := ⟨by decide, by decide⟩
    have behind := GroupsText.more mark (.dotted bytes)
    rw [Nat.div_add_mod', Nat.div_add_mod'] at behind
    exact .short (.inl ⟨rfl, rfl, rfl⟩) (.inr behind) (by simp)
  case h_2 =>
    obtain ⟨front, back, same, place⟩ := longestZeros_run gs
    generalize longestZeros gs = run at same place
    obtain ⟨_, length⟩ := run
    subst place
    have all : front.length + (length + back.length) = 8 := by simpa [same] using eight
    have take : gs.take front.length = front := by
      rw [same, List.append_assoc, List.take_left]
    have drop : gs.drop (front.length + length) = back := by
      rw [same, List.drop_left' (by simp)]
    simp only [take, drop]
    split
    case isTrue several =>
        have head : OptionalGroupsText false (writeGroups front) front :=
          optionalGroupsText_writeGroups fun g member => below g (by simp [same, member])
        have tail : OptionalGroupsText false (writeGroups back) back :=
          optionalGroupsText_writeGroups fun g member => below g (by simp [same, member])
        have zeros : 8 - front.length - back.length = length := by omega
        have text := V6Text.short head tail (by omega)
        rwa [zeros, ← same] at text
    case isFalse =>
        refine .full ((optionalGroupsText_writeGroups below).resolve_left ?_) eight
        rintro ⟨-, -, rfl⟩
        cases eight

end ReceiptFleet.Printer.Address
