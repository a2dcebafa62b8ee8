import ReceiptFleet.Binary64.Decimal
import ReceiptFleet.Status.Basic
import ReceiptFleet.Text.Digits

/-!
Statuses as JSON: one flat object of truth values and numbers. Writing puts the fields in order and
escapes only what must be escaped. Reading takes any white space, order and escapes, and of two fields
with one name the later; it refuses every other kind of value.
-/

namespace ReceiptFleet.Status.Json

/-! ## Writing -/

/-- A digit of base sixteen, in lower case. -/
def hexDigit (n : Nat) : Char := Nat.digitChar n

/-- A character inside a JSON string. -/
def escapeChar (c : Char) : List Char :=
  if c = '"' then ['\\', '"']
  else if c = '\\' then ['\\', '\\']
  else if c = '\x08' then ['\\', 'b']
  else if c = '\x0c' then ['\\', 'f']
  else if c = '\n' then ['\\', 'n']
  else if c = '\r' then ['\\', 'r']
  else if c = '\t' then ['\\', 't']
  else if c.toNat < 0x20 then
    ['\\', 'u', '0', '0', hexDigit (c.toNat / 16), hexDigit (c.toNat % 16)]
  else [c]

/-- A JSON string. -/
def writeString (s : List Char) : List Char := '"' :: s.flatMap escapeChar ++ ['"']

/-- The JSON text of a value; what is no finite number is null. -/
def writeValue : StatusValue → List Char
  | .flag true => ['t', 'r', 'u', 'e']
  | .flag false => ['f', 'a', 'l', 's', 'e']
  | .number x => if x.isNaN || x.isInfinite then ['n', 'u', 'l', 'l'] else x.text

/-- A field with its name. -/
def writeField (field : String × StatusValue) : List Char :=
  writeString field.1.toList ++ ':' :: writeValue field.2

/-- Fields with commas between them. -/
def writeFields : List (String × StatusValue) → List Char
  | [] => []
  | [field] => writeField field
  | field :: others => writeField field ++ ',' :: writeFields others

/-- The JSON text of a status. -/
def write (s : Status) : String :=
  String.ofList ('\x7b' :: writeFields s.fields.entries ++ ['\x7d'])

/-! ## Reading strings -/

/-- Behind a reader there is what it read and what is left. -/
abbrev Reader (α : Type) := List Char → Option (α × List Char)

/-- White space of JSON. -/
def isSpace (c : Char) : Bool := c == ' ' || c == '\n' || c == '\t' || c == '\r'

/-- What is left behind white space. -/
def skipSpace (s : List Char) : List Char := s.dropWhile isSpace

/-- The character of a letter behind a backslash. -/
def escapedChar? : Char → Option Char
  | '"' => some '"'
  | '\\' => some '\\'
  | '/' => some '/'
  | 'b' => some '\x08'
  | 'f' => some '\x0c'
  | 'n' => some '\n'
  | 'r' => some '\r'
  | 't' => some '\t'
  | _ => none

/-- Whether a unit is the first half of a pair. -/
def isLeading (unit : Nat) : Bool := 0xD800 ≤ unit && unit ≤ 0xDBFF

/-- Whether a unit is the second half of a pair. -/
def isTrailing (unit : Nat) : Bool := 0xDC00 ≤ unit && unit ≤ 0xDFFF

/-- The character of a pair of units. -/
def paired (first second : Nat) : Char :=
  Char.ofNat (0x10000 + (first - 0xD800) * 0x400 + (second - 0xDC00))

/-- Puts a character in front of what was read. -/
def before (c : Char) (read : Option (List Char × List Char)) : Option (List Char × List Char) :=
  read.map fun (cs, left) => (c :: cs, left)

/-- Reads a string behind its opening quote. Half of a pair alone is refused, and so is a control
character that is not escaped. -/
def stringFrom? : Reader (List Char)
  | [] => none
  | '"' :: rest => some ([], rest)
  | '\\' :: 'u' :: a :: b :: c :: d :: rest =>
    match Text.digits? 16 [a, b, c, d] with
    | none => none
    | some first =>
      if isTrailing first then none
      else if isLeading first then
        match rest with
        | '\\' :: 'u' :: a :: b :: c :: d :: rest =>
          match Text.digits? 16 [a, b, c, d] with
          | some second =>
            if isTrailing second then before (paired first second) (stringFrom? rest) else none
          | none => none
        | _ => none
      else before (Char.ofNat first) (stringFrom? rest)
  | '\\' :: c :: rest =>
    match escapedChar? c with
    | some c => before c (stringFrom? rest)
    | none => none
  | c :: rest => if c = '\\' ∨ c.toNat < 0x20 then none else before c (stringFrom? rest)

/-- Reads a string. -/
def string? : Reader String
  | '"' :: rest => (stringFrom? rest).map fun (cs, left) => (String.ofList cs, left)
  | _ => none

/-! ## Reading numbers -/

/-- The digits at the front, as numbers. -/
def digits : List Char → List Nat × List Char
  | [] => ([], [])
  | c :: rest =>
    match Text.digit? 10 c with
    | some d => let (ds, left) := digits rest; (d :: ds, left)
    | none => ([], c :: rest)

/-- Takes digits into a significand as long as it stays below 2^64; from the first digit that does not
fit, all are left out. Gives the significand and how many digits it took. -/
def significand (value : Nat) : List Nat → Nat × Nat
  | [] => (value, 0)
  | d :: ds =>
    if value * 10 + d < Text.limit64 then
      let (value, count) := significand (value * 10 + d) ds
      (value, count + 1)
    else (value, 0)

/-- Divides by the greatest power of ten that there is, as long as the exponent is below the range, or
until nothing is left. -/
def scaleDown (x : Binary64) (exponent : Int) : Nat → Option Binary64
  | 0 => some x
  | tries + 1 =>
    if exponent ≥ -308 then some (x.div (.tenTo (-exponent).toNat))
    else if x.isZero then some x
    else scaleDown (x.div (.tenTo 308)) (exponent + 308) tries

/-- A significand times a power of ten, each step rounded; what is too large is refused. -/
def scaled? (significand : Nat) (exponent : Int) : Option Binary64 :=
  let x := Binary64.ofNat significand
  if exponent > 308 then (if x.isZero then some x else none)
  else if exponent ≥ 0 then
    let product := x.mul (.tenTo exponent.toNat)
    if product.isInfinite then none else some product
  else scaleDown x exponent 4

/-- Reads an exponent behind its `e`. -/
def exponent? : Reader Int := fun s =>
  let (negative, s) := match s with
    | '+' :: rest => (false, rest)
    | '-' :: rest => (true, rest)
    | _ => (false, s)
  match digits s with
  | ([], _) => none
  | (ds, left) =>
    let n : Nat := ds.foldl (fun n d => n * 10 + d) 0
    some (if negative then -Int.ofNat n else Int.ofNat n, left)

/-- Reads a number without its sign. -/
def magnitude? : Reader Binary64 := fun s =>
  match digits s with
  | ([], _) => none
  | (0 :: _ :: _, _) => none
  | (whole, left) => do
    let (value, taken) := significand 0 whole
    let (value, power, left) ← match left with
      | '.' :: rest => match digits rest with
        | ([], _) => none
        | (ds, left) =>
          let (value, count) := significand value ds
          some (value, (whole.length : Int) - taken - count, left)
      | _ => some (value, (whole.length : Int) - taken, left)
    match left with
    | 'e' :: rest | 'E' :: rest => do
      let (e, left) ← exponent? rest
      return (← scaled? value (power + e), left)
    | _ => return (← scaled? value power, left)

/-- Reads a number. -/
def number? : Reader Binary64
  | '-' :: rest => (magnitude? rest).map fun (x, left) => (x.neg, left)
  | s => magnitude? s

/-! ## Reading statuses -/

/-- Reads a value. -/
def value? : Reader StatusValue
  | 't' :: 'r' :: 'u' :: 'e' :: rest => some (.flag true, rest)
  | 'f' :: 'a' :: 'l' :: 's' :: 'e' :: rest => some (.flag false, rest)
  | s => (number? s).map fun (x, left) => (.number x, left)

/-- Reads a name, a colon and a value. -/
def field? : Reader (String × StatusValue) := fun s => do
  let (name, s) ← string? (skipSpace s)
  match skipSpace s with
  | ':' :: s => do
    let (value, s) ← value? (skipSpace s)
    return ((name, value), skipSpace s)
  | _ => none

/-- Reads fields with commas between them up to the end of the object, at most `fuel` of them. -/
def fields? : Nat → Reader (List (String × StatusValue))
  | 0, _ => none
  | fuel + 1, s => do
    let (field, s) ← field? s
    match s with
    | ',' :: s => (fields? fuel s).map fun (fields, left) => (field :: fields, left)
    | '\x7d' :: left => some ([field], left)
    | _ => none

/-- Reads a status from JSON text, which is exactly one object. -/
def read? (text : String) : Option Status :=
  match skipSpace text.toList with
  | '\x7b' :: s => do
    let (fields, left) ← match skipSpace s with
      | '\x7d' :: left => some ([], left)
      | _ => fields? (s.length + 1) s
    if (skipSpace left).isEmpty then some ⟨Keyed.ofList fields⟩ else none
  | _ => none

end ReceiptFleet.Status.Json
