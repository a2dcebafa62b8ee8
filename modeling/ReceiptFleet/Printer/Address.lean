import ReceiptFleet.Text.Digits

/-!
Addresses of printers: an IPv4 or IPv6 address and a port. The text of an address is canonical; many
texts are read as the same address.
-/

namespace ReceiptFleet.Printer

/-- An address and a port. An IPv6 address has eight groups, and a scope that is zero if it has none. -/
inductive Address where
  | v4 (a b c d : UInt8) (port : UInt16)
  | v6 (groups : Vector UInt16 8) (scope : UInt32) (port : UInt16)
deriving DecidableEq, Repr

namespace Address

/-- The port of an address. -/
def port : Address → UInt16
  | .v4 _ _ _ _ port => port
  | .v6 _ _ port => port

/-! ## Writing -/

/-- The decimal text of a number. -/
def decimal (n : Nat) : List Char := Nat.toDigits 10 n

/-- The text of an IPv4 address. -/
def writeV4 (a b c d : Nat) : List Char :=
  decimal a ++ '.' :: decimal b ++ '.' :: decimal c ++ '.' :: decimal d

/-- Groups in base sixteen with colons between them. -/
def writeGroups : List Nat → List Char
  | [] => []
  | [g] => Nat.toDigits 16 g
  | g :: others => Nat.toDigits 16 g ++ ':' :: writeGroups others

/-- How many zeros a list of groups begins with. -/
def zeroRun (groups : List Nat) : Nat := (groups.takeWhile (· = 0)).length

/-- The longest run of zeros, as its place and its length; the first of those that are equally long. -/
def longestZeros : List Nat → Nat × Nat
  | [] => (0, 0)
  | g :: others =>
    let (place, length) := longestZeros others
    let here := zeroRun (g :: others)
    if here ≥ length ∧ here > 0 then (0, here) else (place + 1, length)

/-- The text of an IPv6 address: the longest run of at least two zero groups is left out, and an address
that stands for an IPv4 address shows that one. -/
def writeV6 (groups : List Nat) : List Char :=
  match groups with
  | [0, 0, 0, 0, 0, 0xFFFF, g, h] =>
    [':', ':', 'f', 'f', 'f', 'f', ':'] ++ writeV4 (g / 256) (g % 256) (h / 256) (h % 256)
  | _ =>
    let (place, length) := longestZeros groups
    if length > 1 then
      writeGroups (groups.take place) ++ ':' :: ':' :: writeGroups (groups.drop (place + length))
    else writeGroups groups

/-- The text of an address. -/
def write : Address → List Char
  | .v4 a b c d port => writeV4 a.toNat b.toNat c.toNat d.toNat ++ ':' :: decimal port.toNat
  | .v6 groups scope port =>
    let ip := writeV6 (groups.toList.map UInt16.toNat)
    let withScope := if scope = 0 then ip else ip ++ '%' :: decimal scope.toNat
    '[' :: withScope ++ ']' :: ':' :: decimal port.toNat

/-- The text of an address. -/
def text (address : Address) : String := String.ofList address.write

/-! ## Reading -/

/-- Behind a reader there is what it read and what is left. -/
abbrev Reader (α : Type) := List Char → Option (α × List Char)

/-- Whether a character is a digit of a base. -/
def isDigitOf (base : Nat) (c : Char) : Bool := (Text.digit? base c).isSome

/-- Reads a number below a limit from all digits at the front. -/
def number? (base limit : Nat) : Reader Nat := fun s => do
  let n ← Text.digits? base (s.takeWhile (isDigitOf base))
  if n < limit then some (n, s.dropWhile (isDigitOf base)) else none

/-- Reads a number of at most so many digits. -/
def shortNumber? (base limit digits : Nat) : Reader Nat := fun s =>
  if (s.takeWhile (isDigitOf base)).length ≤ digits then number? base limit s else none

/-- Reads a character. -/
def char? (expected : Char) : List Char → Option (List Char)
  | c :: rest => if c = expected then some rest else none
  | [] => none

/-- Reads a part of an IPv4 address; a part of several digits does not begin with a zero. -/
def octet? : Reader Nat := fun s =>
  match s with
  | '0' :: c :: _ => if isDigitOf 10 c then none else shortNumber? 10 256 3 s
  | _ => shortNumber? 10 256 3 s

/-- Reads an IPv4 address as two groups. -/
def v4? : Reader (Nat × Nat × Nat × Nat) := fun s => do
  let (a, s) ← octet? s
  let (b, s) ← octet? (← char? '.' s)
  let (c, s) ← octet? (← char? '.' s)
  let (d, s) ← octet? (← char? '.' s)
  return ((a, b, c, d), s)

/-- Reads what follows a separator; the first item has none in front. -/
def separated {α : Type} (first : Bool) (read : Reader α) : Reader α := fun s =>
  if first then read s else (char? ':' s).bind read

/-- Reads groups as long as there are any, up to a limit; an IPv4 address may stand for the last two
groups and ends them. Gives the groups and whether they end so. -/
def groups? (first : Bool) : Nat → List Char → (List Nat × Bool) × List Char
  | 0, s => (([], false), s)
  | limit + 1, s =>
    let embedded := if limit > 0 then separated first v4? s else none
    match embedded with
    | some ((a, b, c, d), left) => (([a * 256 + b, c * 256 + d], true), left)
    | none =>
      match separated first (shortNumber? 16 65536 4) s with
      | some (g, left) =>
        let ((others, ends), left) := groups? false limit left
        ((g :: others, ends), left)
      | none => (([], false), s)

/-- Reads an IPv6 address as eight groups. Two colons stand for at least one zero group; an IPv4
address may stand at the very end only. -/
def v6? : Reader (List Nat) := fun s =>
  let ((head, ends), left) := groups? true 8 s
  if head.length = 8 then some (head, left)
  else if ends then none
  else do
    let s ← char? ':' (← char? ':' left)
    let ((tail, _), left) := groups? true (7 - head.length) s
    return (head ++ List.replicate (8 - head.length - tail.length) 0 ++ tail, left)

/-- Reads a colon and a port. -/
def port? : Reader Nat := fun s => do number? 10 65536 (← char? ':' s)

/-- Reads an IPv4 address and a port. -/
def readV4? (s : List Char) : Option Address := do
  let ((a, b, c, d), s) ← v4? s
  let (port, s) ← port? s
  if s.isEmpty then
    some (.v4 (.ofNat a) (.ofNat b) (.ofNat c) (.ofNat d) (.ofNat port))
  else none

/-- Reads a scope, if there is one. -/
def scope? : Reader Nat := fun s =>
  match s with
  | '%' :: rest => number? 10 4294967296 rest
  | _ => some (0, s)

/-- Reads a bracketed IPv6 address and a port. -/
def readV6? (s : List Char) : Option Address := do
  let (groups, s) ← v6? (← char? '[' s)
  let (scope, s) ← scope? s
  let (port, s) ← port? (← char? ']' s)
  let groups : List UInt16 := groups.map .ofNat
  if h : groups.length = 8 ∧ s = [] then
    some (.v6 ⟨groups.toArray, by simpa using h.1⟩ (.ofNat scope) (.ofNat port))
  else none

/-- Reads an address and a port. -/
def read? (s : String) : Option Address := (readV4? s.toList).or (readV6? s.toList)

end Address

end ReceiptFleet.Printer
