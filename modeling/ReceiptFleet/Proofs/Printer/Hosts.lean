import ReceiptFleet.Printer.Network
import ReceiptFleet.Proofs.Printer.AddressTexts

/-!
Printers at a host and a port. The host and the port are put together with a colon between them and read as
one address. An IPv4 address as the host is reached, whatever the port. An IPv6 address is not, since it has
colons of its own and stands in no brackets: its text is refused, and reached only in brackets.
-/

namespace ReceiptFleet

namespace Printer

-----------------------------------------------------------------------------------------
-- Literals of IP addresses
-----------------------------------------------------------------------------------------

/-- An IP address. One of IPv6 has a scope, which is zero if none is meant. -/
inductive Ip where
  | v4 (a b c d : UInt8)
  | v6 (groups : Vector UInt16 8) (scope : UInt32)

namespace Ip

/-- Whether an IP address is one of IPv4. -/
def isV4 : Ip → Bool
  | v4 _ _ _ _ => true
  | v6 _ _ => false

/-- The address with a port. -/
def withPort (port : UInt16) : Ip → Address
  | v4 a b c d => .v4 a b c d port
  | v6 groups scope => .v6 groups scope port

open Address in
/-- A host is a literal of an IP address if the whole of it is read as that address. -/
inductive Literal (host : List Char) : Ip → Prop
  | v4 {a b c d} (read : v4? host = some ((a.toNat, b.toNat, c.toNat, d.toNat), []))
    : Literal host (.v4 a b c d)
  | v6 {groups scope left} (read : v6? host = some (groups.toList.map UInt16.toNat, left))
    (behind : scope? left = some (scope.toNat, []))
    : Literal host (.v6 groups scope)

end Ip

namespace Address

-----------------------------------------------------------------------------------------
-- Addresses and ports
-----------------------------------------------------------------------------------------

/-- The text of a port behind a colon is read as that port. -/
theorem port?_colon (port : UInt16)
    : port? (':' :: decimal port.toNat) = some (port.toNat, []) := by
  have digits : number? 10 65536 (decimal port.toNat) = some (port.toNat, []) :=
    number?_eq_some_iff.mpr
      ⟨_, (List.append_nil _).symm, digits?_decimal _, UInt16.toNat_lt port, noDigit_nil 10⟩
  rw [port?, char?_eq_some_iff.mpr rfl]
  exact digits

theorem readV4?_of_v4? {host : List Char} {a b c d : UInt8}
    (read : v4? host = some ((a.toNat, b.toNat, c.toNat, d.toNat), [])) (port : UInt16)
    : readV4? (host ++ ':' :: decimal port.toNat) = some (.v4 a b c d port) := by
  obtain ⟨rfl, bytes, -⟩ := v4?_eq_some_iff.mp read
  have front
      : v4? (writeV4 a.toNat b.toNat c.toNat d.toNat ++ [] ++ ':' :: decimal port.toNat)
        = some ((a.toNat, b.toNat, c.toNat, d.toNat), ':' :: decimal port.toNat) := by
    rw [List.append_nil]
    exact v4?_eq_some_iff.mpr ⟨rfl, bytes, noDigit_cons rfl _⟩
  simp only [readV4?, front, port?_colon, Option.bind_eq_bind, Option.bind_some, List.isEmpty_nil,
    if_true, UInt8.ofNat_toNat, UInt16.ofNat_toNat]

theorem readV4?_bracket (s : List Char)
    : readV4? ('[' :: s) = none := by
  rw [readV4?, v4?_of_noDigit (noDigit_cons rfl s)]
  rfl

/-- A scope, or none, is read in front of a closing bracket as it is read alone, and does not go on with an
IPv6 address. -/
theorem scope?_bracket {s : List Char} {scope : Nat} (read : scope? s = some (scope, []))
    (rest : List Char)
    : EndsV6 (s ++ ']' :: rest) ∧ scope? (s ++ ']' :: rest) = some (scope, ']' :: rest) := by
  have bracket : EndsV6 (']' :: rest) := ⟨noDigit_cons rfl _, by simp, by simp⟩
  unfold scope? at read
  split at read
  case h_1 number =>
      obtain ⟨digits, rfl, value, below, -⟩ := number?_eq_some_iff.mp read
      refine ⟨⟨noDigit_cons rfl _, by simp, by simp⟩, ?_⟩
      rw [List.append_nil]
      exact number?_eq_some_iff.mpr ⟨digits, rfl, value, below, noDigit_cons rfl _⟩
  case h_2 =>
      cases read
      exact ⟨bracket, rfl⟩

/-- In brackets and with a port, an IPv6 address is read as it is alone. -/
theorem readV6?_bracketed {host left : List Char} {groups : Vector UInt16 8} {scope : UInt32}
    (read : v6? host = some (groups.toList.map UInt16.toNat, left))
    (behind : scope? left = some (scope.toNat, [])) (port : UInt16)
    : readV6? ('[' :: (host ++ ']' :: ':' :: decimal port.toNat)) = some (.v6 groups scope port) := by
  obtain ⟨text, spelled, rfl⟩ := text_of_v6? read
  obtain ⟨ends, scope_read⟩ := scope?_bracket behind (':' :: decimal port.toNat)
  have opened (more : List Char) : char? '[' ('[' :: more) = some more := rfl
  have closed (more : List Char) : char? ']' (']' :: more) = some more := rfl
  have same : (groups.toList.map UInt16.toNat).map UInt16.ofNat = groups.toList := by
    simp [Function.comp_def]
  simp only [readV6?, opened, closed, List.append_assoc, v6?_append spelled ends, scope_read,
    port?_colon, Option.bind_eq_bind, Option.bind_some, same]
  simp only [Vector.length_toList, true_and, dif_pos, Vector.toArray_toList, UInt32.ofNat_toNat,
    UInt16.ofNat_toNat]

/-- A text with a colon behind digits, if anything, is no address with a port. -/
theorem read_eq_none {digits : List Char} (all : ∀ c ∈ digits, isDigitOf 16 c = true)
    (rest : List Char)
    : readV4? (digits ++ ':' :: rest) = none ∧ readV6? (digits ++ ':' :: rest) = none := by
  constructor
  · rw [readV4?, v4?_eq_none all (noDigit_cons rfl _) (by simp)]
    rfl
  · have unopened : char? '[' (digits ++ ':' :: rest) = none := by
      refine Option.eq_none_iff_forall_ne_some.mpr fun more opened => ?_
      have same := char?_eq_some_iff.mp opened
      cases digits with
      | nil => cases same
      | cons c others =>
          cases same
          have digit := all '[' List.mem_cons_self
          cases digit
    rw [readV6?, unopened]
    rfl

theorem toList_host (host : String) (port : UInt16)
    : (host ++ ":" ++ toString port.toNat).toList = host.toList ++ ':' :: decimal port.toNat := by
  rw [Nat.toString_eq_repr]
  simp [decimal]

theorem read?_of_v4? {host : String} {a b c d : UInt8}
    (read : v4? host.toList = some ((a.toNat, b.toNat, c.toNat, d.toNat), [])) (port : UInt16)
    : read? (host ++ ":" ++ toString port.toNat) = some (.v4 a b c d port) := by
  rw [read?, toList_host, readV4?_of_v4? read]
  rfl

/-- Without brackets, the colons of an IPv6 address keep it from being read in front of a port. -/
theorem read?_of_v6? {host : String} {groups : List Nat} {left : List Char}
    (read : v6? host.toList = some (groups, left)) (port : UInt16)
    : read? (host ++ ":" ++ toString port.toNat) = none := by
  obtain ⟨text, spelled, same⟩ := text_of_v6? read
  obtain ⟨digits, more, rfl, all⟩ := spelled.exists_colon
  have colon
      : host.toList ++ ':' :: decimal port.toNat
        = digits ++ ':' :: (more ++ left ++ ':' :: decimal port.toNat) := by
    rw [same]
    simp
  obtain ⟨no_v4, no_v6⟩ := read_eq_none all (more ++ left ++ ':' :: decimal port.toNat)
  rw [read?, toList_host, colon, no_v4, no_v6]
  rfl

theorem read?_bracketed {host : String} {left : List Char} {groups : Vector UInt16 8}
    {scope : UInt32} (read : v6? host.toList = some (groups.toList.map UInt16.toNat, left))
    (behind : scope? left = some (scope.toNat, [])) (port : UInt16)
    : read? ("[" ++ host ++ "]" ++ ":" ++ toString port.toNat) = some (.v6 groups scope port) := by
  have shape
      : ("[" ++ host ++ "]" ++ ":" ++ toString port.toNat).toList
        = '[' :: (host.toList ++ ']' :: ':' :: decimal port.toNat) := by
    rw [toList_host]
    simp
  rw [read?, shape, readV4?_bracket, readV6?_bracketed read behind, Option.none_or]

/-- A scope is written behind an IPv6 address, unless it is zero, and is read back. -/
theorem exists_scope_text (ip : List Char) (scope : UInt32)
    : ∃ left,
        (if scope = 0 then ip else ip ++ '%' :: decimal scope.toNat) = ip ++ left
        ∧ EndsV6 left
        ∧ scope? left = some (scope.toNat, []) := by
  split
  case isTrue none =>
      subst none
      exact ⟨[], (List.append_nil ip).symm, ⟨noDigit_nil 16, nofun, nofun⟩, rfl⟩
  case isFalse =>
      have read : number? 10 4294967296 (decimal scope.toNat) = some (scope.toNat, []) :=
        number?_eq_some_iff.mpr
          ⟨_, (List.append_nil _).symm, digits?_decimal _, scope.toNat_lt, noDigit_nil 10⟩
      exact ⟨_, rfl, ⟨noDigit_cons rfl _, by simp, by simp⟩, read⟩

/-- The text of an address is read as that address. -/
theorem read?_text (address : Address)
    : read? address.text = some address := by
  rw [read?, text, String.toList_ofList]
  cases address with
  | v4 a b c d port =>
      have literal
          : v4? (writeV4 a.toNat b.toNat c.toNat d.toNat)
            = some ((a.toNat, b.toNat, c.toNat, d.toNat), []) :=
        v4?_eq_some_iff.mpr ⟨(List.append_nil _).symm,
          ⟨a.toNat_lt, b.toNat_lt, c.toNat_lt, d.toNat_lt⟩, noDigit_nil 10⟩
      rw [write, readV4?_of_v4? literal]
      rfl
  | v6 groups scope port =>
      have below : ∀ g ∈ groups.toList.map UInt16.toNat, g < 65536 := by
        intro g member
        obtain ⟨group, -, rfl⟩ := List.mem_map.mp member
        exact group.toNat_lt
      have spelled := v6Text_writeV6 (by simp) below
      obtain ⟨left, scoped_text, ends, behind⟩ :=
        exists_scope_text (writeV6 (groups.toList.map UInt16.toNat)) scope
      have bracketed := readV6?_bracketed (v6?_append spelled ends) behind port
      simp only [write, scoped_text, List.cons_append] at bracketed ⊢
      rw [readV4?_bracket, bracketed, Option.none_or]

end Address

end Printer

namespace NetworkPrinter

open Printer Printer.Address

-----------------------------------------------------------------------------------------
-- Printers
-----------------------------------------------------------------------------------------

/-- A printer is made for the address that host and port are read as, and it is named after that address. -/
theorem ofHost_of_read {host : String} {port : UInt16} {address : Address}
    (read : Address.read? (host ++ ":" ++ toString port.toNat) = some address)
    : ofHost host port = .ok { name := address.text, address := address } := by
  rw [ofHost, ofAddress, read]

/-- A printer can be made at every address: from the text of that address, which is its name then. -/
theorem ofAddress_text (address : Address)
    : ofAddress address.text = .ok { name := address.text, address := address } := by
  rw [ofAddress, read?_text]

/-- From an IPv4 literal and any port a printer at that address is made. From an IPv6 literal, however it is
spelled, none is made: the literal and the port are refused together. In brackets the literal would do. -/
theorem ofHost_reaches_iff {host : String} {ip : Ip} (literal : ip.Literal host.toList)
    (port : UInt16)
    : ((∃ p, ofHost host port = .ok p ∧ p.address = ip.withPort port) ↔ ip.isV4 = true)
      ∧ (ip.isV4 = false →
          ofHost host port
              = .error (.invalidConfig ("Invalid address: " ++ (host ++ ":" ++ toString port.toNat)))
            ∧ ∃ p, ofHost ("[" ++ host ++ "]") port = .ok p ∧ p.address = ip.withPort port) := by
  cases literal with
  | v4 read =>
      exact ⟨iff_of_true ⟨_, ofHost_of_read (read?_of_v4? read port), rfl⟩ rfl, nofun⟩
  | v6 read behind =>
      have refused
          : ofHost host port
            = .error (.invalidConfig ("Invalid address: " ++ (host ++ ":" ++ toString port.toNat))) := by
        rw [ofHost, ofAddress, read?_of_v6? read]
      have bracketed := ofHost_of_read (read?_bracketed read behind port)
      refine ⟨iff_of_false ?_ nofun, fun _ => ⟨refused, _, bracketed, rfl⟩⟩
      rintro ⟨p, made, -⟩
      rw [refused] at made
      cases made

/-- Witness: an IPv4 address, and an IPv6 address with zero groups left out, an IPv4 address for the last two
and a scope. -/
theorem ofHost_reaches_v4_only
    : let lan := Ip.v4 192 168 1 100
      let linkLocal := Ip.v6 #v[0xFE80, 0, 0, 0, 0, 0, 0xC0A8, 0x0164] 3
      (lan.Literal "192.168.1.100".toList ∧ linkLocal.Literal "fe80::192.168.1.100%3".toList)
      ∧ (∃ p, ofHost "192.168.1.100" 9100 = .ok p ∧ p.address = lan.withPort 9100)
      ∧ (¬ ∃ p, ofHost "fe80::192.168.1.100%3" 9100 = .ok p ∧ p.address = linkLocal.withPort 9100)
      ∧ ∃ p, ofHost "[fe80::192.168.1.100%3]" 9100 = .ok p ∧ p.address = linkLocal.withPort 9100 := by
  intro lan linkLocal
  have lan_literal : lan.Literal "192.168.1.100".toList := .v4 rfl
  have linkLocal_literal : linkLocal.Literal "fe80::192.168.1.100%3".toList := .v6 rfl rfl
  have lan_reached := ofHost_reaches_iff lan_literal 9100
  have linkLocal_refused := ofHost_reaches_iff linkLocal_literal 9100
  refine ⟨⟨lan_literal, linkLocal_literal⟩, lan_reached.1.mpr rfl, ?_, (linkLocal_refused.2 rfl).2⟩
  exact fun reached => Bool.false_ne_true (linkLocal_refused.1.mp reached)

/-- The loopback address of IPv6 is a literal from which no printer is made, though one can be made at that
address. -/
theorem ofHost_refuses_loopback
    : let loopback := Ip.v6 #v[0, 0, 0, 0, 0, 0, 0, 1] 0
      loopback.Literal "::1".toList
      ∧ ofHost "::1" 80 = .error (.invalidConfig "Invalid address: ::1:80")
      ∧ ∃ p, ofAddress "[::1]:80" = .ok p ∧ p.address = loopback.withPort 80 :=
  ⟨.v6 rfl rfl, rfl, _, rfl, rfl⟩

end NetworkPrinter

end ReceiptFleet
