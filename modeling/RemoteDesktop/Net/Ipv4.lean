import RemoteDesktop.Text.Numeral
import RemoteDesktop.Text.Split

/-!
# IPv4 addresses

Four octets, written in decimal with points between them. A reader refuses octets with leading zeros.
-/

namespace RemoteDesktop.Net

/-- An IPv4 address. -/
structure Ipv4 where
  a : UInt8
  b : UInt8
  c : UInt8
  d : UInt8
  deriving DecidableEq, Repr

/-- How an octet of an IPv4 address is written. -/
def octetRule : Text.Numeral.Rule := ⟨10, some 3, false, 256⟩

/-- The octet at the front of a text, and what follows. -/
def readOctet? (text : List Char) : Option (UInt8 × List Char) :=
  (octetRule.read? text).map fun (n, rest) => (UInt8.ofNat n, rest)

/-- What follows an expected character. -/
def expect? (c : Char) : List Char → Option (List Char)
  | [] => none
  | first :: rest => if first = c then some rest else none

namespace Ipv4

/-- The text of an address. -/
def write (ip : Ipv4) : List Char :=
  Text.joinWith '.' ([ip.a, ip.b, ip.c, ip.d].map fun octet => Text.Numeral.write 10 octet.toNat)

/-- The address at the front of a text, and what follows. -/
def read? (text : List Char) : Option (Ipv4 × List Char) := do
  let (a, text) ← readOctet? text
  let (b, text) ← readOctet? (← expect? '.' text)
  let (c, text) ← readOctet? (← expect? '.' text)
  let (d, text) ← readOctet? (← expect? '.' text)
  some (⟨a, b, c, d⟩, text)

/-- The two IPv6 groups that hold the address. -/
def groups (ip : Ipv4) : List UInt16 :=
  [UInt16.ofNat (256 * ip.a.toNat + ip.b.toNat), UInt16.ofNat (256 * ip.c.toNat + ip.d.toNat)]

/-- The address that two IPv6 groups hold. -/
def ofGroups (high low : UInt16) : Ipv4 :=
  ⟨UInt8.ofNat (high.toNat / 256), UInt8.ofNat (high.toNat % 256),
    UInt8.ofNat (low.toNat / 256), UInt8.ofNat (low.toNat % 256)⟩

end Ipv4

/-! ### Reading what is written -/

theorem octetRule_fits : octetRule.Fits :=
  ⟨by decide, by decide, fun k hk => by obtain rfl := Option.mem_some.1 hk; decide⟩

theorem readOctet?_write (octet : UInt8) {rest : List Char} (h : Text.Numeral.run 10 rest = []) :
    readOctet? (Text.Numeral.write 10 octet.toNat ++ rest) = some (octet, rest) := by
  have := Text.Numeral.Rule.read?_write octetRule_fits octet.toNat_lt h
  rw [readOctet?]
  change (octetRule.read? (Text.Numeral.write octetRule.base octet.toNat ++ rest)).map _ = _
  rw [this]
  simp

theorem expect?_cons (c : Char) (rest : List Char) : expect? c (c :: rest) = some rest := by
  simp [expect?]

/-- A point ends a run of digits. -/
theorem run_point (rest : List Char) : Text.Numeral.run 10 ('.' :: rest) = [] := by
  simp [Text.Numeral.run, Text.Numeral.isDigit, Text.Numeral.digitValue?, Bytes.hexValue?]

/-- A written address is read back, and what follows is left if it does not begin with a digit. -/
theorem Ipv4.read?_write (ip : Ipv4) {rest : List Char} (h : Text.Numeral.run 10 rest = []) :
    Ipv4.read? (ip.write ++ rest) = some (ip, rest) := by
  simp only [read?, write, List.map_cons, List.map_nil, Text.joinWith, List.append_assoc,
    List.cons_append, readOctet?_write _ (run_point _), readOctet?_write _ h, expect?_cons,
    Option.bind_eq_bind, Option.bind_some]

end RemoteDesktop.Net
