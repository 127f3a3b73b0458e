import RemoteDesktop.Net.Ipv6

/-!
# Socket addresses

An IP address and a port. The text of an IPv6 address stands in brackets, which also hold its scope if
that is not zero. A reader takes the whole text.
-/

namespace RemoteDesktop.Net

/-- An IP address and a port. -/
inductive SocketAddress where
  | v4 (ip : Ipv4) (port : UInt16)
  | v6 (ip : Ipv6) (scope : UInt32) (port : UInt16)
  deriving DecidableEq

/-- How a port is written. -/
def portRule : Text.Numeral.Rule := ⟨10, none, true, 0x1_0000⟩

/-- How a scope is written. -/
def scopeRule : Text.Numeral.Rule := ⟨10, none, true, 0x1_0000_0000⟩

/-- The port after a colon at the front of a text, and what follows. -/
def readPort? (text : List Char) : Option (UInt16 × List Char) := do
  let (port, rest) ← portRule.read? (← expect? ':' text)
  some (UInt16.ofNat port, rest)

/-- The scope at the front of a text, zero if there is none, and what follows. -/
def readScope (text : List Char) : UInt32 × List Char :=
  match (expect? '%' text).bind scopeRule.read? with
  | some (scope, rest) => (UInt32.ofNat scope, rest)
  | none => (0, text)

namespace SocketAddress

def port : SocketAddress → UInt16
  | v4 _ port => port
  | v6 _ _ port => port

/-- The same address with another port. -/
def withPort (port : UInt16) : SocketAddress → SocketAddress
  | v4 ip _ => v4 ip port
  | v6 ip scope _ => v6 ip scope port

def isV6 : SocketAddress → Bool
  | v4 .. => false
  | v6 .. => true

/-- The text of an address. -/
def write : SocketAddress → List Char
  | v4 ip port => ip.write ++ ':' :: Text.Numeral.write 10 port.toNat
  | v6 ip scope port =>
    let scopeText := if scope = 0 then [] else '%' :: Text.Numeral.write 10 scope.toNat
    '[' :: ip.write ++ scopeText ++ "]:".toList ++ Text.Numeral.write 10 port.toNat

/-- The address with an IPv4 address at the front of a text, and what follows. -/
def readV4? (text : List Char) : Option (SocketAddress × List Char) := do
  let (ip, text) ← Ipv4.read? text
  let (port, text) ← readPort? text
  some (v4 ip port, text)

/-- The address with an IPv6 address at the front of a text, and what follows. -/
def readV6? (text : List Char) : Option (SocketAddress × List Char) := do
  let (ip, text) ← Ipv6.read? (← expect? '[' text)
  let (scope, text) := readScope text
  let (port, text) ← readPort? (← expect? ']' text)
  some (v6 ip scope port, text)

/-- The address that a text writes. -/
def ofText? (text : List Char) : Option SocketAddress :=
  match (readV4? text).or (readV6? text) with
  | some (address, []) => some address
  | _ => none

/-- A written IPv4 address and port are read back. -/
theorem ofText?_write_v4 (ip : Ipv4) (port : UInt16) :
    ofText? (v4 ip port).write = some (v4 ip port) := by
  have colon (rest : List Char) : Text.Numeral.run 10 (':' :: rest) = [] := by
    simp [Text.Numeral.run, Text.Numeral.isDigit, Text.Numeral.digitValue?, Bytes.hexValue?]
  have fits : portRule.Fits := ⟨by decide, by decide, fun k hk => by cases hk⟩
  have number := Text.Numeral.Rule.read?_write fits port.toNat_lt (List.takeWhile_nil)
  rw [List.append_nil] at number
  have hport : readPort? (':' :: Text.Numeral.write 10 port.toNat) = some (port, []) := by
    rw [readPort?, expect?_cons]
    change ((portRule.read? (Text.Numeral.write portRule.base port.toNat)).bind _) = _
    rw [number]
    simp
  simp only [ofText?, readV4?, write, Ipv4.read?_write ip (colon _), hport, Option.bind_eq_bind,
    Option.bind_some, Option.or]

end SocketAddress

end RemoteDesktop.Net
