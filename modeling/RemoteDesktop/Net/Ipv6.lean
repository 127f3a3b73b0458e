import RemoteDesktop.Net.Ipv4

/-!
# IPv6 addresses

Eight groups of sixteen bits, written in hexadecimal with colons between them. The longest run of zero
groups, if it has at least two, is written as two colons; an address that holds an IPv4 address is
written with that address at its end. A reader takes any run of zeros as two colons, at most once, and
an IPv4 address in place of the last two groups.
-/

namespace RemoteDesktop.Net

/-- An IPv6 address. -/
structure Ipv6 where
  groups : List UInt16
  length_groups : groups.length = 8
  deriving DecidableEq

/-- How a group of an IPv6 address is written. -/
def groupRule : Text.Numeral.Rule := ⟨16, some 4, true, 0x1_0000⟩

/-- The group at the front of a text, and what follows. -/
def readGroup? (text : List Char) : Option (UInt16 × List Char) :=
  (groupRule.read? text).map fun (n, rest) => (UInt16.ofNat n, rest)

theorem groupRule_fits : groupRule.Fits :=
  ⟨by decide, by decide, fun k hk => by obtain rfl := Option.mem_some.1 hk; decide⟩

theorem readGroup?_write (group : UInt16) {rest : List Char} (h : Text.Numeral.run 16 rest = []) :
    readGroup? (Text.Numeral.write 16 group.toNat ++ rest) = some (group, rest) := by
  have := Text.Numeral.Rule.read?_write groupRule_fits group.toNat_lt h
  rw [readGroup?]
  change (groupRule.read? (Text.Numeral.write groupRule.base group.toNat ++ rest)).map _ = _
  rw [this]
  simp

namespace Ipv6

/-! ### Writing -/

/-- Groups with colons between them. -/
def writeGroups (groups : List UInt16) : List Char :=
  Text.joinWith ':' (groups.map fun g => Text.Numeral.write 16 g.toNat)

/-- The number of zero groups from position `start` on. -/
def zerosFrom (groups : List UInt16) (start : Nat) : Nat :=
  ((groups.drop start).takeWhile (· == 0)).length

/-- Where the first of the longest runs of zero groups starts, and its length. -/
def longestZeros (groups : List UInt16) : Nat × Nat :=
  (List.range groups.length).foldl
    (fun best start => if best.2 < zerosFrom groups start then (start, zerosFrom groups start) else best)
    (0, 0)

/-- The IPv4 address that the address holds, if it is one that holds one. -/
def ipv4? (ip : Ipv6) : Option Ipv4 :=
  match ip.groups with
  | [0, 0, 0, 0, 0, 0xffff, high, low] => some (Ipv4.ofGroups high low)
  | _ => none

/-- The text of an address. -/
def write (ip : Ipv6) : List Char :=
  match ip.ipv4? with
  | some v4 => "::ffff:".toList ++ v4.write
  | none =>
    let (start, length) := longestZeros ip.groups
    if 1 < length then
      writeGroups (ip.groups.take start) ++ "::".toList ++ writeGroups (ip.groups.drop (start + length))
    else writeGroups ip.groups

/-! ### Reading -/

/-- What was read of a series of groups. -/
structure Series where
  groups : List UInt16
  /-- The last two groups were read from an IPv4 address. -/
  endsInIpv4 : Bool
  rest : List Char

/-- The text of the next group of a series: a colon comes first, except before the first group. -/
def nextGroup? (isFirst : Bool) (text : List Char) : Option (List Char) :=
  if isFirst then some text else expect? ':' text

/-- The groups at the front of a text, at most `limit`. An IPv4 address ends the series; it is read
wherever there is room for two groups. -/
def readSeries (isFirst : Bool) : (limit : Nat) → List Char → Series
  | 0, text => ⟨[], false, text⟩
  | limit + 1, text =>
    match nextGroup? isFirst text with
    | none => ⟨[], false, text⟩
    | some start =>
      match if 1 ≤ limit then Ipv4.read? start else none with
      | some (v4, rest) => ⟨v4.groups, true, rest⟩
      | none =>
        match readGroup? start with
        | none => ⟨[], false, text⟩
        | some (group, rest) =>
          let series := readSeries false limit rest
          { series with groups := group :: series.groups }

theorem length_readSeries_le (isFirst : Bool) (limit : Nat) (text : List Char) :
    (readSeries isFirst limit text).groups.length ≤ limit := by
  induction limit generalizing isFirst text with
  | zero => simp [readSeries]
  | succ limit ih =>
    rw [readSeries]
    split
    · simp
    · split
      next h =>
        split at h
        · simp [Ipv4.groups]; omega
        · cases h
      next =>
        split
        · simp
        · simpa using ih _ _

/-- The address with the given groups at its front and at its end, and zeros between them. -/
def ofEnds (front back : List UInt16) (h : front.length + back.length ≤ 8) : Ipv6 :=
  ⟨front ++ List.replicate (8 - front.length - back.length) 0 ++ back, by
    simp only [List.length_append, List.length_replicate]; omega⟩

/-- The address at the front of a text, and what follows. The two colons stand for at least one zero
group, and no IPv4 address comes before them. -/
def read? (text : List Char) : Option (Ipv6 × List Char) :=
  let front := readSeries true 8 text
  if full : front.groups.length = 8 then some (⟨front.groups, full⟩, front.rest)
  else if front.endsInIpv4 then none
  else do
    let text ← expect? ':' front.rest
    let text ← expect? ':' text
    let limit := 8 - (front.groups.length + 1)
    let back := readSeries true limit text
    let enough : front.groups.length + back.groups.length ≤ 8 := by
      have : front.groups.length ≤ 8 := length_readSeries_le _ _ _
      have : back.groups.length ≤ limit := length_readSeries_le _ _ _
      omega
    some (ofEnds front.groups back.groups enough, back.rest)

end Ipv6

end RemoteDesktop.Net
