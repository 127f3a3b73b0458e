import RemoteDesktop.Bytes

/-!
# Integers on the wire

An unsigned integer below 251 is one byte. Larger ones follow a byte that says how many bytes they
take: 251 announces two, 252 four, 253 eight, all least significant first. The writer takes the shortest
form (`encode`); a reader accepts the longer ones too.
-/

namespace RemoteDesktop.Wire.Integer

/-- The shortest form of an integer below `2 ^ 64`. -/
def encode (n : Nat) : List UInt8 :=
  if n < 251 then [UInt8.ofNat n]
  else if n < 0x1_0000 then 251 :: Bytes.leBytes 2 n
  else if n < 0x1_0000_0000 then 252 :: Bytes.leBytes 4 n
  else 253 :: Bytes.leBytes 8 n

/-- What the first byte of an integer announces. -/
inductive Announced where
  /-- The byte is the integer. -/
  | value (n : Nat)
  /-- The integer takes so many further bytes. -/
  | wide (bytes : Nat)
  /-- A sixteen-byte integer, which no message holds. -/
  | tooWide
  /-- A byte that is kept for extensions. -/
  | extension
  deriving DecidableEq, Repr

/-- What a first byte announces. -/
def announced (first : UInt8) : Announced :=
  if first < 251 then .value first.toNat
  else if first = 251 then .wide 2
  else if first = 252 then .wide 4
  else if first = 253 then .wide 8
  else if first = 254 then .tooWide
  else .extension

/-- An integer takes one to nine bytes. -/
theorem length_encode (n : Nat) : 1 ≤ (encode n).length ∧ (encode n).length ≤ 9 := by
  unfold encode
  repeat' split
  all_goals simp

end RemoteDesktop.Wire.Integer
