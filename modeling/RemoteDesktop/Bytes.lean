import RemoteDesktop.Checked

/-!
# Byte strings

Pixels, payloads and digests are `ByteArray`s. Their view for reasoning is `bytes.data.toList`; each
operation below says in one lemma what it does to that view. The module also holds the two
hexadecimal texts of a byte string.
-/

namespace RemoteDesktop

namespace Bytes

/-- Byte strings are compared byte by byte. -/
instance (priority := 2000) decidableEq : DecidableEq ByteArray := ByteArray.decEq

/-- The bytes of a list, in order. -/
def ofList (bytes : List UInt8) : ByteArray := ⟨bytes.toArray⟩

@[simp] theorem toList_ofList (bytes : List UInt8) : (ofList bytes).data.toList = bytes := by
  simp [ofList]

/-- The string of `n` bytes whose `i`-th byte is `byte i`. -/
def generate (n : Nat) (byte : Nat → UInt8) : ByteArray :=
  n.fold (fun i _ out => out.push (byte i)) (ByteArray.emptyWithCapacity n)

theorem toList_fold_push (byte : Nat → UInt8) (start : ByteArray) (n : Nat) :
    (n.fold (fun i _ out => out.push (byte i)) start).data.toList
      = start.data.toList ++ (List.range n).map byte := by
  induction n with
  | zero => simp
  | succ n ih =>
    rw [Nat.fold_succ, ByteArray.data_push, Array.toList_push, ih, List.range_succ, List.map_append,
      List.append_assoc]
    rfl

@[simp] theorem toList_generate (n : Nat) (byte : Nat → UInt8) :
    (generate n byte).data.toList = (List.range n).map byte := by
  have h : (ByteArray.emptyWithCapacity n).data.toList = [] := rfl
  rw [generate, toList_fold_push, h, List.nil_append]

/-- A string of `n` zero bytes. -/
def zeros (n : Nat) : ByteArray := generate n fun _ => 0

@[simp] theorem toList_zeros (n : Nat) : (zeros n).data.toList = List.replicate n 0 := by
  rw [zeros, toList_generate]
  exact List.ext_getElem (by simp) (by simp)

/-- The `length` bytes that start at `start`. -/
def slice (bytes : ByteArray) (start length : Nat) : Checked ByteArray :=
  if start + length ≤ bytes.size then .ok (bytes.extract start (start + length))
  else .error .outOfBounds

theorem slice_of_le {bytes : ByteArray} {start length : Nat} (h : start + length ≤ bytes.size) :
    slice bytes start length = .ok (bytes.extract start (start + length)) := if_pos h

/-- The byte at position `i`; positions beyond the end count as zero. -/
def byteAt (bytes : ByteArray) (i : Nat) : UInt8 := if h : i < bytes.size then bytes[i] else 0

/-- Whether `a` and `b` agree on the `length` bytes from `start` on. -/
def agreeOn (a b : ByteArray) (start : Nat) : (length : Nat) → Bool
  | 0 => true
  | length + 1 => if byteAt a start == byteAt b start then agreeOn a b (start + 1) length else false

theorem agreeOn_eq_true_iff (a b : ByteArray) (start length : Nat) :
    agreeOn a b start length = true ↔ ∀ i < length, byteAt a (start + i) = byteAt b (start + i) := by
  induction length generalizing start with
  | zero => simp [agreeOn]
  | succ length ih =>
    rw [agreeOn]
    split
    next h =>
      rw [ih]
      constructor
      · intro hrest i hi
        cases i with
        | zero => simpa using h
        | succ i =>
          have := hrest i (by omega)
          rwa [Nat.add_assoc, Nat.add_comm 1 i] at this
      · intro hall i hi
        have := hall (i + 1) (by omega)
        rwa [Nat.add_assoc, Nat.add_comm 1 i]
    next h =>
      refine iff_of_false (by simp) fun hall => h ?_
      simpa using hall 0 (by omega)

/-- The hexadecimal digit of a value below 16, from the given alphabet of sixteen digits. -/
def hexDigit (upper : Bool) (n : Nat) : Char :=
  if n < 10 then Char.ofNat (48 + n) else Char.ofNat ((if upper then 55 else 87) + n)

/-- Two digits for one byte. -/
def hexByte (upper : Bool) (b : UInt8) : List Char :=
  [hexDigit upper (b.toNat / 16), hexDigit upper (b.toNat % 16)]

/-- The hexadecimal text of a byte string, in capital digits if `upper`. -/
def toHex (upper : Bool) (bytes : List UInt8) : String :=
  String.ofList (bytes.flatMap (hexByte upper))

/-- The value of a hexadecimal digit of either case. -/
def hexValue? (c : Char) : Option Nat :=
  if '0' ≤ c ∧ c ≤ '9' then some (c.toNat - 48)
  else if 'a' ≤ c ∧ c ≤ 'f' then some (c.toNat - 87)
  else if 'A' ≤ c ∧ c ≤ 'F' then some (c.toNat - 55)
  else none

/-- The bytes written by a text of hexadecimal digits, two digits a byte. -/
def ofHex? : List Char → Option (List UInt8)
  | [] => some []
  | [_] => none
  | high :: low :: rest => do
    let h ← hexValue? high
    let l ← hexValue? low
    let bytes ← ofHex? rest
    some (UInt8.ofNat (16 * h + l) :: bytes)

/-- The number a string of bytes writes, most significant byte first. -/
def beNat (bytes : List UInt8) : Nat := bytes.foldl (fun n b => 256 * n + b.toNat) 0

/-- The number a string of bytes writes, least significant byte first. -/
def leNat : List UInt8 → Nat
  | [] => 0
  | b :: bytes => b.toNat + 256 * leNat bytes

/-- `n` in `width` bytes, least significant byte first. -/
def leBytes : (width n : Nat) → List UInt8
  | 0, _ => []
  | width + 1, n => UInt8.ofNat (n % 256) :: leBytes width (n / 256)

/-- `n` in `width` bytes, most significant byte first. -/
def beBytes (width n : Nat) : List UInt8 := (leBytes width n).reverse

@[simp] theorem length_leBytes (width n : Nat) : (leBytes width n).length = width := by
  induction width generalizing n with
  | zero => rfl
  | succ width ih => simp [leBytes, ih]

end Bytes

end RemoteDesktop
