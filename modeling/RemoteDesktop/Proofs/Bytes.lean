import Mathlib.Algebra.Ring.Nat
import RemoteDesktop.Bytes

/-!
# Bytes at positions

What joining and cutting byte strings does to the byte at a position (`byteAt`), and to the list of
bytes.
-/

namespace RemoteDesktop.Bytes

theorem byteAt_of_lt {bytes : ByteArray} {i : Nat} (h : i < bytes.size) : byteAt bytes i = bytes[i] :=
  dif_pos h

theorem byteAt_of_ge {bytes : ByteArray} {i : Nat} (h : bytes.size ≤ i) : byteAt bytes i = 0 :=
  dif_neg (Nat.not_lt.2 h)

theorem byteAt_append_left {a b : ByteArray} {i : Nat} (h : i < a.size) :
    byteAt (a ++ b) i = byteAt a i := by
  rw [byteAt_of_lt h, byteAt_of_lt (by rw [ByteArray.size_append]; omega)]
  exact ByteArray.getElem_append_left h

theorem byteAt_append_right {a b : ByteArray} {i : Nat} (h : a.size ≤ i) :
    byteAt (a ++ b) i = byteAt b (i - a.size) := by
  by_cases hi : i < (a ++ b).size
  · have hb : i - a.size < b.size := by rw [ByteArray.size_append] at hi; omega
    rw [byteAt_of_lt hi, byteAt_of_lt hb]
    exact ByteArray.getElem_append_right h
  · have hb : b.size ≤ i - a.size := by rw [ByteArray.size_append] at hi; omega
    rw [byteAt_of_ge (Nat.not_lt.1 hi), byteAt_of_ge hb]

theorem byteAt_extract {bytes : ByteArray} {start stop i : Nat} (h : start + i < stop) :
    byteAt (bytes.extract start stop) i = byteAt bytes (start + i) := by
  by_cases hi : start + i < bytes.size
  · have he : i < (bytes.extract start stop).size := by rw [ByteArray.size_extract]; omega
    rw [byteAt_of_lt hi, byteAt_of_lt he]
    exact ByteArray.getElem_extract he
  · have he : (bytes.extract start stop).size ≤ i := by rw [ByteArray.size_extract]; omega
    rw [byteAt_of_ge (Nat.not_lt.1 hi), byteAt_of_ge he]

/-- Buffers of one length with the same byte at every position are the same. -/
theorem ext_byteAt {a b : ByteArray} (hsize : a.size = b.size) (h : ∀ i < a.size, byteAt a i = byteAt b i) : a = b := by
  refine ByteArray.ext_getElem hsize fun i hi hi' => ?_
  rw [← byteAt_of_lt hi, ← byteAt_of_lt hi']
  exact h i hi

/-- A stretch depends on the length of its buffer and on its own bytes only. -/
theorem slice_congr {a b : ByteArray} {start length : Nat} (hsize : a.size = b.size)
    (h : ∀ i < length, byteAt a (start + i) = byteAt b (start + i)) : slice a start length = slice b start length := by
  rw [slice, slice, ← hsize]
  split
  next hle =>
    congr 1
    refine ext_byteAt (by rw [ByteArray.size_extract, ByteArray.size_extract, hsize]) fun i hi => ?_
    rw [ByteArray.size_extract] at hi
    rw [byteAt_extract (by omega), byteAt_extract (by omega)]
    exact h i (by omega)
  next => rfl

theorem agreeOn_congr {a a' b b' : ByteArray} {start length : Nat}
    (ha : ∀ i < length, byteAt a (start + i) = byteAt a' (start + i))
    (hb : ∀ i < length, byteAt b (start + i) = byteAt b' (start + i)) :
    agreeOn a b start length = agreeOn a' b' start length := by
  rw [Bool.eq_iff_iff, agreeOn_eq_true_iff, agreeOn_eq_true_iff]
  refine forall_congr' fun i => forall_congr' fun hi => ?_
  rw [ha i hi, hb i hi]

@[simp] theorem size_zeros (n : Nat) : (zeros n).size = n := by
  rw [← ByteArray.size_data, ← Array.length_toList, toList_zeros, List.length_replicate]

theorem ext_toList {a b : ByteArray} (h : a.data.toList = b.data.toList) : a = b :=
  ByteArray.ext (Array.toList_inj.1 h)

theorem length_toList (bytes : ByteArray) : bytes.data.toList.length = bytes.size := by
  rw [Array.length_toList, ByteArray.size_data]

@[simp] theorem size_generate (n : Nat) (byte : Nat → UInt8) : (generate n byte).size = n := by
  rw [← length_toList, toList_generate, List.length_map, List.length_range]

theorem byteAt_generate {n i : Nat} (byte : Nat → UInt8) (h : i < n) : byteAt (generate n byte) i = byte i := by
  have hsize : i < (generate n byte).size := by rwa [size_generate]
  calc byteAt (generate n byte) i = (generate n byte).data.toList.get ⟨i, by rwa [length_toList]⟩ := byteAt_of_lt hsize
    _ = byte i := by simp

@[simp] theorem size_ofList (bytes : List UInt8) : (ofList bytes).size = bytes.length := by
  rw [← length_toList, toList_ofList]

@[simp] theorem length_beBytes (width n : Nat) : (beBytes width n).length = width := by
  rw [beBytes, List.length_reverse, length_leBytes]

/-- Both list views of a byte string agree. -/
theorem toList_eq (bytes : ByteArray) : bytes.toList = bytes.data.toList := by
  have loop_eq (n i : Nat) (out : List UInt8) (hn : bytes.size - i = n) :
      ByteArray.toList.loop bytes i out = out.reverse ++ bytes.data.toList.drop i := by
    induction n generalizing i out with
    | zero =>
      rw [ByteArray.toList.loop, if_neg (by omega), List.drop_of_length_le (by rw [length_toList]; omega),
        List.append_nil]
    | succ n ih =>
      have hi : i < bytes.data.toList.length := by rw [length_toList]; omega
      rw [ByteArray.toList.loop, if_pos (by omega), ih (i + 1) _ (by omega), List.drop_eq_getElem_cons hi,
        List.reverse_cons, List.append_assoc, List.singleton_append]
      congr 2
      show bytes.data[i]! = _
      rw [getElem!_pos bytes.data i (by simpa using hi), Array.getElem_toList]
  rw [ByteArray.toList, loop_eq bytes.size 0 [] rfl, List.reverse_nil, List.nil_append, List.drop_zero]

theorem toList_extract (bytes : ByteArray) (start stop : Nat) :
    (bytes.extract start stop).data.toList = (bytes.data.toList.drop start).take (stop - start) := by
  rw [ByteArray.data_extract, Array.toList_extract, List.extract_eq_take_drop]

theorem toList_extract_size (bytes : ByteArray) (start : Nat) :
    (bytes.extract start bytes.size).data.toList = bytes.data.toList.drop start := by
  rw [toList_extract, List.take_of_length_le (Nat.le_of_eq (by rw [List.length_drop, length_toList]))]

theorem extract_zero_of_le {bytes : ByteArray} {stop : Nat} (h : bytes.size ≤ stop) : bytes.extract 0 stop = bytes := by
  rw [← Nat.max_eq_left h]
  exact ByteArray.extract_zero_max_size

/-- A stretch and what comes after it. -/
theorem extract_append_extract_size {bytes : ByteArray} {start stop : Nat} (h : start ≤ stop) :
    bytes.extract start stop ++ bytes.extract stop bytes.size = bytes.extract start bytes.size := by
  apply ext_toList
  rw [ByteArray.toList_data_append, toList_extract_size, toList_extract_size, toList_extract,
    show stop = start + (stop - start) by omega, ← List.drop_drop, Nat.add_sub_cancel_left, List.take_append_drop]

theorem extract_append_of_le {a b : ByteArray} {start stop : Nat} (h : stop ≤ a.size) :
    (a ++ b).extract start stop = a.extract start stop := by
  apply ext_toList
  rw [toList_extract, toList_extract, ByteArray.toList_data_append, List.drop_append, List.take_append_of_le_length]
  rw [List.length_drop, length_toList]
  omega

theorem extract_append_size {a b : ByteArray} : (a ++ b).extract a.size (a ++ b).size = b := by
  apply ext_toList
  rw [toList_extract_size, ByteArray.toList_data_append, List.drop_left' (length_toList a)]

/-- A text is read back from its bytes. -/
theorem fromUTF8?_toUTF8 (s : String) : String.fromUTF8? s.toUTF8 = some s := by
  exact dif_pos s.isValidUTF8

/-- The bytes of a text are those it was read from. -/
theorem toUTF8_of_fromUTF8? {bytes : ByteArray} {s : String} (h : String.fromUTF8? bytes = some s) : s.toUTF8 = bytes := by
  unfold String.fromUTF8? at h
  split at h
  · cases h
    rfl
  · cases h

/-! ### Numbers -/

theorem leNat_reverse (bytes : List UInt8) : leNat bytes.reverse = beNat bytes := by
  have leNat_eq (bytes : List UInt8) : leNat bytes = bytes.foldr (fun b n => 256 * n + b.toNat) 0 := by
    induction bytes with
    | nil => rfl
    | cons b bytes ih => rw [leNat, ih, List.foldr_cons, Nat.add_comm]
  rw [leNat_eq, List.foldr_reverse, beNat]

/-- Reading back what was written, for numbers that fit. -/
theorem leNat_leBytes {width n : Nat} (h : n < 256 ^ width) : leNat (leBytes width n) = n := by
  induction width generalizing n with
  | zero =>
    rw [leBytes, leNat]
    omega
  | succ width ih =>
    rw [leBytes, leNat, ih (by rw [Nat.pow_succ] at h; omega), UInt8.toNat_ofNat']
    omega

theorem leNat_lt (bytes : List UInt8) : leNat bytes < 256 ^ bytes.length := by
  induction bytes with
  | nil => exact Nat.one_pos
  | cons b bytes ih =>
    have := b.toNat_lt
    rw [leNat, List.length_cons, Nat.pow_succ]
    omega

/-- Writing again what was read. -/
theorem leBytes_leNat (bytes : List UInt8) : leBytes bytes.length (leNat bytes) = bytes := by
  induction bytes with
  | nil => rfl
  | cons b bytes ih =>
    have := b.toNat_lt
    have hb : leNat (b :: bytes) % 256 = b.toNat := by
      rw [leNat]
      omega
    have hrest : leNat (b :: bytes) / 256 = leNat bytes := by
      rw [leNat]
      omega
    rw [List.length_cons, leBytes, hb, hrest, ih, UInt8.ofNat_toNat]

theorem beBytes_beNat (bytes : List UInt8) : beBytes bytes.length (beNat bytes) = bytes := by
  rw [beBytes, ← leNat_reverse, ← List.length_reverse, leBytes_leNat, List.reverse_reverse]

theorem beNat_beBytes {width n : Nat} (h : n < 256 ^ width) : beNat (beBytes width n) = n := by
  rw [← leNat_reverse, beBytes, List.reverse_reverse, leNat_leBytes h]

theorem beNat_lt (bytes : List UInt8) : beNat bytes < 256 ^ bytes.length := by
  rw [← leNat_reverse, ← List.length_reverse]
  exact leNat_lt _

/-! ### Hexadecimal digits -/

theorem hexValue?_hexDigit (upper : Bool) {n : Nat} (h : n < 16) : hexValue? (hexDigit upper n) = some n := by
  have hall : ∀ n : Fin 16, hexValue? (hexDigit upper n) = some n.val := by cases upper <;> decide
  exact hall ⟨n, h⟩

/-! ### What follows a position -/

/-- The bytes from a position on are `rest`. -/
def Follows (bytes : ByteArray) (pos : Nat) (rest : List UInt8) : Prop :=
  pos ≤ bytes.size ∧ bytes.data.toList.drop pos = rest

theorem follows_zero (bytes : ByteArray) : Follows bytes 0 bytes.data.toList := ⟨Nat.zero_le _, rfl⟩

theorem Follows.length {bytes : ByteArray} {pos : Nat} {rest : List UInt8} (h : Follows bytes pos rest) :
    pos + rest.length = bytes.size := by
  obtain ⟨hpos, rfl⟩ := h
  rw [List.length_drop, length_toList]
  omega

/-- A byte that follows a position is the byte there. -/
theorem Follows.cons {bytes : ByteArray} {pos : Nat} {b : UInt8} {rest : List UInt8}
    (h : Follows bytes pos (b :: rest)) :
    ∃ hpos : pos < bytes.size, bytes[pos] = b ∧ Follows bytes (pos + 1) rest := by
  have hlen := h.length
  rw [List.length_cons] at hlen
  have hpos : pos < bytes.size := by omega
  have hdrop := h.2
  rw [List.drop_eq_getElem_cons (by rw [length_toList]; exact hpos)] at hdrop
  obtain ⟨hb, hrest⟩ := List.cons.inj hdrop
  exact ⟨hpos, hb, hpos, hrest⟩

/-- Bytes that follow a position can be cut out there. -/
theorem Follows.append {bytes : ByteArray} {pos : Nat} {front rest : List UInt8}
    (h : Follows bytes pos (front ++ rest)) :
    (bytes.extract pos (pos + front.length)).data.toList = front ∧ Follows bytes (pos + front.length) rest := by
  have hlen := h.length
  rw [List.length_append] at hlen
  refine ⟨?_, by omega, ?_⟩
  · rw [toList_extract, Nat.add_sub_cancel_left, h.2, List.take_left]
  · rw [← List.drop_drop, h.2, List.drop_left]

end RemoteDesktop.Bytes
