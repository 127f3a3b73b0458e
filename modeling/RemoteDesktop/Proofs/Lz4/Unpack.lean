import RemoteDesktop.Lz4.Plan
import RemoteDesktop.Proofs.Bytes

/-!
# Unpacking what a plan writes

A plan fits a string if every repetition of it is one of the string (`Plan.Fits`). Unpacking the block
that such a plan makes gives the string back, `unpack_write`: whatever repetitions were found, and
however their lengths are written.
-/

namespace RemoteDesktop.Lz4

namespace Plan

/-- Every repetition of the plan is one of the string, from position `pos` on, and can be written. -/
def Fits (input : ByteArray) : (pos : Nat) → Plan → Prop
  | pos, [] => pos ≤ input.size
  | pos, s :: plan =>
    (0 < s.offset ∧ s.offset < 2 ^ 16 ∧ s.offset ≤ pos + s.literals) ∧ minimumRepeat ≤ s.length ∧
      (∀ i < s.length, Bytes.byteAt input (pos + s.literals + i) =
        Bytes.byteAt input (pos + s.literals + i - s.offset)) ∧
      Fits input (pos + s.literals + s.length) plan

theorem Fits.pos_le {input : ByteArray} {pos : Nat} {plan : Plan} (h : Fits input pos plan) :
    pos ≤ input.size := by
  induction plan generalizing pos with
  | nil => exact h
  | cons s plan ih =>
    have := ih h.2.2.2
    omega

/-! ### The bytes of a plan -/

/-- A number as bytes that add up to it, all but the last of them 255. -/
def moreBytes (more : Nat) : List UInt8 := List.replicate (more / 255) 255 ++ [UInt8.ofNat (more % 255)]

/-- What a half token does not hold of a length. -/
def lengthBytes (length : Nat) : List UInt8 := if 15 ≤ length then moreBytes (length - 15) else []

/-- A token, and the literals it announces. -/
def literalBytes (input : ByteArray) (pos literals : Nat) (low : UInt8) : List UInt8 :=
  (half literals <<< 4 ||| low) :: (lengthBytes literals ++
    (input.extract pos (pos + literals)).data.toList)

/-- The block of a plan for the bytes of `input` from `pos` on. -/
def bytesFrom (input : ByteArray) : (pos : Nat) → Plan → List UInt8
  | pos, [] => literalBytes input pos (input.size - pos) 0
  | pos, s :: plan => literalBytes input pos s.literals (half (s.length - minimumRepeat)) ++
      (UInt8.ofNat (s.offset % 256) :: UInt8.ofNat (s.offset / 256) ::
        (lengthBytes (s.length - minimumRepeat) ++ bytesFrom input (pos + s.literals + s.length) plan))

theorem toList_push (out : ByteArray) (b : UInt8) : (out.push b).data.toList = out.data.toList ++ [b] := by
  rw [ByteArray.data_push, Array.toList_push]

theorem toList_repeat_push (out : ByteArray) (n : Nat) :
    (Nat.repeat (·.push 255) n out).data.toList = out.data.toList ++ List.replicate n 255 := by
  induction n with
  | zero => simp [Nat.repeat]
  | succ n ih => rw [Nat.repeat, toList_push, ih, List.replicate_succ', List.append_assoc]

theorem toList_writeLength (out : ByteArray) (length : Nat) :
    (writeLength out length).data.toList = out.data.toList ++ lengthBytes length := by
  unfold writeLength lengthBytes
  split
  · rw [writeMore, toList_push, toList_repeat_push, moreBytes, List.append_assoc]
  · rw [List.append_nil]

theorem toList_writeLiterals (input : ByteArray) (pos literals : Nat) (low : UInt8) (out : ByteArray) :
    (writeLiterals input pos literals low out).data.toList =
      out.data.toList ++ literalBytes input pos literals low := by
  rw [writeLiterals, ByteArray.toList_data_append, toList_writeLength, toList_push, literalBytes,
    List.append_assoc, List.append_assoc, List.singleton_append]

theorem toList_writeFrom (input : ByteArray) (pos : Nat) (plan : Plan) (out : ByteArray) :
    (writeFrom input pos plan out).data.toList = out.data.toList ++ bytesFrom input pos plan := by
  induction plan generalizing pos out with
  | nil => exact toList_writeLiterals input pos _ 0 out
  | cons s plan ih =>
    rw [writeFrom, ih, toList_writeLength, toList_push, toList_push, toList_writeLiterals, bytesFrom]
    simp only [List.append_assoc, List.cons_append, List.nil_append]

/-- A length takes no more bytes than it counts. -/
theorem length_lengthBytes_le (length : Nat) : (lengthBytes length).length ≤ length := by
  unfold lengthBytes
  split
  · rw [moreBytes, List.length_append, List.length_replicate, List.length_singleton]
    omega
  · exact Nat.zero_le _

theorem length_literalBytes_le (input : ByteArray) (pos literals : Nat) (low : UInt8) :
    (literalBytes input pos literals low).length ≤ 1 + 2 * literals := by
  have hlength := length_lengthBytes_le literals
  rw [literalBytes, List.length_cons, List.length_append, Bytes.length_toList, ByteArray.size_extract]
  omega

/-- A block is at most about twice as long as what it is made of. -/
theorem length_bytesFrom_le {input : ByteArray} {pos : Nat} {plan : Plan} (h : Fits input pos plan) :
    (bytesFrom input pos plan).length ≤ 1 + 2 * (input.size - pos) := by
  induction plan generalizing pos with
  | nil => exact length_literalBytes_le input pos _ 0
  | cons s plan ih =>
    obtain ⟨-, hlength, -, hfits⟩ := h
    have hliterals := length_literalBytes_le input pos s.literals (half (s.length - minimumRepeat))
    have hmore := length_lengthBytes_le (s.length - minimumRepeat)
    have hrest := ih hfits
    have hpos := hfits.pos_le
    rw [bytesFrom, List.length_append, List.length_cons, List.length_cons, List.length_append]
    rw [minimumRepeat] at *
    omega

/-- A token holds its two halves. -/
theorem token_halves (m n : Nat) :
    (half m <<< 4 ||| half n) >>> 4 = half m ∧ (half m <<< 4 ||| half n) &&& 15 = half n := by
  have hall : ∀ a < 16, ∀ b < 16, (UInt8.ofNat a <<< 4 ||| UInt8.ofNat b) >>> 4 = UInt8.ofNat a ∧
      (UInt8.ofNat a <<< 4 ||| UInt8.ofNat b) &&& 15 = UInt8.ofNat b := by decide
  exact hall (min m 15) (by omega) (min n 15) (by omega)

end Plan

open Plan

/-! ### Reading it back -/

/-- A number written as bytes that add up to it is read back. -/
theorem readMore_of_follows {block : ByteArray} (n : Nat) {pos : Nat} (total : Nat) {rest : List UInt8}
    (h : Bytes.Follows block pos (moreBytes n ++ rest)) :
    ∃ stop hle, readMore block pos total = .ok (total + n, ⟨stop, hle⟩) ∧ Bytes.Follows block stop rest := by
  induction n using Nat.strongRecOn generalizing pos total with
  | ind n ih =>
    by_cases hn : n < 255
    · have hbytes : moreBytes n = [UInt8.ofNat n] := by
        simp [moreBytes, Nat.div_eq_of_lt hn, Nat.mod_eq_of_lt hn]
      rw [hbytes] at h
      obtain ⟨hpos, hb, hrest⟩ := h.cons
      have hvalue : (UInt8.ofNat n).toNat = n := UInt8.toNat_ofNat_of_lt' (by simp [UInt8.size]; omega)
      have hne : UInt8.ofNat n ≠ 255 := fun he => by
        rw [he] at hvalue
        simp at hvalue
        omega
      rw [readMore, dif_pos hpos]
      simp only [hb, if_neg hne, hvalue]
      exact ⟨pos + 1, Nat.le_succ pos, rfl, hrest⟩
    · have hbytes : moreBytes n = 255 :: moreBytes (n - 255) := by
        have hdiv : n / 255 = (n - 255) / 255 + 1 := by omega
        have hmod : n % 255 = (n - 255) % 255 := by omega
        rw [moreBytes, moreBytes, hdiv, hmod, List.replicate_succ, List.cons_append]
      rw [hbytes] at h
      obtain ⟨hpos, hb, hrest⟩ := h.cons
      obtain ⟨stop, hle, hread, hstop⟩ := ih (n - 255) (by omega) (total + 255) hrest
      rw [readMore, dif_pos hpos]
      simp only [hb, if_true, hread]
      exact ⟨stop, by omega, by rw [show total + 255 + (n - 255) = total + n by omega], hstop⟩

/-- A length is read back from its half token and the bytes that go on with it. -/
theorem readLength_of_follows {block : ByteArray} (n : Nat) {pos : Nat} {rest : List UInt8}
    (h : Bytes.Follows block pos (lengthBytes n ++ rest)) :
    ∃ stop hle, readLength block (half n) pos = .ok (n, ⟨stop, hle⟩) ∧ Bytes.Follows block stop rest := by
  have hhalf : (half n).toNat = min n 15 := UInt8.toNat_ofNat_of_lt' (show min n 15 < 256 by omega)
  unfold readLength
  by_cases hn : 15 ≤ n
  · have hfull : half n = 15 := UInt8.toNat_inj.1 (by rw [hhalf]; simp; omega)
    rw [lengthBytes, if_pos hn] at h
    obtain ⟨stop, hle, hread, hrest⟩ := readMore_of_follows (n - 15) 15 h
    rw [if_pos hfull, hread]
    exact ⟨stop, hle, by rw [show 15 + (n - 15) = n by omega], hrest⟩
  · have hfull : half n ≠ 15 := fun he => by
      rw [he] at hhalf
      simp at hhalf
      omega
    rw [lengthBytes, if_neg hn, List.nil_append] at h
    rw [if_neg hfull, hhalf, Nat.min_eq_left (by omega)]
    exact ⟨pos, Nat.le_refl pos, rfl, h⟩

/-- Repeating bytes of the string that stand `offset` places before themselves goes on with the string. -/
theorem repeatBytes_extract {input : ByteArray} {offset : Nat} (ho : 0 < offset) (length pos : Nat)
    (hpos : offset ≤ pos) (hend : pos + length ≤ input.size)
    (h : ∀ i < length, Bytes.byteAt input (pos + i) = Bytes.byteAt input (pos + i - offset)) :
    repeatBytes (input.extract 0 pos) offset length = input.extract 0 (pos + length) := by
  induction length generalizing pos with
  | zero => rfl
  | succ length ih =>
    have hsize : (input.extract 0 pos).size = pos := by rw [ByteArray.size_extract]; omega
    have hlast : Bytes.byteAt (input.extract 0 pos) (pos - offset) = Bytes.byteAt input pos := by
      rw [Bytes.byteAt_extract (by omega), Nat.zero_add]
      exact (h 0 (by omega)).symm
    have hpush : (input.extract 0 pos).push (Bytes.byteAt input pos) = input.extract 0 (pos + 1) := by
      rw [@ByteArray.extract_eq_extract_append_extract input 0 (pos + 1) pos (by omega) (by omega),
        ByteArray.extract_add_one (by omega), ByteArray.append_toByteArray_singleton,
        Bytes.byteAt_of_lt (by omega)]
    rw [repeatBytes, hsize, hlast, hpush, ih (pos + 1) (by omega) (by omega) fun i hi => by
      rw [Nat.add_assoc pos 1 i, Nat.add_comm 1 i]
      exact h (i + 1) (by omega)]
    congr 1
    omega

/-- A token and its literals are read back, and go on with the string. -/
theorem readLiterals_of_follows {input block : ByteArray} {pos literals start n : Nat} {rest : List UInt8}
    (hlit : pos + literals ≤ input.size)
    (h : Bytes.Follows block start (literalBytes input pos literals (half n) ++ rest)) :
    ∃ (hstart : start < block.size) (stop : Nat) (hle : start + 1 ≤ stop),
      readLength block (block[start] >>> 4) (start + 1) = .ok (literals, ⟨stop, hle⟩) ∧
        block[start] &&& 15 = half n ∧ Bytes.Follows block (stop + literals) rest ∧
        input.extract 0 pos ++ block.extract stop (stop + literals) = input.extract 0 (pos + literals) := by
  rw [literalBytes, List.cons_append, List.append_assoc] at h
  obtain ⟨hstart, htoken, hnext⟩ := h.cons
  obtain ⟨hhigh, hlow⟩ := token_halves literals n
  obtain ⟨stop, hle, hread, hstop⟩ := readLength_of_follows literals hnext
  have hlen : (input.extract pos (pos + literals)).data.toList.length = literals := by
    rw [Bytes.length_toList, ByteArray.size_extract]
    omega
  obtain ⟨hcut, hrest⟩ := hstop.append
  rw [hlen] at hcut hrest
  refine ⟨hstart, stop, hle, by rw [htoken, hhigh, hread], by rw [htoken, hlow], hrest, ?_⟩
  rw [Bytes.ext_toList hcut,
    @ByteArray.extract_eq_extract_append_extract input 0 (pos + literals) pos (by omega) (by omega)]

/-- Two bytes hold an offset. -/
theorem leNat_offset {n : Nat} (h : n < 2 ^ 16) :
    Bytes.leNat [UInt8.ofNat (n % 256), UInt8.ofNat (n / 256)] = n := by
  simp only [Bytes.leNat, UInt8.toNat_ofNat']
  omega

/-- The block of a fitting plan unpacks to the string. -/
theorem unpackFrom_of_follows {input block : ByteArray} {pos start : Nat} {plan : Plan}
    (hfits : Fits input pos plan) (h : Bytes.Follows block start (bytesFrom input pos plan)) :
    unpackFrom block input.size start (input.extract 0 pos) = .ok input := by
  induction plan generalizing pos start with
  | nil =>
    have hpos : pos ≤ input.size := hfits
    rw [bytesFrom, show (0 : UInt8) = half 0 from rfl,
      ← List.append_nil (literalBytes _ _ _ _)] at h
    obtain ⟨hstart, stop, hle, hread, -, hrest, hout⟩ := readLiterals_of_follows (by omega) h
    have hsize : (input.extract 0 pos).size = pos := by rw [ByteArray.size_extract]; omega
    have hend := hrest.length
    rw [List.length_nil, Nat.add_zero] at hend
    rw [unpackFrom, dif_pos hstart]
    simp only [hread, hsize, hout]
    rw [if_neg (by omega), if_neg (by omega), if_pos (by omega), show pos + (input.size - pos) = input.size by omega,
      ByteArray.extract_zero_size]
  | cons s plan ih =>
    obtain ⟨⟨ho, ho', hback⟩, hlength, hagree, hfits'⟩ := hfits
    have hend := hfits'.pos_le
    rw [bytesFrom] at h
    obtain ⟨hstart, stop, hle, hread, hlow, hrest, hout⟩ := readLiterals_of_follows (by omega) h
    have hsize : (input.extract 0 pos).size = pos := by rw [ByteArray.size_extract]; omega
    have hsize' : (input.extract 0 (pos + s.literals)).size = pos + s.literals := by
      rw [ByteArray.size_extract]; omega
    obtain ⟨hp0, hb0, hrest0⟩ := hrest.cons
    obtain ⟨hp1, hb1, hrest1⟩ := hrest0.cons
    obtain ⟨last, hlast, hmore, hnext⟩ := readLength_of_follows _ hrest1
    have hoffset : Bytes.leNat [Bytes.byteAt block (stop + s.literals),
        Bytes.byteAt block (stop + s.literals + 1)] = s.offset := by
      rw [Bytes.byteAt_of_lt hp0, Bytes.byteAt_of_lt hp1, hb0, hb1, leNat_offset ho']
    have hsum : minimumRepeat + (s.length - minimumRepeat) = s.length := by omega
    rw [unpackFrom, dif_pos hstart]
    simp only [hread, hsize, hout, hoffset, hlow, hsize']
    rw [if_neg (by omega), if_neg (by omega), if_neg (by omega), if_neg (by omega), if_neg (by omega)]
    simp only [hmore, hsum]
    rw [if_neg (by omega), if_neg (by omega), repeatBytes_extract ho _ _ hback (by omega) hagree]
    exact ih hfits' hnext

theorem size_write_le {input : ByteArray} {plan : Plan} (h : Fits input 0 plan) :
    (plan.write input).size ≤ 5 + 2 * input.size := by
  have hblock := length_bytesFrom_le h
  rw [write, ← Bytes.length_toList, toList_writeFrom, List.length_append, Bytes.toList_ofList, Bytes.length_leBytes]
  omega

/-- What a fitting plan writes unpacks to the string, if four bytes can announce its length. -/
theorem unpack_write {input : ByteArray} {plan : Plan} (hsize : input.size < 2 ^ 32)
    (h : Fits input 0 plan) : unpack (plan.write input) = .ok input := by
  have hannounced : (Bytes.leBytes 4 input.size).length = 4 := Bytes.length_leBytes _ _
  have hfollows : Bytes.Follows (plan.write input) 0
      (Bytes.leBytes 4 input.size ++ bytesFrom input 0 plan) := by
    have hlist : (plan.write input).data.toList = Bytes.leBytes 4 input.size ++ bytesFrom input 0 plan := by
      rw [write, toList_writeFrom, Bytes.toList_ofList]
    exact hlist ▸ Bytes.follows_zero _
  obtain ⟨hhead, hblock⟩ := hfollows.append
  rw [hannounced, Nat.zero_add] at hhead hblock
  have hlen := hblock.length
  have hlength : announcedLength (plan.write input) = input.size := by
    rw [announcedLength, Bytes.toList_eq, hhead, Bytes.leNat_leBytes (by omega)]
  have hrest : Bytes.Follows ((plan.write input).extract 4 (plan.write input).size) 0 (bytesFrom input 0 plan) := by
    refine ⟨Nat.zero_le _, ?_⟩
    rw [List.drop_zero, Bytes.toList_extract, hblock.2]
    exact List.take_of_length_le (by omega)
  rw [unpack, if_neg (by omega), hlength]
  have := unpackFrom_of_follows h hrest
  rwa [ByteArray.extract_same] at this

end RemoteDesktop.Lz4
