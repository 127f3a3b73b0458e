import RemoteDesktop.Encoder.TileCodec
import RemoteDesktop.Proofs.Lz4.Unpack

/-!
# The repetitions found are repetitions

The table of the matcher only holds places it has passed, so a place found in it lies before the one at
hand; the bytes there are compared before a sequence is made of them. Every plan of the matcher
therefore fits its string, and packing loses nothing, `unpack_pack`.
-/

namespace RemoteDesktop.Lz4

namespace Matcher

variable {input : ByteArray}

/-! ### Groups of bytes -/

/-- A group is the number that its bytes write. -/
theorem toNat_groupAt (input : ByteArray) (pos count : Nat) (h : count ≤ 8) :
    (groupAt input pos count).toNat < 256 ^ count ∧ (∀ rest, count = rest + 1 →
      (groupAt input pos count).toNat =
        256 * (groupAt input (pos + 1) rest).toNat + (Bytes.byteAt input pos).toNat) := by
  induction count generalizing pos with
  | zero => exact ⟨by simp [groupAt], by omega⟩
  | succ count ih =>
    have hrest := (ih (pos + 1) (by omega)).1
    have hbyte := (Bytes.byteAt input pos).toNat_lt
    have hpow : (256 : Nat) ^ count ≤ 256 ^ 7 := Nat.pow_le_pow_right (by omega) (by omega)
    have hshift : (groupAt input (pos + 1) count <<< 8).toNat = 2 ^ 8 * (groupAt input (pos + 1) count).toNat := by
      rw [UInt64.toNat_shiftLeft, Nat.shiftLeft_eq, Nat.mul_comm]
      exact Nat.mod_eq_of_lt (by simp; omega)
    have hvalue : (groupAt input pos (count + 1)).toNat =
        256 * (groupAt input (pos + 1) count).toNat + (Bytes.byteAt input pos).toNat := by
      rw [groupAt, UInt64.toNat_or, hshift, UInt8.toNat_toUInt64, Nat.or_comm, ← Nat.two_pow_add_eq_or_of_lt hbyte]
    refine ⟨by rw [hvalue, Nat.pow_succ]; omega, ?_⟩
    rintro rest ⟨⟩
    exact hvalue

/-- Equal groups have equal bytes. -/
theorem byteAt_of_groupAt {a b count : Nat} (hcount : count ≤ 8)
    (h : groupAt input a count = groupAt input b count) :
    ∀ i < count, Bytes.byteAt input (a + i) = Bytes.byteAt input (b + i) := by
  induction count generalizing a b with
  | zero => intro i hi; omega
  | succ count ih =>
    have ha := (toNat_groupAt input a (count + 1) hcount).2 count rfl
    have hb := (toNat_groupAt input b (count + 1) hcount).2 count rfl
    rw [h, hb] at ha
    have hbyteA := (Bytes.byteAt input a).toNat_lt
    have hbyteB := (Bytes.byteAt input b).toNat_lt
    have hrest : groupAt input (a + 1) count = groupAt input (b + 1) count := UInt64.toNat_inj.1 (by omega)
    intro i hi
    cases i with
    | zero => exact UInt8.toNat_inj.1 (by simp only [Nat.add_zero]; omega)
    | succ i =>
      have := ih (by omega) hrest i (by omega)
      rwa [Nat.add_assoc, Nat.add_assoc, Nat.add_comm 1 i] at this

/-! ### Extending a repetition -/

theorem agreeBefore_spec (input : ByteArray) (earlier pos most : Nat) (h : most ≤ pos) :
    agreeBefore input earlier pos most ≤ most ∧ agreeBefore input earlier pos most ≤ earlier ∧
      ∀ i < agreeBefore input earlier pos most,
        Bytes.byteAt input (pos - 1 - i) = Bytes.byteAt input (earlier - 1 - i) := by
  induction most generalizing earlier pos with
  | zero => simp [agreeBefore]
  | succ most ih =>
    unfold agreeBefore
    split
    next hagree =>
      obtain ⟨hmost, hearlier, hall⟩ := ih (earlier - 1) (pos - 1) (by omega)
      refine ⟨by omega, by omega, fun i hi => ?_⟩
      cases i with
      | zero => exact hagree.2.symm
      | succ i =>
        have := hall i (by omega)
        rwa [show pos - 1 - 1 - i = pos - 1 - (i + 1) by omega,
          show earlier - 1 - 1 - i = earlier - 1 - (i + 1) by omega] at this
    next => simp

theorem agreeAfter_spec (input : ByteArray) (earlier pos count most : Nat) :
    ∃ more, agreeAfter input earlier pos count most = count + more ∧ more ≤ most ∧
      ∀ i < more, Bytes.byteAt input (pos + i) = Bytes.byteAt input (earlier + i) := by
  induction most generalizing earlier pos count with
  | zero => exact ⟨0, rfl, Nat.le_refl 0, by simp⟩
  | succ most ih =>
    unfold agreeAfter
    split
    next hagree =>
      obtain ⟨more, hmore, hle, hall⟩ := ih (earlier + 1) (pos + 1) (count + 1)
      refine ⟨more + 1, by omega, by omega, fun i hi => ?_⟩
      cases i with
      | zero => exact hagree.symm
      | succ i =>
        have := hall i (by omega)
        rwa [Nat.add_assoc, Nat.add_assoc, Nat.add_comm 1 i] at this
    next => exact ⟨0, rfl, Nat.zero_le _, by simp⟩

/-- Bytes that agree before a group, in it and after it make one repetition. -/
theorem agree_around {earlier found back more : Nat} (hlt : earlier < found) (hback : back ≤ earlier)
    (hbefore : ∀ i < back, Bytes.byteAt input (found - 1 - i) = Bytes.byteAt input (earlier - 1 - i))
    (hgroup : ∀ i < 4, Bytes.byteAt input (found + i) = Bytes.byteAt input (earlier + i))
    (hafter : ∀ i < more, Bytes.byteAt input (found + 4 + i) = Bytes.byteAt input (earlier + 4 + i)) :
    ∀ i < back + 4 + more,
      Bytes.byteAt input (found - back + i) = Bytes.byteAt input (found - back + i - (found - earlier)) := by
  intro i hi
  by_cases hi₁ : i < back
  · have := hbefore (back - 1 - i) (by omega)
    rwa [show found - 1 - (back - 1 - i) = found - back + i by omega,
      show earlier - 1 - (back - 1 - i) = found - back + i - (found - earlier) by omega] at this
  by_cases hi₂ : i < back + 4
  · have := hgroup (i - back) (by omega)
    rwa [show found + (i - back) = found - back + i by omega,
      show earlier + (i - back) = found - back + i - (found - earlier) by omega] at this
  · have := hafter (i - back - 4) (by omega)
    rwa [show found + 4 + (i - back - 4) = found - back + i by omega,
      show earlier + 4 + (i - back - 4) = found - back + i - (found - earlier) by omega] at this

/-! ### The table -/

/-- Every place in the table lies before `pos`. -/
def Passed (table : Array Nat) (pos : Nat) : Prop := ∀ i, table.getD i 0 < pos

theorem Passed.mono {table : Array Nat} {a b : Nat} (h : Passed table a) (hab : a ≤ b) : Passed table b :=
  fun i => Nat.lt_of_lt_of_le (h i) hab

theorem Passed.set {table : Array Nat} {pos : Nat} (h : Passed table pos) (place : Nat) {value : Nat}
    (hv : value < pos) : Passed (table.setIfInBounds place value) pos := by
  intro i
  have hi := h i
  rw [Array.getD_eq_getD_getElem?] at hi ⊢
  rw [Array.getElem?_setIfInBounds]
  split
  · split
    · exact hv
    · exact Nat.lt_of_le_of_lt (Nat.zero_le _) hv
  · exact hi

/-- A place that the search finds stands at an earlier one with the same four bytes. -/
theorem search_spec {table : Array Nat} {pos misses : Nat} (ht : Passed table pos) {earlier found : Nat}
    {after : Array Nat} (h : search input table pos misses = (some (earlier, found), after)) :
    pos ≤ found ∧ earlier < found ∧ found ≤ earlier + maxOffset ∧ found + quietTail ≤ input.size ∧
      Passed after (found + 1) ∧
      ∀ i < 4, Bytes.byteAt input (found + i) = Bytes.byteAt input (earlier + i) := by
  fun_induction search input table pos misses with
  | case1 table pos misses hpos place before next hfound =>
    simp only [Prod.mk.injEq, Option.some.injEq] at h
    obtain ⟨⟨rfl, rfl⟩, rfl⟩ := h
    exact ⟨Nat.le_refl _, ht _, hfound.1, hpos, (ht.mono (Nat.le_succ _)).set _ (Nat.lt_succ_self _),
      byteAt_of_groupAt (by omega) hfound.2.symm⟩
  | case2 table pos misses hpos place before next hmissed ih =>
    have hnext : Passed next (pos + max 1 (misses / 32)) :=
      ((ht.mono (Nat.le_succ _)).set _ (Nat.lt_succ_self _)).mono (by omega)
    obtain ⟨hle, hrest⟩ := ih hnext h
    exact ⟨by omega, hrest⟩
  | case3 table pos misses hpos =>
    simp only [Prod.mk.injEq, reduceCtorEq, false_and] at h

/-- The sequences of the matcher are repetitions of the string. -/
theorem sequencesFrom_fits (fuel : Nat) {table : Array Nat} {start pos : Nat} (ht : Passed table pos)
    (hpos : start ≤ pos) (hstart : start ≤ input.size) :
    Plan.Fits input start (sequencesFrom input fuel table start pos) := by
  induction fuel generalizing table start pos with
  | zero => exact hstart
  | succ fuel ih =>
    unfold sequencesFrom
    split
    next => exact hstart
    next earlier found after hsearch =>
      obtain ⟨hle, hlt, hfar, hquiet, hafter, hfour⟩ := search_spec ht hsearch
      obtain ⟨hback, hbackEarlier, hbefore⟩ := agreeBefore_spec input earlier found (found - start) (by omega)
      obtain ⟨more, hmore, hmost, hmatch⟩ := agreeAfter_spec input (earlier + minimumRepeat)
        (found + minimumRepeat) 0 (input.size - tail - (found + minimumRepeat))
      simp only [hmore, Nat.zero_add]
      generalize agreeBefore input earlier found (found - start) = back at *
      simp only [minimumRepeat, maxOffset, quietTail, tail] at *
      have hliterals : start + (found - back - start) = found - back := by omega
      have hstop : found - back + (back + 4 + more) = found + 4 + more := by omega
      simp only [Plan.Fits, minimumRepeat]
      refine ⟨⟨by omega, by omega, by omega⟩, by omega, ?_, ?_⟩
      · rw [hliterals]
        exact agree_around hlt hbackEarlier hbefore hfour hmatch
      · rw [hliterals, hstop]
        exact ih ((hafter.mono (by omega)).set _ (by omega)) (Nat.le_refl _) (by omega)

end Matcher

/-- The plan of a string fits it. -/
theorem plan_fits (input : ByteArray) : (plan input).Fits input 0 := by
  unfold plan
  split
  next => exact Nat.zero_le _
  next =>
    refine Matcher.sequencesFrom_fits _ (fun i => ?_) (Nat.zero_le _) (Nat.zero_le _)
    rw [Array.getD_eq_getD_getElem?, Array.getElem?_replicate]
    split <;> exact Nat.one_pos

/-- Packing loses nothing. -/
theorem unpack_pack {input : ByteArray} (h : input.size < 2 ^ 32) : unpack (pack input) = .ok input :=
  unpack_write h (plan_fits input)

end RemoteDesktop.Lz4

namespace RemoteDesktop.TileCodec

/-- The packing of tiles is faithful. -/
theorem lz4_faithful : lz4.Faithful := by
  intro size pixels state data after hpixels hsize h
  simp only [lz4, packTile, if_pos hpixels, Prod.mk.injEq, Except.ok.injEq] at h
  rw [← h.1, Lz4.unpack_pack (by omega)]

end RemoteDesktop.TileCodec
