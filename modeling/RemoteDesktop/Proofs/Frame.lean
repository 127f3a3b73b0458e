import RemoteDesktop.Proofs.Bytes
import RemoteDesktop.Viewer.Picture

/-!
# Packing regions of a frame

A region that lies inside a well-formed frame can be packed, and its bytes are the pixels of the frame
in that region: `Frame.WellFormed.pack_eq_ok`.
-/

namespace RemoteDesktop

/-- The region lies inside a picture of the given size. -/
def Region.Inside (size : Size) (r : Region) : Prop :=
  r.right ≤ size.width.toNat ∧ r.bottom ≤ size.height.toNat

instance (size : Size) (r : Region) : Decidable (r.Inside size) := inferInstanceAs (Decidable (_ ∧ _))

theorem Region.Inside.fits {size : Size} {r : Region} (h : r.Inside size) : r.Fits :=
  ⟨Nat.lt_of_le_of_lt h.1 size.width.toNat_lt, Nat.lt_of_le_of_lt h.2 size.height.toNat_lt⟩

theorem Region.whole_inside (size : Size) : (Region.whole size).Inside size := by
  simp [Inside, whole, right, bottom]

namespace Frame.WellFormed

variable {f : Frame}

/-- The rows of a well-formed frame can be read, and hold its pixels. -/
theorem row_eq_ok (h : f.WellFormed) {y : Nat} (hy : y < f.height.toNat) :
    ∃ row, f.row y = .ok row ∧ row.size = f.rowLength ∧
      ∀ i < f.rowLength, Bytes.byteAt row i = Bytes.byteAt f.data (y * f.stride.toNat + i) := by
  have hend : y * f.stride.toNat + f.rowLength ≤ f.data.size := by
    have hrow : (y + 1) * f.stride.toNat ≤ f.height.toNat * f.stride.toNat := Nat.mul_le_mul_right _ hy
    rw [h.1, Nat.mul_comm f.stride.toNat]
    rw [Nat.add_one_mul] at hrow
    exact Nat.le_trans (Nat.add_le_add_left h.2 _) hrow
  refine ⟨_, Bytes.slice_of_le hend, ?_, fun i hi => Bytes.byteAt_extract (by omega)⟩
  rw [ByteArray.size_extract]
  omega

/-- The stretches from `start` on of some rows of a frame, one after the other. -/
theorem packRows_eq_ok (h : f.WellFormed) (start length y rows : Nat) (hs : start + length ≤ f.rowLength)
    (hy : y + rows ≤ f.height.toNat) (out : ByteArray) :
    ∃ bytes, f.packRows start length y rows out = .ok (out ++ bytes) ∧ bytes.size = rows * length ∧
      ∀ r < rows, ∀ i < length, Bytes.byteAt bytes (r * length + i) =
        Bytes.byteAt f.data ((y + r) * f.stride.toNat + (start + i)) := by
  induction rows generalizing y out with
  | zero => exact ⟨ByteArray.empty, by simp [packRows], by simp, fun r hr => absurd hr (Nat.not_lt_zero r)⟩
  | succ rows ih =>
    obtain ⟨row, hrow, hlen, hbyte⟩ := h.row_eq_ok (y := y) (by omega)
    have hcut : (row.extract start (start + length)).size = length := by
      rw [ByteArray.size_extract]
      omega
    obtain ⟨rest, hrest, hsize, hbytes⟩ :=
      ih (y + 1) (by omega) (out ++ row.extract start (start + length))
    refine ⟨row.extract start (start + length) ++ rest, ?_, ?_, ?_⟩
    · simp only [packRows, hrow, bind, Except.bind]
      rw [Bytes.slice_of_le (by omega)]
      simpa [ByteArray.append_assoc] using hrest
    · rw [ByteArray.size_append, hcut, hsize, Nat.add_one_mul, Nat.add_comm]
    · intro r hr i hi
      cases r with
      | zero =>
        rw [Nat.zero_mul, Nat.zero_add, Bytes.byteAt_append_left (by omega), Bytes.byteAt_extract (by omega),
          hbyte _ (by omega), Nat.add_zero]
      | succ r =>
        have hi' : (r + 1) * length + i - length = r * length + i := by rw [Nat.add_one_mul]; omega
        rw [Bytes.byteAt_append_right (by rw [hcut, Nat.add_one_mul]; omega), hcut, hi',
          hbytes r (by omega) i hi, Nat.add_assoc y 1 r, Nat.add_comm 1 r]

/-- A region inside a well-formed frame can be packed, and the bytes give each of its pixels the colour
that it has in the frame. -/
theorem pack_eq_ok (h : f.WellFormed) {r : Region} (hr : r.Inside f.size) :
    ∃ pixels, f.pack r = .ok pixels ∧ pixels.size = r.area * bytesPerPixel ∧
      ∀ x y, r.Contains x y → Picture.colourIn r pixels x y = f.pixel x y := by
  obtain ⟨hwidth, hheight⟩ := hr
  simp only [Region.right, Region.bottom, Frame.size] at hwidth hheight
  have hrow : f.width.toNat * 4 < 2 ^ 32 := Nat.lt_of_le_of_lt h.2 f.stride.toNat_lt
  have hlength : (UInt32.ofNat (r.width.toNat * 4)).toNat = r.width.toNat * 4 :=
    UInt32.toNat_ofNat_of_lt' (by simp only [UInt32.size]; omega)
  have hstart : (UInt32.ofNat (r.x.toNat * 4)).toNat = r.x.toNat * 4 :=
    UInt32.toNat_ofNat_of_lt' (by simp only [UInt32.size]; omega)
  obtain ⟨pixels, hpack, hsize, hbytes⟩ := h.packRows_eq_ok (r.x.toNat * 4) (r.width.toNat * 4)
    r.y.toNat r.height.toNat (by simp only [rowLength, bytesPerPixel]; omega) hheight ByteArray.empty
  refine ⟨pixels, ?_, ?_, ?_⟩
  · have hw : Word.mul r.width 4 = .ok (UInt32.ofNat (r.width.toNat * 4)) := Word.ofNat_of_lt (by simp; omega)
    have hx : Word.mul r.x 4 = .ok (UInt32.ofNat (r.x.toNat * 4)) := Word.ofNat_of_lt (by simp; omega)
    have hb : Word.add r.y r.height = .ok (UInt32.ofNat (r.y.toNat + r.height.toNat)) :=
      Word.ofNat_of_lt (Nat.lt_of_le_of_lt hheight f.height.toNat_lt)
    simp only [pack, hw, hx, hb, bind, Except.bind, hlength, hstart]
    rw [hpack, ByteArray.empty_append]
  · rw [hsize, Region.area, bytesPerPixel, ← Nat.mul_assoc, Nat.mul_comm r.height.toNat]
  · intro x y hxy
    obtain ⟨hx, hx', hy, hy'⟩ := hxy
    simp only [Region.left, Region.top, Region.right, Region.bottom] at hx hx' hy hy'
    have hbyte : ∀ k < 4, Bytes.byteAt pixels
        (((y - r.y.toNat) * r.width.toNat + (x - r.x.toNat)) * 4 + k) =
        Bytes.byteAt f.data (y * f.stride.toNat + x * 4 + k) := by
      intro k hk
      have := hbytes (y - r.y.toNat) (by omega) ((x - r.x.toNat) * 4 + k) (by omega)
      rw [show ((y - r.y.toNat) * r.width.toNat + (x - r.x.toNat)) * 4 + k =
        (y - r.y.toNat) * (r.width.toNat * 4) + ((x - r.x.toNat) * 4 + k) by rw [Nat.add_mul, Nat.mul_assoc]; omega,
        this, show r.y.toNat + (y - r.y.toNat) = y by omega]
      congr 1
      omega
    have h0 := hbyte 0 (by omega)
    have h1 := hbyte 1 (by omega)
    have h2 := hbyte 2 (by omega)
    have h3 := hbyte 3 (by omega)
    simp only [Nat.add_zero] at h0
    simp only [Picture.colourIn, pixel, Region.top, Region.left, bytesPerPixel, h0, h1, h2, h3]

end Frame.WellFormed

end RemoteDesktop
