import RemoteDesktop.Proofs.Wire.Message
import RemoteDesktop.Wire.Parts

/-!
# Cutting a rectangle into bands

A rectangle that is too large for a part is cut into bands of full rows. They lie one below the other and
reach from its first row to its last (`Stacked`), and their data is its data, in order. Each of them fits a
part.
-/

namespace RemoteDesktop.Wire

/-- Rectangles of one width, each right below the one before it, from row `top` on and down to row
`bottom`; each has at least one row, and the pixels of its rows as data. -/
def Stacked (x width : UInt32) : (top bottom : Nat) → List Rect → Prop
  | top, bottom, [] => top = bottom
  | top, bottom, b :: below =>
    (b.region.x = x ∧ b.region.width = width ∧ b.region.y.toNat = top ∧ 0 < b.region.height.toNat ∧
      b.data.size = width.toNat * bytesPerPixel * b.region.height.toNat) ∧
      Stacked x width (top + b.region.height.toNat) bottom below

/-- The rectangle, cut into bands. -/
structure RowBands (r : Rect) (cut : List Rect) : Prop where
  /-- The bands cover the rows of the rectangle from top to bottom, each row once. -/
  stacked : Stacked r.region.x r.region.width r.region.y.toNat (r.region.y.toNat + r.region.height.toNat) cut
  data : joined Rect.data cut = r.data

/-- A stretch is counted if it starts before the end. -/
theorem lt_stretchCount {length size i : Nat} (h : 0 < length) : i < stretchCount length size ↔ i * length < size := by
  rw [stretchCount, Nat.lt_iff_add_one_le, Nat.le_div_iff_mul_le h, Nat.add_one_mul]
  omega

section

variable {mode : Mode} {r : Rect}

/-- The rows of band number `index`, as far as there are any. -/
theorem length_band (hcut : Cuttable mode r) (rows index : Nat) :
    (⟨r.data, index * (rows * (r.region.width.toNat * bytesPerPixel)),
        (index + 1) * (rows * (r.region.width.toNat * bytesPerPixel))⟩ : Stretch).length =
      r.region.width.toNat * bytesPerPixel * min rows (r.region.height.toNat - index * rows) := by
  obtain ⟨-, -, -, hsize⟩ := hcut
  have hstart : index * (rows * (r.region.width.toNat * bytesPerPixel)) =
      r.region.width.toNat * bytesPerPixel * (index * rows) := by
    rw [← Nat.mul_assoc, Nat.mul_comm]
  have hstop : (index + 1) * (rows * (r.region.width.toNat * bytesPerPixel)) =
      r.region.width.toNat * bytesPerPixel * (index * rows + rows) := by
    rw [Nat.add_one_mul, hstart, Nat.mul_add, Nat.mul_comm rows]
  rw [Stretch.length, hstart, hstop, hsize, Nat.mul_min_mul_left, ← Nat.mul_sub]
  congr 1
  omega

theorem rowLength_pos (hcut : Cuttable mode r) : 0 < r.region.width.toNat * bytesPerPixel := by
  have hwidth : r.region.width.toNat ≠ 0 := fun h => hcut.2.1 (UInt32.toNat_inj.1 h)
  rw [bytesPerPixel]
  omega

/-- A band starts before the last byte exactly if it starts before the last row. -/
theorem lt_stretchCount_rows (hcut : Cuttable mode r) {rows : Nat} (hrows : 0 < rows) (i : Nat) :
    i < stretchCount (rows * (r.region.width.toNat * bytesPerPixel)) r.data.size ↔
      i * rows < r.region.height.toNat := by
  have hrow := rowLength_pos hcut
  rw [lt_stretchCount (Nat.mul_pos hrows hrow), hcut.2.2.2, ← Nat.mul_assoc, Nat.mul_comm, Nat.mul_lt_mul_left hrow]

/-- A band that starts within the rectangle can be cut. -/
theorem band_eq_ok (hcut : Cuttable mode r) (hfits : r.region.y.toNat + r.region.height.toNat < 2 ^ 32)
    {rows index : Nat} (hindex : index * rows < r.region.height.toNat) :
    ∃ v, band r rows index = .ok v ∧ v.region.x = r.region.x ∧ v.region.width = r.region.width ∧
      v.region.y.toNat = r.region.y.toNat + index * rows ∧
      v.region.height.toNat = min rows (r.region.height.toNat - index * rows) ∧
      v.data = ⟨r.data, index * (rows * (r.region.width.toNat * bytesPerPixel)),
        (index + 1) * (rows * (r.region.width.toNat * bytesPerPixel))⟩ := by
  have hdone : (UInt32.ofNat (index * rows)).toNat = index * rows := UInt32.toNat_ofNat_of_lt' (by
    show index * rows < 2 ^ 32
    omega)
  obtain ⟨y, hy, hvalue⟩ := Word.exists_add_eq_ok (a := r.region.y) (b := UInt32.ofNat (index * rows)) (by omega)
  refine ⟨_, by rw [band, hy]; rfl, rfl, rfl, by rw [hvalue, hdone], ?_, rfl⟩
  show (UInt32.ofNat (Stretch.length _ / _)).toNat = _
  rw [length_band hcut, Nat.mul_div_cancel_left _ (rowLength_pos hcut)]
  exact UInt32.toNat_ofNat_of_lt' (by
    show min rows (r.region.height.toNat - index * rows) < 2 ^ 32
    omega)

/-- The bands from number `index` on reach from its first row to the last one of the rectangle. -/
theorem bandsFrom_eq_ok (hcut : Cuttable mode r) (hfits : r.region.y.toNat + r.region.height.toNat < 2 ^ 32)
    {rows : Nat} (hrows : 0 < rows) (count index : Nat)
    (hcount : index + count = stretchCount (rows * (r.region.width.toNat * bytesPerPixel)) r.data.size) :
    ∃ views, (List.range' index count).mapM (band r rows) = .ok views ∧
      Stacked r.region.x r.region.width (r.region.y.toNat + min (index * rows) r.region.height.toNat)
        (r.region.y.toNat + r.region.height.toNat) (views.map (·.owned)) ∧
      joined Rect.data (views.map (·.owned)) =
        r.data.extract (index * (rows * (r.region.width.toNat * bytesPerPixel))) r.data.size ∧
      ∀ v ∈ views, v.data.length ≤ rows * (r.region.width.toNat * bytesPerPixel) := by
  have hlt := lt_stretchCount_rows hcut hrows
  induction count generalizing index with
  | zero =>
    have hend := mt (hlt index).2 (by omega)
    have hpos : 0 < rows * (r.region.width.toNat * bytesPerPixel) := Nat.mul_pos hrows (rowLength_pos hcut)
    have hbytes := mt (lt_stretchCount hpos).2 (show ¬ index < _ by rw [← hcount]; omega)
    refine ⟨[], rfl, ?_, ?_, by simp⟩
    · show _ = _
      omega
    · exact (Bytes.ext_toList (by
        rw [Bytes.toList_extract_size, List.drop_of_length_le (by rw [Bytes.length_toList]; omega)]
        rfl)).symm
  | succ count ih =>
    have hindex := (hlt index).1 (by omega)
    obtain ⟨v, hv, hx, hwidth, hy, hheight, hdata⟩ := band_eq_ok hcut hfits hindex
    obtain ⟨views, hviews, hstacked, hjoined, hlength⟩ := ih (index + 1) (by omega)
    have hlen : v.data.length = r.region.width.toNat * bytesPerPixel * v.region.height.toNat := by
      rw [hdata, length_band hcut, hheight]
    have hnext : (index + 1) * rows = index * rows + rows := Nat.add_one_mul ..
    refine ⟨v :: views, ?_, ⟨⟨hx, hwidth, ?_, ?_, ?_⟩, ?_⟩, ?_, ?_⟩
    · rw [List.range'_succ, List.mapM_cons, hv]
      show (do let rest ← (List.range' (index + 1) count).mapM (band r rows); pure (v :: rest)) = _
      rw [hviews]
      rfl
    · show v.region.y.toNat = _
      omega
    · show 0 < v.region.height.toNat
      omega
    · show v.data.bytes.size = _
      rw [Stretch.size_bytes, hlen]
      rfl
    · have hreach : r.region.y.toNat + min (index * rows) r.region.height.toNat + v.region.height.toNat =
          r.region.y.toNat + min ((index + 1) * rows) r.region.height.toNat := by omega
      show Stacked _ _ (_ + v.region.height.toNat) _ _
      rw [hreach]
      exact hstacked
    · show v.data.bytes ++ joined Rect.data (views.map (·.owned)) = _
      rw [hjoined, hdata]
      exact Bytes.extract_append_extract_size (Nat.mul_le_mul_right _ (Nat.le_succ index))
    · rintro w (⟨⟩ | ⟨_, hw⟩)
      · rw [hlen, Nat.mul_comm rows]
        exact Nat.mul_le_mul_left _ (by omega)
      · exact hlength w hw

/-- The bands of a rectangle that is cut. -/
theorem bands_eq_ok (hcut : Cuttable mode r) (hfits : r.region.y.toNat + r.region.height.toNat < 2 ^ 32) :
    ∃ views, bands r = .ok views ∧ RowBands r (views.map (·.owned)) ∧
      ∀ v ∈ views, v.data.length + rectOverhead ≤ partBudget := by
  have hrow := rowLength_pos hcut
  have hroom := hcut.2.2.1
  have hrows : 0 < (partBudget - rectOverhead) / (r.region.width.toNat * bytesPerPixel) :=
    Nat.div_pos (by omega) hrow
  obtain ⟨views, hviews, hstacked, hjoined, hlength⟩ := bandsFrom_eq_ok hcut hfits hrows _ 0 (Nat.zero_add _)
  refine ⟨views, by rw [bands, List.range_eq_range']; exact hviews, ⟨?_, ?_⟩, fun v hv => ?_⟩
  · rwa [Nat.zero_mul, Nat.zero_min, Nat.add_zero] at hstacked
  · rw [hjoined, Nat.zero_mul, ByteArray.extract_zero_size]
  · have hmul := Nat.div_mul_le_self (partBudget - rectOverhead) (r.region.width.toNat * bytesPerPixel)
    have := hlength v hv
    omega

end

end RemoteDesktop.Wire
