import RemoteDesktop.Region

/-!
# Grids of tiles

A picture is cut into square tiles of a given side, row by row; the tiles at its right and lower edges
are smaller where the side does not divide the size.
-/

namespace RemoteDesktop.Region

/-- The places below `length` where tiles of side `side` start. -/
def tileStarts (side length : Nat) : List Nat :=
  (List.range ((length + side - 1) / side)).map (· * side)

/-- The tile whose first pixel is at `(x, y)`, cut at the edges of the picture. -/
def tileAt (side : UInt32) (size : Size) (x y : Nat) : Region :=
  let x := UInt32.ofNat x
  let y := UInt32.ofNat y
  ⟨x, y, min side (size.width - x), min side (size.height - y)⟩

/-- The tiles of side `side` of a picture, row by row. -/
def grid (side : UInt32) (size : Size) : List Region :=
  (tileStarts side.toNat size.height.toNat).flatMap fun y =>
    (tileStarts side.toNat size.width.toNat).map fun x => tileAt side size x y

/-- The tile whose first pixel is at `(x, y)`, if that is a place in the picture. -/
def cutTile (side : UInt32) (size : Size) (x y : Nat) : Checked Region := do
  let x := UInt32.ofNat x
  let y := UInt32.ofNat y
  let height ← Word.sub size.height y
  let width ← Word.sub size.width x
  return ⟨x, y, min side width, min side height⟩

/-- The tiles of side `side` of a picture, row by row, each cut with checked arithmetic (`cutGrid_eq`). -/
def cutGrid (side : UInt32) (size : Size) : Checked (List Region) :=
  ((tileStarts side.toNat size.height.toNat).flatMap fun y =>
    (tileStarts side.toNat size.width.toNat).map fun x => (x, y)).mapM fun p => cutTile side size p.1 p.2

/-- The places are exactly the multiples of the side below the length. -/
theorem mem_tileStarts {side length n : Nat} (hs : 0 < side) :
    n ∈ tileStarts side length ↔ n < length ∧ side ∣ n := by
  simp only [tileStarts, List.mem_map, List.mem_range]
  constructor
  · rintro ⟨k, hk, rfl⟩
    have h : (k + 1) * side ≤ length + side - 1 :=
      Nat.le_trans (Nat.mul_le_mul_right _ hk) (Nat.div_mul_le_self _ _)
    rw [Nat.add_one_mul] at h
    exact ⟨by omega, Nat.dvd_mul_left side k⟩
  · rintro ⟨hn, k, rfl⟩
    refine ⟨k, ?_, Nat.mul_comm _ _⟩
    rw [Nat.lt_iff_add_one_le, Nat.le_div_iff_mul_le hs, Nat.add_one_mul, Nat.mul_comm k side]
    omega

/-- Tiles start inside their picture, so cutting them never fails. -/
theorem cutTile_eq (side : UInt32) {size : Size} {x y : Nat} (hx : x < size.width.toNat) (hy : y < size.height.toNat) :
    cutTile side size x y = .ok (tileAt side size x y) := by
  have hle {length : UInt32} {n : Nat} (h : n < length.toNat) : UInt32.ofNat n ≤ length := by
    rw [UInt32.le_iff_toNat_le, UInt32.toNat_ofNat_of_lt' (Nat.lt_trans h length.toNat_lt)]
    exact Nat.le_of_lt h
  simp only [cutTile, Word.sub_of_le (hle hx), Word.sub_of_le (hle hy)]
  rfl

theorem cutGrid_eq (side : UInt32) (size : Size) : cutGrid side size = .ok (grid side size) := by
  obtain hs | hs := Nat.eq_zero_or_pos side.toNat
  · simp [cutGrid, grid, tileStarts, hs, pure, Except.pure]
  · rw [cutGrid, mapM_eq_ok (g := fun p => tileAt side size p.1 p.2), List.map_flatMap, grid]
    · simp only [List.map_map, Function.comp_def]
    · intro p hp
      obtain ⟨y, hy, hp⟩ := List.mem_flatMap.1 hp
      obtain ⟨x, hx, rfl⟩ := List.mem_map.1 hp
      exact cutTile_eq side ((mem_tileStarts hs).1 hx).1 ((mem_tileStarts hs).1 hy).1

end RemoteDesktop.Region
