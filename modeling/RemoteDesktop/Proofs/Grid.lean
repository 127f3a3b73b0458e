import RemoteDesktop.Proofs.Frame
import RemoteDesktop.Region.Grid

/-!
# What a grid covers

The tiles of a grid are its cells (`IsCell`), and the picture is read row by row: of two tiles the first starts in an
earlier row, or further left in the same row (`grid_pairwise_before`). So tiles lie inside their picture, are at most
as large as the side says, and every pixel of the picture lies in exactly one of them.
-/

namespace RemoteDesktop.Region

variable {side : UInt32} {size : Size} {x y : Nat}

/-- A region is known by its edges. -/
theorem ext_edges {a b : Region} (hl : a.left = b.left) (ht : a.top = b.top) (hr : a.right = b.right)
    (hb : a.bottom = b.bottom) : a = b := by
  cases a
  cases b
  simp only [left, top, right, bottom] at hl ht hr hb
  simp only [mk.injEq, ← UInt32.toNat_inj]
  omega

/-! ### Cells -/

/-- A cell of the grid of side `side` over a picture: it starts at multiples of the side inside the picture, and
reaches to the next ones or to the edge of the picture. -/
structure IsCell (side : Nat) (size : Size) (r : Region) : Prop where
  column : side ∣ r.left ∧ r.left < size.width.toNat
  row : side ∣ r.top ∧ r.top < size.height.toNat
  right : r.right = min (r.left + side) size.width.toNat
  bottom : r.bottom = min (r.top + side) size.height.toNat

/-- Row by row, the first region comes before the second. -/
def Before (a b : Region) : Prop := a.top < b.top ∨ a.top = b.top ∧ a.left < b.left

instance (a b : Region) : Decidable (a.Before b) := inferInstanceAs (Decidable (_ ∨ _))

/-- The edges of the tile at a place inside the picture. -/
theorem tileAt_edges (side : UInt32) (hx : x < size.width.toNat) (hy : y < size.height.toNat) :
    (tileAt side size x y).left = x ∧ (tileAt side size x y).top = y ∧
      (tileAt side size x y).right = min (x + side.toNat) size.width.toNat ∧
      (tileAt side size x y).bottom = min (y + side.toNat) size.height.toNat := by
  have hx' : (UInt32.ofNat x).toNat = x :=
    UInt32.toNat_ofNat_of_lt' (Nat.lt_trans hx size.width.toNat_lt)
  have hy' : (UInt32.ofNat y).toNat = y :=
    UInt32.toNat_ofNat_of_lt' (Nat.lt_trans hy size.height.toNat_lt)
  have hw : (size.width - UInt32.ofNat x).toNat = size.width.toNat - x := by
    rw [Word.toNat_sub_of_le (by rw [UInt32.le_iff_toNat_le, hx']; omega), hx']
  have hh : (size.height - UInt32.ofNat y).toNat = size.height.toNat - y := by
    rw [Word.toNat_sub_of_le (by rw [UInt32.le_iff_toNat_le, hy']; omega), hy']
  simp only [tileAt, left, top, right, bottom, Word.toNat_min, hx', hy', hw, hh, true_and]
  omega

theorem tileAt_isCell (hx : side.toNat ∣ x ∧ x < size.width.toNat) (hy : side.toNat ∣ y ∧ y < size.height.toNat) :
    (tileAt side size x y).IsCell side.toNat size := by
  obtain ⟨hl, ht, hr, hb⟩ := tileAt_edges side hx.2 hy.2
  exact ⟨by rwa [hl], by rwa [ht], by rw [hr, hl], by rw [hb, ht]⟩

/-- The tiles of a grid are its cells. -/
theorem mem_grid {t : Region} (hs : 0 < side.toNat) : t ∈ grid side size ↔ t.IsCell side.toNat size := by
  simp only [grid, List.mem_flatMap, List.mem_map, mem_tileStarts hs]
  constructor
  · rintro ⟨y, hy, x, hx, rfl⟩
    exact tileAt_isCell hx.symm hy.symm
  · intro h
    obtain ⟨hl, ht, hr, hb⟩ := tileAt_edges side h.column.2 h.row.2
    exact ⟨t.top, h.row.symm, t.left, h.column.symm, ext_edges hl ht (hr.trans h.right.symm) (hb.trans h.bottom.symm)⟩

theorem inside_of_mem_grid {t : Region} (hs : 0 < side.toNat) (ht : t ∈ grid side size) : t.Inside size := by
  obtain ⟨-, -, hright, hbottom⟩ := (mem_grid hs).1 ht
  exact ⟨by omega, by omega⟩

/-- No tile is wider or higher than the side. -/
theorem le_side_of_mem_grid {t : Region} (hs : 0 < side.toNat) (ht : t ∈ grid side size) :
    t.width.toNat ≤ side.toNat ∧ t.height.toNat ≤ side.toNat := by
  obtain ⟨-, -, hright, hbottom⟩ := (mem_grid hs).1 ht
  simp only [right, bottom, left, top] at hright hbottom
  omega

/-- Every pixel of the picture lies in a tile. -/
theorem exists_mem_grid_contains (size : Size) (hs : 0 < side.toNat) (hx : x < size.width.toNat)
    (hy : y < size.height.toNat) : ∃ t ∈ grid side size, t.Contains x y := by
  have hx0 := Nat.div_mul_le_self x side.toNat
  have hy0 := Nat.div_mul_le_self y side.toNat
  have hx1 := Nat.lt_div_mul_add hs (a := x)
  have hy1 := Nat.lt_div_mul_add hs (a := y)
  refine ⟨tileAt side size (x / side.toNat * side.toNat) (y / side.toNat * side.toNat),
    (mem_grid hs).2 (tileAt_isCell ⟨Nat.dvd_mul_left _ _, by omega⟩ ⟨Nat.dvd_mul_left _ _, by omega⟩), ?_⟩
  obtain ⟨hl, ht, hr, hb⟩ := @tileAt_edges size (x / side.toNat * side.toNat)
    (y / side.toNat * side.toNat) side (by omega) (by omega)
  refine ⟨by omega, by omega, by omega, by omega⟩

theorem tileStarts_pairwise {side : Nat} (hs : 0 < side) (length : Nat) : (tileStarts side length).Pairwise (· < ·) := by
  rw [tileStarts, List.pairwise_map]
  exact List.pairwise_lt_range.imp fun h => Nat.mul_lt_mul_of_pos_right h hs

/-- The tiles of a grid stand row by row, from left to right. -/
theorem grid_pairwise_before (side : UInt32) (size : Size) (hs : 0 < side.toNat) :
    (grid side size).Pairwise Before := by
  have hedges : ∀ x ∈ tileStarts side.toNat size.width.toNat, ∀ y ∈ tileStarts side.toNat size.height.toNat,
      (tileAt side size x y).left = x ∧ (tileAt side size x y).top = y := by
    intro x hx y hy
    obtain ⟨hl, ht, -, -⟩ := tileAt_edges side ((mem_tileStarts hs).1 hx).1 ((mem_tileStarts hs).1 hy).1
    exact ⟨hl, ht⟩
  rw [grid, List.pairwise_flatMap]
  constructor
  · intro y hy
    rw [List.pairwise_map]
    refine (tileStarts_pairwise hs _).imp_of_mem fun {a b} ha hb hab => Or.inr ?_
    obtain ⟨hleft, htop⟩ := hedges a ha y hy
    obtain ⟨hleft', htop'⟩ := hedges b hb y hy
    omega
  · refine (tileStarts_pairwise hs _).imp_of_mem fun {a b} ha hb hab s hs t ht => Or.inl ?_
    obtain ⟨x, hx, rfl⟩ := List.mem_map.1 hs
    obtain ⟨x', hx', rfl⟩ := List.mem_map.1 ht
    rwa [(hedges x hx a ha).2, (hedges x' hx' b hb).2]

/-! ### Regions that share no pixel -/

/-- No pixel belongs to both regions. -/
def Apart (a b : Region) : Prop := ∀ x y, a.Contains x y → ¬ b.Contains x y

/-- If no two items of a list have a property and one has it, exactly one has it. -/
theorem countP_eq_one_of_pairwise {α : Type} {p : α → Bool} {as : List α} (h : as.Pairwise fun a b => ¬ (p a ∧ p b))
    (hex : ∃ a ∈ as, p a) : as.countP p = 1 := by
  induction h with
  | nil => simp at hex
  | @cons a as ha _ ih =>
    by_cases hpa : p a
    · have hrest : as.countP p = 0 := List.countP_eq_zero.2 fun b hb hpb => ha b hb ⟨hpa, hpb⟩
      rw [List.countP_cons_of_pos hpa, hrest]
    · rw [List.countP_cons_of_neg hpa]
      obtain ⟨b, hb, hpb⟩ := hex
      rcases List.mem_cons.1 hb with rfl | hb
      · exact absurd hpb hpa
      · exact ih ⟨b, hb, hpb⟩

/-- Of regions that share no pixel, at most one holds a given pixel. -/
theorem countP_contains_of_apart {regions : List Region} (h : regions.Pairwise Apart)
    (hxy : ∃ r ∈ regions, r.Contains x y) : regions.countP (fun r => r.Contains x y) = 1 :=
  countP_eq_one_of_pairwise (h.imp fun hab ⟨ha, hb⟩ => hab x y (of_decide_eq_true ha) (of_decide_eq_true hb))
    (by simpa using hxy)

/-- Of two multiples of a number, the greater one is greater by at least that number. -/
theorem add_le_of_dvd {side a b : Nat} (ha : side ∣ a) (hb : side ∣ b) (h : a < b) : a + side ≤ b := by
  have := Nat.le_of_dvd (Nat.sub_pos_of_lt h) (Nat.dvd_sub hb ha)
  omega

/-- Two cells of a grid share no pixel. -/
theorem IsCell.apart {side : Nat} {a b : Region} (ha : a.IsCell side size) (hb : b.IsCell side size)
    (h : a.Before b) : Apart a b := by
  rintro px py ⟨hal, har, hat, hab⟩ ⟨hbl, hbr, hbt, hbb⟩
  have hright := ha.right
  have hbottom := ha.bottom
  rcases h with hrow | ⟨-, hcolumn⟩
  · have := add_le_of_dvd ha.row.1 hb.row.1 hrow
    omega
  · have := add_le_of_dvd ha.column.1 hb.column.1 hcolumn
    omega

/-- The tiles of a grid share no pixel. -/
theorem grid_pairwise_apart (side : UInt32) (size : Size) (hs : 0 < side.toNat) : (grid side size).Pairwise Apart :=
  (grid_pairwise_before side size hs).imp_of_mem fun ha hb => IsCell.apart ((mem_grid hs).1 ha) ((mem_grid hs).1 hb)

end RemoteDesktop.Region
