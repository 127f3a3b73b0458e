import Mathlib.Data.Finset.Prod
import Mathlib.Order.Interval.Finset.Nat
import RemoteDesktop.Proofs.Grid

/-!
# Areas of regions

The area of a region is the number of its pixels (`card_pixels`). Where no two regions share a pixel, their areas add up
to the number of the pixels that lie in any of them (`card_cover`). So regions inside a picture have at most its area
together, and its whole area exactly if they cover it.

Main statements: `sum_area_le`, `sum_area_eq_iff`.
-/

namespace RemoteDesktop.Region

variable {size : Size} {x y : Nat}

/-- The pixels of a region, by column and row. -/
def pixels (r : Region) : Finset (Nat × Nat) := Finset.Ico r.left r.right ×ˢ Finset.Ico r.top r.bottom

theorem mem_pixels {r : Region} : (x, y) ∈ r.pixels ↔ r.Contains x y := by
  simp only [pixels, Finset.mem_product, Finset.mem_Ico, Contains, and_assoc]

theorem card_pixels (r : Region) : r.pixels.card = r.area := by
  simp [pixels, area, left, right, top, bottom]

/-- The pixels of a picture. -/
theorem mem_pixels_whole : (x, y) ∈ (whole size).pixels ↔ x < size.width.toNat ∧ y < size.height.toNat := by
  simp [mem_pixels, Contains, whole, left, right, top, bottom]

theorem Inside.pixels_subset {r : Region} (h : r.Inside size) : r.pixels ⊆ (whole size).pixels := by
  rintro ⟨x, y⟩ hxy
  obtain ⟨-, hright, -, hbottom⟩ := mem_pixels.1 hxy
  exact mem_pixels_whole.2 ⟨Nat.lt_of_lt_of_le hright h.1, Nat.lt_of_lt_of_le hbottom h.2⟩

/-! ### Several regions -/

/-- The pixels that lie in any of some regions. -/
def cover (regions : List Region) : Finset (Nat × Nat) := regions.foldr (fun r rest => r.pixels ∪ rest) ∅

theorem mem_cover {regions : List Region} : (x, y) ∈ cover regions ↔ ∃ r ∈ regions, r.Contains x y := by
  induction regions with
  | nil => simp [cover]
  | cons r regions ih =>
    rw [cover, List.foldr_cons, Finset.mem_union, mem_pixels, ← cover, ih]
    simp only [List.mem_cons, exists_eq_or_imp]

/-- Where no pixel is shared, the areas add up. -/
theorem card_cover {regions : List Region} (h : regions.Pairwise Apart) :
    (cover regions).card = (regions.map area).sum := by
  induction h with
  | nil => rfl
  | @cons r regions hr _ ih =>
    have hdisjoint : Disjoint r.pixels (cover regions) := by
      rw [Finset.disjoint_left]
      rintro ⟨x, y⟩ hxy hrest
      obtain ⟨t, ht, hxy'⟩ := mem_cover.1 hrest
      exact hr t ht x y (mem_pixels.1 hxy) hxy'
    calc (cover (r :: regions)).card = (r.pixels ∪ cover regions).card := rfl
      _ = r.pixels.card + (cover regions).card := Finset.card_union_of_disjoint hdisjoint
      _ = r.area + (regions.map area).sum := by rw [card_pixels, ih]
      _ = ((r :: regions).map area).sum := by rw [List.map_cons, List.sum_cons]

section Inside

variable {regions : List Region} (hinside : ∀ r ∈ regions, r.Inside size) (hapart : regions.Pairwise Apart)
include hinside

theorem cover_subset_whole : cover regions ⊆ (whole size).pixels := by
  rintro ⟨x, y⟩ hxy
  obtain ⟨r, hr, hxy⟩ := mem_cover.1 hxy
  exact (hinside r hr).pixels_subset (mem_pixels.2 hxy)

include hapart

/-- Regions of a picture that share no pixel have at most its area together. -/
theorem sum_area_le : (regions.map area).sum ≤ (whole size).area := by
  rw [← card_cover hapart, ← card_pixels]
  exact Finset.card_le_card (cover_subset_whole hinside)

/-- They have its whole area exactly if each of its pixels lies in one of them. -/
theorem sum_area_eq_iff : (regions.map area).sum = (whole size).area ↔
    ∀ x < size.width.toNat, ∀ y < size.height.toNat, ∃ r ∈ regions, r.Contains x y := by
  have hsubset : cover regions ⊆ (whole size).pixels := cover_subset_whole hinside
  rw [← card_cover hapart, ← card_pixels]
  constructor
  · intro hcard x hx y hy
    rw [← mem_cover, Finset.eq_of_subset_of_card_le hsubset hcard.ge]
    exact mem_pixels_whole.2 ⟨hx, hy⟩
  · intro hall
    refine congrArg Finset.card (hsubset.antisymm ?_)
    rintro ⟨x, y⟩ hxy
    obtain ⟨hx, hy⟩ := mem_pixels_whole.1 hxy
    exact mem_cover.2 (hall x hx y hy)

end Inside

end RemoteDesktop.Region
