import Mathlib.Tactic.Push
import RemoteDesktop.Damage
import RemoteDesktop.Proofs.Grid

/-!
# What a detector sees

A detector compares a frame with its `reference`, the frame that its baseline and layout stand for. It
never fails on a well-formed frame; what it reports is what changed since the reference (`Describes`),
and afterwards its reference has the pixels of the frame it was shown, `Detector.detect_eq_ok`.
-/

namespace RemoteDesktop

/-- Both frames have the same size and the same visible pixels. -/
def Frame.SamePixels (f g : Frame) : Prop :=
  f.size = g.size ∧ ∀ x < f.width.toNat, ∀ y < f.height.toNat, f.pixel x y = g.pixel x y

theorem Picture.Shows.of_samePixels {p : Picture} {f g : Frame} (hp : p.Shows g) (h : f.SamePixels g) :
    p.Shows f := by
  obtain ⟨hsize, hpixels⟩ := h
  have hw : f.width = g.width := congrArg Size.width hsize
  have hh : f.height = g.height := congrArg Size.height hsize
  exact ⟨hp.1.trans hsize.symm, fun x hx y hy => (hp.2 x (hw ▸ hx) y (hh ▸ hy)).trans (hpixels x hx y hy).symm⟩

/-- Some pixel of a region differs between two frames. -/
def Frame.DifferIn (f g : Frame) (r : Region) : Prop := ∃ x y, r.Contains x y ∧ f.pixel x y ≠ g.pixel x y

/-- The frame that bytes make in a layout. -/
def Damage.Layout.frame (l : Damage.Layout) (data : ByteArray) : Frame :=
  ⟨l.size.width, l.size.height, l.stride, 0, data⟩

/-! ### Comparing pixels -/

theorem Frame.pixel_eq_iff {f g : Frame} {x y : Nat} (hs : f.stride = g.stride) :
    f.pixel x y = g.pixel x y ↔ ∀ k < 4, Bytes.byteAt f.data (y * f.stride.toNat + x * 4 + k) =
      Bytes.byteAt g.data (y * f.stride.toNat + x * 4 + k) := by
  simp only [pixel, bytesPerPixel, ← hs, Colour.mk.injEq]
  constructor
  · rintro ⟨h0, h1, h2, h3⟩ k hk
    obtain rfl | rfl | rfl | rfl : k = 0 ∨ k = 1 ∨ k = 2 ∨ k = 3 := by omega
    · exact h0
    · exact h1
    · exact h2
    · exact h3
  · exact fun h => ⟨h 0 (by omega), h 1 (by omega), h 2 (by omega), h 3 (by omega)⟩

namespace Detector

/-- Rows that lie inside both buffers are compared without fault, and differ if a byte does. -/
theorem rowsDiffer_eq_ok (current baseline : ByteArray) (stride length start rows : Nat)
    (h : ∀ row < rows, start + row * stride + length ≤ current.size ∧
      start + row * stride + length ≤ baseline.size) :
    ∃ b, rowsDiffer current baseline stride length start rows = .ok b ∧ (b = true ↔
      ∃ row < rows, ∃ i < length, Bytes.byteAt current (start + row * stride + i) ≠
        Bytes.byteAt baseline (start + row * stride + i)) := by
  induction rows generalizing start with
  | zero => exact ⟨false, rfl, by simp⟩
  | succ rows ih =>
    have hfirst := h 0 (Nat.zero_lt_succ rows)
    simp only [Nat.zero_mul, Nat.add_zero] at hfirst
    have hnext {row : Nat} : start + stride + row * stride = start + (row + 1) * stride := by
      rw [Nat.add_one_mul]; omega
    obtain ⟨b, hb, hiff⟩ := ih (start + stride) fun row hrow => by
      simpa only [hnext] using h (row + 1) (by omega)
    simp only [hnext] at hiff
    by_cases hagree : Bytes.agreeOn current baseline start length = true
    · refine ⟨b, by simp [rowsDiffer, stretchDiffers, hfirst, hagree, hb, bind, Except.bind], ?_⟩
      rw [Bytes.agreeOn_eq_true_iff] at hagree
      rw [hiff]
      constructor
      · rintro ⟨row, hrow, i, hi, hne⟩
        exact ⟨row + 1, by omega, i, hi, hne⟩
      · rintro ⟨row, hrow, i, hi, hne⟩
        cases row with
        | zero => exact absurd (by simpa using hagree i hi) hne
        | succ row => exact ⟨row, by omega, i, hi, hne⟩
    · refine ⟨true, by
        simp [rowsDiffer, stretchDiffers, hfirst, hagree, bind, Except.bind, pure, Except.pure], ?_⟩
      rw [Bytes.agreeOn_eq_true_iff] at hagree
      push Not at hagree
      obtain ⟨i, hi, hne⟩ := hagree
      exact iff_of_true rfl ⟨0, by omega, i, hi, by simpa using hne⟩

/-- A tile inside two well-formed frames of one layout differs if one of its pixels does. -/
theorem tileDiffers_eq_ok {f g : Frame} (hf : f.WellFormed) (hg : g.WellFormed) (hl : f.SameLayout g)
    {t : Region} (ht : t.Inside f.size) :
    ∃ b, tileDiffers f.data g.data f.stride t = .ok b ∧ (b = true ↔ f.DifferIn g t) := by
  obtain ⟨hwidth, hheight⟩ := ht
  simp only [Region.right, Region.bottom, Frame.size] at hwidth hheight
  have hrow : f.width.toNat * 4 ≤ f.stride.toNat := hf.2
  have hstride := f.stride.toNat_lt
  obtain ⟨start, hstart, hstartn⟩ := Word.exists_mul_eq_ok (a := t.x) (b := 4) (by simp; omega)
  obtain ⟨length, hlength, hlengthn⟩ := Word.exists_mul_eq_ok (a := t.width) (b := 4) (by simp; omega)
  simp only [UInt32.reduceToNat] at hstartn hlengthn
  have hsize : f.data.size = g.data.size := by rw [hf.1, hg.1, hl.2.1, hl.2.2]
  obtain ⟨b, hb, hiff⟩ := rowsDiffer_eq_ok f.data g.data f.stride.toNat length.toNat
    (t.y.toNat * f.stride.toNat + start.toNat) t.height.toNat fun row hr => by
      have hend : (t.y.toNat + row + 1) * f.stride.toNat ≤ f.height.toNat * f.stride.toNat :=
        Nat.mul_le_mul_right _ (by omega)
      rw [Nat.mul_comm f.height.toNat, ← hf.1, Nat.add_one_mul, Nat.add_mul] at hend
      omega
  have hend : Word.add t.y t.height = .ok (UInt32.ofNat (t.y.toNat + t.height.toNat)) :=
    Word.ofNat_of_lt (Nat.lt_of_le_of_lt hheight f.height.toNat_lt)
  refine ⟨b, by simp only [tileDiffers, hstart, hlength, hend, hb, bind, Except.bind], hiff.trans ?_⟩
  have hplace {row i : Nat} : t.y.toNat * f.stride.toNat + start.toNat + row * f.stride.toNat + i =
      (t.y.toNat + row) * f.stride.toNat + (t.x.toNat + i / 4) * 4 + i % 4 := by
    rw [Nat.add_mul t.y.toNat]; omega
  simp only [hplace, Frame.DifferIn, Region.Contains, Region.left, Region.right, Region.top, Region.bottom]
  constructor
  · rintro ⟨row, hr, i, hi, hne⟩
    refine ⟨t.x.toNat + i / 4, t.y.toNat + row, by omega, fun he => hne ?_⟩
    exact (Frame.pixel_eq_iff hl.2.2).1 he (i % 4) (Nat.mod_lt _ (by omega))
  · rintro ⟨x, y, hxy, hne⟩
    rw [ne_eq, Frame.pixel_eq_iff hl.2.2] at hne
    push Not at hne
    obtain ⟨k, hk, hne⟩ := hne
    refine ⟨y - t.y.toNat, by omega, (x - t.x.toNat) * 4 + k, by omega, ?_⟩
    rwa [show t.y.toNat + (y - t.y.toNat) = y by omega,
      show t.x.toNat + ((x - t.x.toNat) * 4 + k) / 4 = x by omega,
      show ((x - t.x.toNat) * 4 + k) % 4 = k by omega]

/-- The changed tiles are those in which a pixel differs, in the order of the tiles. -/
theorem changedTiles_eq_ok {f g : Frame} (hf : f.WellFormed) (hg : g.WellFormed) (hl : f.SameLayout g)
    {tiles : List Region} (ht : ∀ t ∈ tiles, t.Inside f.size) :
    ∃ changed, changedTiles f.data g.data f.stride tiles = .ok changed ∧ changed.Sublist tiles ∧
      (∀ t ∈ changed, f.DifferIn g t) ∧ ∀ t ∈ tiles, f.DifferIn g t → t ∈ changed := by
  induction tiles with
  | nil => exact ⟨[], rfl, .refl _, by simp, by simp⟩
  | cons t tiles ih =>
    obtain ⟨b, hb, hiff⟩ := tileDiffers_eq_ok hf hg hl (ht t List.mem_cons_self)
    obtain ⟨changed, hchanged, hsub, hdiff, hall⟩ := ih fun r hr => ht r (List.mem_cons_of_mem _ hr)
    cases b with
    | false =>
      refine ⟨changed, by simp [changedTiles, hb, hchanged, bind, Except.bind, pure, Except.pure],
        hsub.cons t, hdiff, fun r hr hdr => ?_⟩
      rcases List.mem_cons.1 hr with rfl | hr
      · exact absurd (hiff.2 hdr) Bool.false_ne_true
      · exact hall r hr hdr
    | true =>
      refine ⟨t :: changed, by simp [changedTiles, hb, hchanged, bind, Except.bind, pure, Except.pure],
        hsub.cons_cons t, fun r hr => ?_, fun r hr hdr => ?_⟩
      · rcases List.mem_cons.1 hr with rfl | hr
        · exact hiff.1 rfl
        · exact hdiff r hr
      · rcases List.mem_cons.1 hr with rfl | hr
        · exact List.mem_cons_self
        · exact List.mem_cons_of_mem _ (hall r hr hdr)

/-- Whatever the buffers hold, the changed tiles are some of the tiles, in their order. -/
theorem changedTiles_sublist {current baseline : ByteArray} {stride : UInt32} {tiles changed : List Region}
    (h : changedTiles current baseline stride tiles = .ok changed) : changed.Sublist tiles := by
  induction tiles generalizing changed with
  | nil =>
    cases h
    exact .refl _
  | cons t tiles ih =>
    obtain ⟨differs, -, h⟩ := bind_eq_ok_iff.1 h
    obtain ⟨rest, hrest, h⟩ := bind_eq_ok_iff.1 h
    cases h
    split
    · exact (ih hrest).cons_cons t
    · exact (ih hrest).cons t

/-! ### Detection -/

open Damage

/-- Looking at a frame keeps the settings, and the tiles reported are tiles of the grid. -/
theorem detect_settings {d next : Detector} {f : Frame} {damage : Damage} (h : d.detect f = .ok (damage, next)) :
    next.settings = d.settings ∧
      ∀ tiles, damage = .partly tiles → tiles.Sublist (Region.grid d.settings.tileSize f.size) := by
  rw [detect] at h
  split at h
  · cases h
    exact ⟨rfl, fun tiles htiles => nomatch htiles⟩
  · rw [Region.cutGrid_eq] at h
    obtain ⟨_, ⟨⟩, h⟩ := bind_eq_ok_iff.1 h
    obtain ⟨changed, hchanged, h⟩ := bind_eq_ok_iff.1 h
    split at h
    · cases h
      exact ⟨rfl, fun tiles htiles => nomatch htiles⟩
    · cases h
      refine ⟨rfl, fun tiles htiles => ?_⟩
      cases htiles
      exact changedTiles_sublist hchanged

/-- The frame that the next one is compared with, if it is compared with any. -/
def reference (d : Detector) : Option Frame :=
  if d.invalidated then none else d.layout.map fun l => l.frame d.baseline

/-- Tiles have pixels, and the baseline fills the layout. -/
structure Sound (d : Detector) : Prop where
  tile : 0 < d.settings.tileSize.toNat
  baseline : ∀ l ∈ d.layout, (l.frame d.baseline).WellFormed

theorem Sound.new (settings : Settings) : (new settings).Sound := by
  refine ⟨?_, by simp [Detector.new]⟩
  simp only [Detector.new, Settings.normal]
  split
  next h => decide
  next h => exact Nat.pos_of_ne_zero fun h0 => h (UInt32.toNat_inj.1 h0)

theorem Sound.invalidate {d : Detector} (h : d.Sound) : d.invalidate.Sound := ⟨h.tile, h.baseline⟩

@[simp] theorem reference_new (settings : Settings) : (new settings).reference = none := rfl

@[simp] theorem reference_invalidate (d : Detector) : d.invalidate.reference = none := rfl

/-- What a report says about a frame and the frame it is compared with: nothing can be compared, no
pixel differs, or the tiles of the grid in which a pixel differs. -/
def Describes (side : UInt32) (reference : Option Frame) (f : Frame) : Damage → Prop
  | .full => ∀ g ∈ reference, ¬ f.SameLayout g
  | .unchanged => ∃ g ∈ reference, f.SameLayout g ∧ f.SamePixels g
  | .partly tiles => ∃ g ∈ reference, f.SameLayout g ∧ tiles ≠ [] ∧
      tiles.Sublist (Region.grid side f.size) ∧ (∀ t ∈ tiles, f.DifferIn g t) ∧
      ∀ t ∈ Region.grid side f.size, f.DifferIn g t → t ∈ tiles

theorem layout_frame_of (f : Frame) (data : ByteArray) : f.SameLayout ((Layout.of f).frame data) :=
  ⟨rfl, rfl, rfl⟩

/-- A frame without a differing tile has the pixels of the other. -/
theorem samePixels_of_grid {f g : Frame} {side : UInt32} (hs : 0 < side.toNat) (hl : f.SameLayout g)
    (h : ∀ t ∈ Region.grid side f.size, ¬ f.DifferIn g t) : f.SamePixels g := by
  refine ⟨by rw [Frame.size, Frame.size, hl.1, hl.2.1], fun x hx y hy => ?_⟩
  obtain ⟨t, ht, hxy⟩ := Region.exists_mem_grid_contains f.size hs hx hy
  exact Decidable.byContradiction fun hne => h t ht ⟨x, y, hxy, hne⟩

/-- Looking at a well-formed frame never fails. The report describes the change since the reference, and
the new reference has the layout and the pixels of the frame. -/
theorem detect_eq_ok {d : Detector} (hd : d.Sound) {f : Frame} (hf : f.WellFormed) :
    ∃ damage next, d.detect f = .ok (damage, next) ∧ Describes d.settings.tileSize d.reference f damage ∧
      next.Sound ∧ next.settings = d.settings ∧ ∃ g, next.reference = some g ∧ g.SameLayout f ∧ g.SamePixels f := by
  by_cases hfull : d.invalidated ∨ d.layout ≠ some (Layout.of f)
  · simp only [detect, if_pos hfull, pure, Except.pure]
    refine ⟨_, _, rfl, ?_, ⟨hd.tile, ?_⟩, rfl, _, rfl, ⟨rfl, rfl, rfl⟩, ⟨rfl, fun x _ y _ => rfl⟩⟩
    · intro g hg hl
      rcases hfull with h | h
      · simp [reference, h] at hg
      · refine h ?_
        simp only [reference, Option.mem_def, ite_eq_iff, reduceCtorEq, and_false, false_or,
          Option.map_eq_some_iff] at hg
        obtain ⟨-, l, hlayout, rfl⟩ := hg
        rw [hlayout]
        obtain ⟨h1, h2, h3⟩ := hl
        simp only [Layout.frame] at h1 h2 h3
        simp only [Layout.of, Frame.size, h1, h2, h3]
    · rintro l ⟨⟩
      exact hf
  · rw [not_or, Bool.not_eq_true, not_not] at hfull
    obtain ⟨hvalid, hlayout⟩ := hfull
    have href : d.reference = some ((Layout.of f).frame d.baseline) := by simp [reference, hvalid, hlayout]
    have hwf : ((Layout.of f).frame d.baseline).WellFormed := hd.baseline _ hlayout
    obtain ⟨changed, hchanged, hsub, hdiff, hall⟩ := changedTiles_eq_ok hf hwf (layout_frame_of f d.baseline)
      fun t ht => Region.inside_of_mem_grid hd.tile ht
    simp only [Layout.frame] at hchanged
    simp only [detect, hvalid, hlayout, ne_eq, not_true_eq_false, or_false, Bool.false_eq_true, if_false,
      Region.cutGrid_eq, hchanged, bind, Except.bind, pure, Except.pure]
    cases changed with
    | nil =>
      have hsame : f.SamePixels ((Layout.of f).frame d.baseline) :=
        samePixels_of_grid hd.tile (layout_frame_of f d.baseline) fun t ht hdt => List.not_mem_nil (hall t ht hdt)
      refine ⟨_, _, rfl, ⟨_, href, layout_frame_of f d.baseline, hsame⟩, ⟨hd.tile, ?_⟩, rfl, _, rfl,
        ⟨rfl, rfl, rfl⟩, ⟨rfl, fun x hx y hy => (hsame.2 x hx y hy).symm⟩⟩
      rintro l ⟨⟩
      exact hwf
    | cons t changed =>
      refine ⟨_, _, rfl, ⟨_, href, layout_frame_of f d.baseline, List.cons_ne_nil _ _, hsub, hdiff, hall⟩,
        ⟨hd.tile, ?_⟩, rfl, _, rfl, ⟨rfl, rfl, rfl⟩, ⟨rfl, fun x _ y _ => rfl⟩⟩
      rintro l ⟨⟩
      exact hf

end Detector

end RemoteDesktop
