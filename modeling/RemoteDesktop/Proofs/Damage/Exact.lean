import Mathlib.Data.List.Induction
import RemoteDesktop.Damage.History
import RemoteDesktop.Proofs.Damage

/-!
# Damage detection is exact

A report is about the frame shown last, but a detector does not keep that frame: if nothing changed it keeps its old
baseline, which may stem from many calls ago. The invariant is that the two frames look alike (`Recalls`). One call
keeps it (`Recalls.after`), and so does a run of them (`run_eq_ok`). A report on what changed since one of them is
then a report on what changed since the other (`Describes.of_alike`). Main statement: `detection_is_exact`.
-/

namespace RemoteDesktop

/-! ### Frames that look alike -/

namespace Frame

theorem SameLayout.symm {f g : Frame} (h : f.SameLayout g) : g.SameLayout f := ⟨h.1.symm, h.2.1.symm, h.2.2.symm⟩

theorem SameLayout.trans {f g k : Frame} (h : f.SameLayout g) (hk : g.SameLayout k) : f.SameLayout k :=
  ⟨h.1.trans hk.1, h.2.1.trans hk.2.1, h.2.2.trans hk.2.2⟩

theorem SameLayout.size_eq {f g : Frame} (h : f.SameLayout g) : f.size = g.size := by
  rw [size, size, h.1, h.2.1]

theorem SamePixels.trans {f g k : Frame} (h : f.SamePixels g) (hk : g.SamePixels k) : f.SamePixels k := by
  have hw : f.width = g.width := congrArg Size.width h.1
  have hh : f.height = g.height := congrArg Size.height h.1
  exact ⟨h.1.trans hk.1, fun x hx y hy => (h.2 x hx y hy).trans (hk.2 x (hw ▸ hx) y (hh ▸ hy))⟩

/-- Both frames have the same layout and the same visible pixels. -/
structure Alike (f g : Frame) : Prop where
  layout : f.SameLayout g
  pixels : f.SamePixels g

theorem SamePixels.pixel_eq {f g : Frame} (h : f.SamePixels g) {t : Region} (ht : t.Inside f.size) {x y : Nat}
    (hxy : t.Contains x y) : f.pixel x y = g.pixel x y :=
  h.2 x (Nat.lt_of_lt_of_le hxy.2.1 ht.1) y (Nat.lt_of_lt_of_le hxy.2.2.2 ht.2)

theorem SamePixels.not_differIn {f g : Frame} (h : f.SamePixels g) {t : Region} (ht : t.Inside f.size) :
    ¬ f.DifferIn g t :=
  fun ⟨_, _, hxy, hne⟩ => hne (h.pixel_eq ht hxy)

/-- Inside a picture, a frame differs from frames with the same pixels in the same places. -/
theorem SamePixels.differIn_iff {f g k : Frame} (h : g.SamePixels k) {t : Region} (ht : t.Inside g.size) :
    f.DifferIn g t ↔ f.DifferIn k t :=
  exists_congr fun _ => exists_congr fun _ => and_congr_right fun hxy => by rw [h.pixel_eq ht hxy]

end Frame

namespace Detector

open Damage

/-! ### Reports -/

/-- A report on a frame says exactly what changed since the previous one: everything if there is none or its layout was
another; nothing if all pixels are as before; else the cells of the grid in which a pixel differs, row by row. -/
def Exact (side : Nat) (previous : Option Frame) (f : Frame) (damage : Damage) : Prop :=
  (damage = .full ↔ ∀ g ∈ previous, ¬ f.SameLayout g) ∧
    ∀ g ∈ previous, f.SameLayout g →
      (damage = .unchanged ↔ f.SamePixels g) ∧
        (¬ f.SamePixels g → ∃ tiles, damage = .partly tiles ∧ tiles.Pairwise Region.Before ∧
          ∀ t, t ∈ tiles ↔ t.IsCell side f.size ∧ f.DifferIn g t)

/-- A report on what changed since a frame holds since every frame that looks like it. -/
theorem Describes.of_alike {side : UInt32} (hs : 0 < side.toNat) {reference previous : Option Frame}
    (h : Option.Rel Frame.Alike reference previous) {f : Frame} {damage : Damage} (hd : Describes side reference f damage) :
    Describes side previous f damage := by
  cases h with
  | none => exact hd
  | @some g k hgk =>
    cases damage with
    | full =>
      rintro _ ⟨⟩ hl
      exact hd g rfl (hl.trans hgk.layout.symm)
    | unchanged =>
      obtain ⟨_, ⟨⟩, hl, hsame⟩ := hd
      exact ⟨k, rfl, hl.trans hgk.layout, hsame.trans hgk.pixels⟩
    | partly tiles =>
      obtain ⟨_, ⟨⟩, hl, hne, hsub, hdiff, hall⟩ := hd
      have hiff {t : Region} (ht : t ∈ Region.grid side f.size) : f.DifferIn g t ↔ f.DifferIn k t :=
        hgk.pixels.differIn_iff (hl.size_eq ▸ Region.inside_of_mem_grid hs ht)
      exact ⟨k, rfl, hl.trans hgk.layout, hne, hsub, fun t ht => (hiff (hsub.subset ht)).1 (hdiff t ht),
        fun t ht hdt => hall t ht ((hiff ht).2 hdt)⟩

theorem Describes.exact {side : UInt32} (hs : 0 < side.toNat) {previous : Option Frame} {f : Frame} {damage : Damage}
    (h : Describes side previous f damage) : Exact side.toNat previous f damage := by
  cases damage with
  | full => exact ⟨iff_of_true rfl h, fun g hg hl => absurd hl (h g hg)⟩
  | unchanged =>
    obtain ⟨g, hg, hl, hsame⟩ := h
    refine ⟨iff_of_false nofun fun hno => hno g hg hl, fun k hk _ => ?_⟩
    obtain rfl := Option.mem_unique hg hk
    exact ⟨iff_of_true rfl hsame, fun hno => absurd hsame hno⟩
  | partly tiles =>
    obtain ⟨g, hg, hl, hne, hsub, hdiff, hall⟩ := h
    refine ⟨iff_of_false nofun fun hno => hno g hg hl, fun k hk _ => ?_⟩
    obtain rfl := Option.mem_unique hg hk
    obtain ⟨t, ht⟩ := List.exists_mem_of_ne_nil tiles hne
    have hinside : t.Inside f.size := Region.inside_of_mem_grid hs (hsub.subset ht)
    refine ⟨iff_of_false nofun fun hsame => hsame.not_differIn hinside (hdiff t ht), fun _ =>
      ⟨tiles, rfl, (Region.grid_pairwise_before side f.size hs).sublist hsub, fun t => ?_⟩⟩
    rw [← Region.mem_grid hs]
    exact ⟨fun ht => ⟨hsub.subset ht, hdiff t ht⟩, fun ⟨ht, hdt⟩ => hall t ht hdt⟩

/-! ### What a detector recalls -/

theorem toNat_tileSize_normal (s : Settings) : s.normal.tileSize.toNat = max 1 s.tileSize.toNat := by
  unfold Settings.normal
  dsimp only
  split
  next h => rw [h]; rfl
  next h =>
    have : s.tileSize.toNat ≠ 0 := fun h0 => h (UInt32.toNat_inj.1 h0)
    omega

@[simp] theorem previous?_append_singleton (calls : List Call) (c : Call) : previous? (calls ++ [c]) = c.shown? := by
  rw [previous?, List.getLast?_concat, Option.bind_some]

theorem sideAfter_append_of_none (initial : Settings) (calls : List Call) {c : Call} (h : c.settings? = none) :
    sideAfter initial (calls ++ [c]) = sideAfter initial calls := by
  simp [sideAfter, List.filterMap_append, h]

theorem sideAfter_append_configure (initial : Settings) (calls : List Call) (settings : Settings) :
    sideAfter initial (calls ++ [.configure settings]) = max 1 settings.tileSize.toNat := by
  simp [sideAfter, List.filterMap_append, Call.settings?]

/-- After some calls, the frame that a detector would compare the next one with looks like the frame shown last. -/
structure Recalls (initial : Settings) (calls : List Call) (d : Detector) : Prop where
  sound : d.Sound
  side : d.settings.tileSize.toNat = sideAfter initial calls
  reference : Option.Rel Frame.Alike d.reference (previous? calls)

theorem Recalls.new (initial : Settings) : Recalls initial [] (new initial) :=
  ⟨.new initial, toNat_tileSize_normal initial, .none⟩

/-- Showing a frame gives an exact report, after which the detector recalls this frame. -/
theorem Recalls.detect {initial : Settings} {calls : List Call} {d : Detector} (h : Recalls initial calls d) {f : Frame}
    (hf : f.WellFormed) :
    ∃ damage next, d.detect f = .ok (damage, next) ∧ Exact (sideAfter initial calls) (previous? calls) f damage ∧
      Recalls initial (calls ++ [.detect f]) next := by
  obtain ⟨damage, next, hdetect, hdescribes, hsound, hsettings, g, hg, hl, hsame⟩ := detect_eq_ok h.sound hf
  refine ⟨damage, next, hdetect, ?_, hsound, ?_, ?_⟩
  · rw [← h.side]
    exact (hdescribes.of_alike h.sound.tile h.reference).exact h.sound.tile
  · rw [hsettings, h.side, sideAfter_append_of_none _ _ rfl]
  · rw [hg, previous?_append_singleton]
    exact .some ⟨hl, hsame⟩

/-- No call fails. -/
theorem Recalls.after {initial : Settings} {calls : List Call} {d : Detector} (h : Recalls initial calls d) {c : Call}
    (hc : c.WellFormed) : ∃ next, c.after d = .ok next ∧ Recalls initial (calls ++ [c]) next := by
  cases c with
  | detect f =>
    obtain ⟨damage, next, hdetect, -, hnext⟩ := h.detect hc
    exact ⟨next, by rw [Call.after, hdetect]; rfl, hnext⟩
  | invalidate =>
    refine ⟨d.invalidate, rfl, h.sound.invalidate, ?_, ?_⟩
    · rw [sideAfter_append_of_none _ _ rfl, ← h.side]
      rfl
    · rw [previous?_append_singleton]
      exact .none
  | configure settings =>
    refine ⟨d.configure settings, rfl, ⟨(Sound.new settings).tile, (Sound.new settings).baseline⟩, ?_, ?_⟩
    · rw [sideAfter_append_configure]
      exact toNat_tileSize_normal settings
    · rw [previous?_append_singleton]
      exact .none

/-- No run of calls fails, and afterwards the detector recalls the frame shown last. -/
theorem run_eq_ok (initial : Settings) {calls : List Call} (h : ∀ c ∈ calls, c.WellFormed) :
    ∃ d, (new initial).run calls = .ok d ∧ Recalls initial calls d := by
  induction calls using List.reverseRecOn with
  | nil => exact ⟨_, rfl, .new initial⟩
  | append_singleton calls c ih =>
    obtain ⟨d, hrun, hd⟩ := ih fun c hc => h c (List.mem_append_left _ hc)
    obtain ⟨next, hnext, hrecalls⟩ := hd.after (h c (List.mem_append_right _ List.mem_cons_self))
    refine ⟨next, ?_, hrecalls⟩
    rw [run, List.foldlM_append]
    exact bind_eq_ok_iff.2 ⟨d, hrun, bind_eq_ok_iff.2 ⟨next, hnext, rfl⟩⟩

/-- **Damage detection is exact.** After whatever calls, no frame makes a detector fail, and its report says exactly
what changed since the frame shown last. -/
theorem detection_is_exact (initial : Settings) {calls : List Call} (hcalls : ∀ c ∈ calls, c.WellFormed) {f : Frame}
    (hf : f.WellFormed) :
    ∃ d damage next, (new initial).run calls = .ok d ∧ d.detect f = .ok (damage, next) ∧
      Exact (sideAfter initial calls) (previous? calls) f damage := by
  obtain ⟨d, hrun, hd⟩ := run_eq_ok initial hcalls
  obtain ⟨damage, next, hdetect, hexact, -⟩ := hd.detect hf
  exact ⟨d, damage, next, hrun, hdetect, hexact⟩

/-- A picture of three by two pixels with padded rows, of which all pixels but the last one are black. -/
def lastPixel (blue padding : UInt8) : Frame :=
  ⟨3, 2, 14, 0, Bytes.generate 28 fun i => if i = 22 then blue else if 12 ≤ i % 14 then padding else 0⟩

/-- A change of padding alone is not reported, so the frame before it is still the baseline when a pixel changes. -/
theorem detection_is_exact_padding :
    let calls : List Call := [.configure { tileSize := 0 }, .detect (lastPixel 0 0), .detect (lastPixel 0 1)]
    (∀ c ∈ calls, c.WellFormed) ∧ (lastPixel 5 0).WellFormed ∧ (lastPixel 5 0).SameLayout (lastPixel 0 1) ∧
      ¬ (lastPixel 5 0).SamePixels (lastPixel 0 1) ∧
      ∃ d tiles next, (new {}).run calls = .ok d ∧ d.detect (lastPixel 5 0) = .ok (.partly tiles, next) ∧
        tiles.Pairwise Region.Before ∧
          ∀ t, t ∈ tiles ↔ t.IsCell 1 ⟨3, 2⟩ ∧ (lastPixel 5 0).DifferIn (lastPixel 0 1) t := by
  intro calls
  have hcalls : ∀ c ∈ calls, c.WellFormed := by decide
  have hf : (lastPixel 5 0).WellFormed := by decide
  have hlayout : (lastPixel 5 0).SameLayout (lastPixel 0 1) := by decide
  have hpixel : (lastPixel 5 0).pixel 2 1 ≠ (lastPixel 0 1).pixel 2 1 := by decide +kernel
  have hdiffer : ¬ (lastPixel 5 0).SamePixels (lastPixel 0 1) := fun h => hpixel (h.2 2 (by decide) 1 (by decide))
  obtain ⟨d, damage, next, hrun, hdetect, -, hexact⟩ := detection_is_exact {} hcalls hf
  obtain ⟨tiles, rfl, hbefore, hmem⟩ := (hexact _ rfl hlayout).2 hdiffer
  exact ⟨hcalls, hf, hlayout, hdiffer, d, tiles, next, hrun, hdetect, hbefore, hmem⟩

example : (do
    let d ← (new { tileSize := 2 }).run [.detect (lastPixel 0 0), .detect (lastPixel 0 1)]
    let (damage, _) ← d.detect (lastPixel 5 0)
    return damage) = .ok (.partly [⟨2, 0, 1, 2⟩]) := by decide +kernel

end Detector

end RemoteDesktop
