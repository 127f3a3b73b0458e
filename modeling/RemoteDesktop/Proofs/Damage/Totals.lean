import Mathlib.Algebra.Order.BigOperators.Group.List
import RemoteDesktop.Proofs.Damage.Exact
import RemoteDesktop.Proofs.Damage.Share
import RemoteDesktop.Proofs.Region.Area

/-!
# Totals are consistent

The totals of a detector are those of its sightings, and every report of tiles is one of tiles that lie in the frame and
share no pixel (`Accounts`). Each call keeps this, so a run of calls does (`Accounts.watch`). A report of such tiles never
counts more pixels than were seen, and as many only if it names them all (`Sighting.Tiled.reported_le`,
`Sighting.Tiled.reported_eq_iff`); the sums over all sightings compare in the same way.

Main statement: `totals_are_consistent`.
-/

namespace RemoteDesktop

/-- Of sums that compare term by term, the totals agree exactly if all terms do. -/
theorem sum_map_eq_iff_of_le {α : Type} {as : List α} {f g : α → Nat} (h : ∀ a ∈ as, f a ≤ g a) :
    (as.map f).sum = (as.map g).sum ↔ ∀ a ∈ as, f a = g a := by
  constructor
  · intro heq a ha
    refine (h a ha).antisymm (Nat.le_of_not_lt fun hlt => ?_)
    exact (List.sum_lt_sum f g h ⟨a, ha, hlt⟩).ne heq
  · intro hall
    rw [List.map_congr_left hall]

namespace Damage

/-! ### One sighting -/

namespace Sighting

/-- How many pixels the report counts. -/
def reported (s : Sighting) : Nat :=
  match s.damage with
  | .full => s.area
  | .partly tiles => (tiles.map Region.area).sum
  | .unchanged => 0

/-- If tiles are reported, they lie in the frame and share no pixel. -/
def Tiled (s : Sighting) : Prop :=
  ∀ tiles, s.damage = .partly tiles → (∀ t ∈ tiles, t.Inside s.frame.size) ∧ tiles.Pairwise Region.Apart

variable {s : Sighting}

/-- Some of the tiles of a grid over the frame are such tiles. -/
theorem Tiled.of_sublist {side : UInt32} (hs : 0 < side.toNat)
    (h : ∀ tiles, s.damage = .partly tiles → tiles.Sublist (Region.grid side s.frame.size)) : s.Tiled :=
  fun tiles htiles => ⟨fun _ ht => Region.inside_of_mem_grid hs ((h tiles htiles).subset ht),
    (Region.grid_pairwise_apart side s.frame.size hs).sublist (h tiles htiles)⟩

theorem Tiled.reported_le (h : s.Tiled) : s.reported ≤ s.area := by
  unfold reported
  split
  next => exact Nat.le_refl _
  next tiles hdamage =>
    obtain ⟨hinside, hapart⟩ := h tiles hdamage
    exact Region.sum_area_le hinside hapart
  next => exact Nat.zero_le _

/-- Of a frame without pixels there is nothing to report. -/
theorem whole_of_area_eq_zero (h : s.area = 0) : s.Whole := by
  intro x hx y hy
  have harea : 0 < s.frame.width.toNat * s.frame.height.toNat :=
    Nat.mul_pos (Nat.zero_lt_of_lt hx) (Nat.zero_lt_of_lt hy)
  exact absurd h harea.ne'

/-- As many pixels are reported as were seen exactly if every one was. -/
theorem Tiled.reported_eq_iff (h : s.Tiled) : s.reported = s.area ↔ s.Whole := by
  cases hdamage : s.damage with
  | full =>
    rw [reported, Whole, hdamage]
    exact iff_of_true rfl fun _ _ _ _ => trivial
  | partly tiles =>
    obtain ⟨hinside, hapart⟩ := h tiles hdamage
    rw [reported, Whole, hdamage]
    exact Region.sum_area_eq_iff hinside hapart
  | unchanged =>
    have hreported : s.reported = 0 := by rw [reported, hdamage]
    rw [hreported]
    refine ⟨fun hzero => whole_of_area_eq_zero hzero.symm, fun hwhole => ?_⟩
    by_contra hne
    have hpos : 0 < s.frame.width.toNat * s.frame.height.toNat := Nat.pos_of_ne_zero (Ne.symm hne)
    -- the first pixel was seen, but not reported
    have hfirst : s.damage.Reports 0 0 := hwhole 0 (Nat.pos_of_mul_pos_right hpos) 0 (Nat.pos_of_mul_pos_left hpos)
    rw [hdamage] at hfirst
    exact hfirst

end Sighting

/-! ### Totals of sightings -/

namespace Stats

/-- The totals over some sightings. -/
def of (seen : List Sighting) : Stats where
  processed := seen.length
  skipped := seen.countP fun s => s.damage = .unchanged
  full := seen.countP fun s => s.damage = .full
  partly := seen.countP fun s => s.damage ≠ .unchanged ∧ s.damage ≠ .full
  damageArea := (seen.map Sighting.reported).sum
  frameArea := (seen.map Sighting.area).sum

/-- The totals with one more sighting. -/
theorem of_append_singleton (seen : List Sighting) (s : Sighting) : of (seen ++ [s]) =
    { processed := (of seen).processed + 1
      skipped := (of seen).skipped + if s.damage = .unchanged then 1 else 0
      full := (of seen).full + if s.damage = .full then 1 else 0
      partly := (of seen).partly + if s.damage ≠ .unchanged ∧ s.damage ≠ .full then 1 else 0
      damageArea := (of seen).damageArea + s.reported
      frameArea := (of seen).frameArea + s.area } := by
  simp [of, List.countP_append, List.countP_singleton]

theorem of_processed (seen : List Sighting) :
    (of seen).processed = (of seen).skipped + (of seen).full + (of seen).partly := by
  induction seen using List.reverseRecOn with
  | nil => rfl
  | append_singleton seen s ih =>
    rw [of_append_singleton]
    cases s.damage <;> simp [ih] <;> omega

theorem of_damageArea_le {seen : List Sighting} (h : ∀ s ∈ seen, s.Tiled) : (of seen).damageArea ≤ (of seen).frameArea :=
  List.sum_le_sum fun s hs => (h s hs).reported_le

theorem of_damageArea_eq_iff {seen : List Sighting} (h : ∀ s ∈ seen, s.Tiled) :
    (of seen).damageArea = (of seen).frameArea ↔ ∀ s ∈ seen, 0 < s.area → s.Whole := by
  refine (sum_map_eq_iff_of_le fun s hs => (h s hs).reported_le).trans ?_
  refine forall₂_congr fun s hs => (h s hs).reported_eq_iff.trans ⟨fun hwhole _ => hwhole, fun hwhole => ?_⟩
  rcases Nat.eq_zero_or_pos s.area with hzero | hpos
  · exact Sighting.whole_of_area_eq_zero hzero
  · exact hwhole hpos

end Stats

end Damage

namespace Detector

open Damage

/-! ### What one call does -/

/-- The totals of a detector are those of what it has seen. -/
structure Accounts (seen : List Sighting) (d : Detector) : Prop where
  tile : 0 < d.settings.tileSize.toNat
  stats : d.stats = .of seen
  tiled : ∀ s ∈ seen, s.Tiled

theorem Accounts.new (initial : Settings) : Accounts [] (new initial) :=
  ⟨(Sound.new initial).tile, rfl, by simp⟩

theorem Accounts.invalidate {seen : List Sighting} {d : Detector} (h : Accounts seen d) : Accounts seen d.invalidate :=
  ⟨h.tile, h.stats, h.tiled⟩

theorem Accounts.configure {seen : List Sighting} {d : Detector} (h : Accounts seen d) (settings : Settings) :
    Accounts seen (d.configure settings) :=
  ⟨(Sound.new settings).tile, h.stats, h.tiled⟩

/-- A look at a frame counts as one more sighting. -/
theorem detect_stats {d next : Detector} {f : Frame} {damage : Damage} (h : d.detect f = .ok (damage, next))
    {seen : List Sighting} (hstats : d.stats = .of seen) : next.stats = .of (seen ++ [⟨f, damage⟩]) := by
  rw [Stats.of_append_singleton, ← hstats]
  rw [detect] at h
  split at h
  next =>
    cases h
    rfl
  next =>
    obtain ⟨tiles, -, h⟩ := bind_eq_ok_iff.1 h
    obtain ⟨changed, -, h⟩ := bind_eq_ok_iff.1 h
    have hsum : changed.foldr (fun r n => r.area + n) 0 = (changed.map Region.area).sum := by
      rw [List.sum, List.foldr_map]
    split at h
    next =>
      cases h
      rfl
    next =>
      cases h
      rw [hsum]
      rfl

theorem Accounts.detect {seen : List Sighting} {d next : Detector} (h : Accounts seen d) {f : Frame} {damage : Damage}
    (hdetect : d.detect f = .ok (damage, next)) : Accounts (seen ++ [⟨f, damage⟩]) next := by
  obtain ⟨hsettings, htiles⟩ := detect_settings hdetect
  refine ⟨hsettings ▸ h.tile, detect_stats hdetect h.stats, fun s hs => ?_⟩
  rcases List.mem_append.1 hs with hs | hs
  · exact h.tiled s hs
  · obtain rfl := List.mem_singleton.1 hs
    exact .of_sublist h.tile htiles

/-! ### What a run of calls does -/

theorem watch_detect_eq_ok {d last : Detector} {f : Frame} {calls : List Call} {sightings : List Sighting} :
    d.watch (.detect f :: calls) = .ok (sightings, last) ↔ ∃ damage next rest, d.detect f = .ok (damage, next) ∧
      next.watch calls = .ok (rest, last) ∧ sightings = ⟨f, damage⟩ :: rest := by
  rw [watch]
  constructor
  · intro h
    obtain ⟨⟨damage, next⟩, hdetect, h⟩ := bind_eq_ok_iff.1 h
    obtain ⟨⟨rest, last⟩, hrest, h⟩ := bind_eq_ok_iff.1 h
    cases h
    exact ⟨damage, next, rest, hdetect, hrest, rfl⟩
  · rintro ⟨damage, next, rest, hdetect, hrest, rfl⟩
    exact bind_eq_ok_iff.2 ⟨_, hdetect, bind_eq_ok_iff.2 ⟨_, hrest, rfl⟩⟩

/-- Watching a run does not change where it ends. -/
theorem run_eq_ok_iff {d last : Detector} {calls : List Call} :
    d.run calls = .ok last ↔ ∃ sightings, d.watch calls = .ok (sightings, last) := by
  induction calls generalizing d with
  | nil =>
    constructor
    · intro h
      cases h
      exact ⟨[], rfl⟩
    · rintro ⟨_, h⟩
      cases h
      rfl
  | cons c calls ih =>
    cases c with
    | detect f =>
      constructor
      · intro h
        obtain ⟨next, hnext, h⟩ := bind_eq_ok_iff.1 h
        obtain ⟨⟨damage, _⟩, hdetect, ⟨⟩⟩ := bind_eq_ok_iff.1 hnext
        obtain ⟨rest, hrest⟩ := ih.1 h
        exact ⟨_, watch_detect_eq_ok.2 ⟨damage, _, rest, hdetect, hrest, rfl⟩⟩
      · rintro ⟨_, h⟩
        obtain ⟨damage, next, rest, hdetect, hrest, -⟩ := watch_detect_eq_ok.1 h
        exact bind_eq_ok_iff.2 ⟨next, bind_eq_ok_iff.2 ⟨_, hdetect, rfl⟩, ih.2 ⟨rest, hrest⟩⟩
    | invalidate => exact ih
    | configure settings => exact ih

/-- The frames that were sighted are the frames that were shown. -/
theorem map_frame_of_watch {d last : Detector} {calls : List Call} {sightings : List Sighting}
    (h : d.watch calls = .ok (sightings, last)) : sightings.map Sighting.frame = calls.filterMap Call.shown? := by
  induction calls generalizing d sightings with
  | nil =>
    cases h
    rfl
  | cons c calls ih =>
    cases c with
    | detect f =>
      obtain ⟨damage, next, rest, -, hrest, rfl⟩ := watch_detect_eq_ok.1 h
      rw [List.map_cons, ih hrest]
      rfl
    | invalidate => exact ih h
    | configure settings => exact ih h

theorem Accounts.watch {seen : List Sighting} {d last : Detector} (hd : Accounts seen d) {calls : List Call}
    {sightings : List Sighting} (h : d.watch calls = .ok (sightings, last)) : Accounts (seen ++ sightings) last := by
  induction calls generalizing seen d sightings with
  | nil =>
    cases h
    rwa [List.append_nil]
  | cons c calls ih =>
    cases c with
    | detect f =>
      obtain ⟨damage, next, rest, hdetect, hrest, rfl⟩ := watch_detect_eq_ok.1 h
      rw [List.append_cons]
      exact ih (hd.detect hdetect) hrest
    | invalidate => exact ih hd.invalidate h
    | configure settings => exact ih (hd.configure settings) h

/-- **The totals of a detector are consistent.** No well-formed frame makes it fail, and after whatever calls every frame
shown was counted once, with its area; no more pixels were reported than were seen, and as many exactly if each frame
was reported as a whole; so the share that was saved is a percentage. Other settings change no total. -/
theorem totals_are_consistent (initial : Settings) (calls : List Call) :
    ((∀ c ∈ calls, c.WellFormed) → ∃ sightings d, (new initial).watch calls = .ok (sightings, d)) ∧
      ∀ sightings d, (new initial).watch calls = .ok (sightings, d) →
        sightings.map Sighting.frame = calls.filterMap Call.shown? ∧
        d.stats.processed = sightings.length ∧
        d.stats.processed = d.stats.skipped + d.stats.full + d.stats.partly ∧
        d.stats.frameArea = (sightings.map Sighting.area).sum ∧
        d.stats.damageArea ≤ d.stats.frameArea ∧
        (d.stats.damageArea = d.stats.frameArea ↔ ∀ s ∈ sightings, 0 < s.area → s.Whole) ∧
        (0 ≤ d.stats.savedPercent ∧ d.stats.savedPercent ≤ 100) ∧
        ∀ settings, (d.configure settings).stats = d.stats := by
  constructor
  · intro hcalls
    obtain ⟨d, hrun, -⟩ := run_eq_ok initial hcalls
    obtain ⟨sightings, hwatch⟩ := run_eq_ok_iff.1 hrun
    exact ⟨sightings, d, hwatch⟩
  · intro sightings d hwatch
    obtain ⟨-, hstats, htiled⟩ := (Accounts.new initial).watch hwatch
    rw [List.nil_append] at hstats htiled
    have hle : d.stats.damageArea ≤ d.stats.frameArea := by
      rw [hstats]
      exact Stats.of_damageArea_le htiled
    refine ⟨map_frame_of_watch hwatch, by rw [hstats, Stats.of], ?_, by rw [hstats, Stats.of], hle, ?_,
      sharePercent_bounds hle, fun settings => rfl⟩
    · rw [hstats]
      exact Stats.of_processed sightings
    · rw [hstats]
      exact Stats.of_damageArea_eq_iff htiled

example : (do
    let (_, d) ← (new { tileSize := 2 }).watch
      [.detect (lastPixel 0 0), .detect (lastPixel 0 1), .configure { tileSize := 1 }, .detect (lastPixel 0 1),
        .detect (lastPixel 5 0)]
    return d.stats) = .ok ⟨4, 1, 2, 1, 13, 24⟩ := by decide +kernel

end Detector

end RemoteDesktop
