import RemoteDesktop.Frame
import RemoteDesktop.Region.Grid
import RemoteDesktop.Damage.Share

/-!
# Damage detection

A `Detector` remembers the last frame and says what the next one changed: everything, nothing, or the
tiles of a grid in which some pixel differs. The comparison looks at visible pixels only, row by row
and tile by tile; the padding of a row plays no part.
-/

namespace RemoteDesktop

/-- What changed between two frames. -/
inductive Damage where
  /-- There is nothing to compare with: the first frame, or the layout changed. -/
  | full
  /-- The changed tiles, row by row. -/
  | partly (tiles : List Region)
  /-- The frame shows what the last one showed. -/
  | unchanged
  deriving DecidableEq, Repr

namespace Damage

/-- How frames are compared. -/
structure Settings where
  /-- Side of a tile in pixels. -/
  tileSize : UInt32 := 64
  /-- The distance up to which changed tiles may be joined. -/
  mergeDistance : UInt32 := 32
  deriving DecidableEq, Repr, Inhabited

/-- The settings with tiles of at least one pixel. -/
def Settings.normal (s : Settings) : Settings :=
  { s with tileSize := if s.tileSize = 0 then 1 else s.tileSize }

/-- Totals over the frames a detector has seen. They have no bound: 2⁶⁴ pixels are more than any detector
sees. -/
structure Stats where
  processed : Nat := 0
  /-- Frames that changed nothing. -/
  skipped : Nat := 0
  full : Nat := 0
  partly : Nat := 0
  /-- Pixels reported as changed. -/
  damageArea : Nat := 0
  /-- Pixels seen. -/
  frameArea : Nat := 0
  deriving DecidableEq, Repr, Inhabited

/-- The share of the pixels seen that were not reported, in percent; zero if none were seen. -/
def Stats.savedPercent (s : Stats) : Rat := sharePercent s.damageArea s.frameArea

/-- The width, height and stride of a frame. -/
structure Layout where
  size : Size
  stride : UInt32
  deriving DecidableEq, Repr, Inhabited

/-- The layout of a frame. -/
def Layout.of (f : Frame) : Layout := ⟨f.size, f.stride⟩

end Damage

/-- Compares each frame with the one before. -/
structure Detector where
  settings : Damage.Settings
  /-- The bytes of the last frame that changed something. -/
  baseline : ByteArray
  /-- The layout of the last frame. -/
  layout : Option Damage.Layout
  /-- The next frame is to be reported in full. -/
  invalidated : Bool
  stats : Damage.Stats

namespace Detector

open Damage

/-- A detector that has seen nothing. -/
def new (settings : Settings) : Detector :=
  ⟨settings.normal, ByteArray.empty, none, true, {}⟩

/-- Whether two buffers differ on `length` bytes from `start` on. -/
def stretchDiffers (current baseline : ByteArray) (start length : Nat) : Checked Bool :=
  if start + length ≤ current.size ∧ start + length ≤ baseline.size then
    .ok !(Bytes.agreeOn current baseline start length)
  else .error .outOfBounds

/-- Whether two buffers differ in one of `rows` stretches that lie `stride` bytes apart. -/
def rowsDiffer (current baseline : ByteArray) (stride length start : Nat) :
    (rows : Nat) → Checked Bool
  | 0 => .ok false
  | rows + 1 => do
    if ← stretchDiffers current baseline start length then
      return true
    else
      rowsDiffer current baseline stride length (start + stride) rows

/-- Whether a frame differs from the baseline inside a tile. -/
def tileDiffers (current baseline : ByteArray) (stride : UInt32) (tile : Region) : Checked Bool := do
  let start ← Word.mul tile.x 4
  let length ← Word.mul tile.width 4
  let _ ← Word.add tile.y tile.height
  rowsDiffer current baseline stride.toNat length.toNat
    (tile.y.toNat * stride.toNat + start.toNat) tile.height.toNat

/-- The tiles in which a frame differs from the baseline. -/
def changedTiles (current baseline : ByteArray) (stride : UInt32) :
    (tiles : List Region) → Checked (List Region)
  | [] => .ok []
  | tile :: tiles => do
    let differs ← tileDiffers current baseline stride tile
    let rest ← changedTiles current baseline stride tiles
    return if differs then tile :: rest else rest

/-- Compare a frame with the one before, and remember it. -/
def detect (d : Detector) (f : Frame) : Checked (Damage × Detector) := do
  let layout := Layout.of f
  let area := f.width.toNat * f.height.toNat
  let seen := { d.stats with
    processed := d.stats.processed + 1
    frameArea := d.stats.frameArea + area }
  let next := { d with layout := some layout, invalidated := false }
  if d.invalidated ∨ d.layout ≠ some layout then
    return (.full, { next with
      baseline := f.data
      stats := { seen with full := seen.full + 1, damageArea := seen.damageArea + area } })
  else
    let tiles ← Region.cutGrid d.settings.tileSize f.size
    let changed ← changedTiles f.data d.baseline f.stride tiles
    if changed.isEmpty then
      return (.unchanged, { next with stats := { seen with skipped := seen.skipped + 1 } })
    else
      return (.partly changed, { next with
        baseline := f.data
        stats := { seen with
          partly := seen.partly + 1
          damageArea := seen.damageArea + changed.foldr (fun r n => r.area + n) 0 } })

/-- Report the next frame in full. -/
def invalidate (d : Detector) : Detector := { d with invalidated := true }

/-- Use other settings from the next frame on, which is reported in full. The totals stay. -/
def configure (settings : Settings) (d : Detector) : Detector :=
  { new settings with stats := d.stats }

end Detector

end RemoteDesktop
