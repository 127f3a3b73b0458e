import RemoteDesktop.Damage

/-!
# The history of a detector

A detector is shown frames, told to report the next one in full, and given other settings, in any order. What its
next report depends on can be told from these calls alone: the frame of the last call, if there is one
(`previous?`), and the tile size that was set last (`sideAfter`). What its totals are about are the frames it was shown
and what it said of each of them, its sightings (`watch`).
-/

namespace RemoteDesktop

/-! ### Sightings -/

namespace Damage

/-- The report names a pixel, in a frame that has this pixel. -/
def Reports : Damage → (x y : Nat) → Prop
  | full, _, _ => True
  | partly tiles, x, y => ∃ tile ∈ tiles, tile.Contains x y
  | unchanged, _, _ => False

/-- A frame that a detector was shown, and what it reported. -/
structure Sighting where
  frame : Frame
  damage : Damage

namespace Sighting

/-- How many pixels were seen. -/
def area (s : Sighting) : Nat := (Region.whole s.frame.size).area

/-- Every pixel that was seen was reported. -/
def Whole (s : Sighting) : Prop :=
  ∀ x < s.frame.width.toNat, ∀ y < s.frame.height.toNat, s.damage.Reports x y

end Sighting

end Damage

/-! ### Calls -/

namespace Detector

open Damage

/-- Something that is done to a detector. -/
inductive Call where
  | detect (f : Frame)
  | invalidate
  | configure (settings : Settings)
  deriving Inhabited

namespace Call

/-- A frame that is shown is well-formed. -/
def WellFormed : Call → Prop
  | detect f => f.WellFormed
  | _ => True

instance : (c : Call) → Decidable c.WellFormed
  | detect f => inferInstanceAs (Decidable f.WellFormed)
  | invalidate | configure _ => .isTrue trivial

/-- The detector after a call. -/
def after (d : Detector) : Call → Checked Detector
  | detect f => return (← d.detect f).2
  | invalidate => return d.invalidate
  | configure settings => return d.configure settings

/-- The frame that is shown. -/
def shown? : Call → Option Frame
  | detect f => some f
  | _ => none

/-- The settings from now on. -/
def settings? : Call → Option Settings
  | configure settings => some settings
  | _ => none

end Call

/-- The detector after some calls. -/
def run (d : Detector) (calls : List Call) : Checked Detector := calls.foldlM Call.after d

/-- The sightings of some calls, and the detector after them. -/
def watch (d : Detector) : List Call → Checked (List Sighting × Detector)
  | [] => .ok ([], d)
  | .detect f :: calls => do
    let (damage, next) ← d.detect f
    let (sightings, last) ← next.watch calls
    return (⟨f, damage⟩ :: sightings, last)
  | .invalidate :: calls => d.invalidate.watch calls
  | .configure settings :: calls => (d.configure settings).watch calls

/-! ### What the calls tell -/

/-- The frame shown last, unless the detector was invalidated or got other settings since. -/
def previous? (calls : List Call) : Option Frame := calls.getLast?.bind Call.shown?

/-- The side of a tile after some calls to a detector with given settings. -/
def sideAfter (initial : Settings) (calls : List Call) : Nat :=
  max 1 ((calls.filterMap Call.settings?).getLastD initial).tileSize.toNat

end Detector

end RemoteDesktop
