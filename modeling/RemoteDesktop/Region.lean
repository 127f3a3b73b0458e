import RemoteDesktop.Checked

/-!
# Regions of the screen

A `Region` is a rectangle of pixels whose position and size are words. Its edges are natural numbers:
`left` and `top` belong to the region, `right` and `bottom` do not. A region may reach beyond the
largest word; the operations that need an edge as a word stop with `Fault.overflow` there.
-/

namespace RemoteDesktop

/-- The width and height of a picture, in pixels. -/
structure Size where
  width : UInt32
  height : UInt32
  deriving DecidableEq, Repr, Inhabited

/-- A rectangle of pixels. -/
structure Region where
  /-- Pixels from the left edge of the screen. -/
  x : UInt32
  /-- Pixels from the top edge of the screen. -/
  y : UInt32
  width : UInt32
  height : UInt32
  deriving DecidableEq, Repr, Inhabited

namespace Region

/-- The whole of a picture. -/
def whole (size : Size) : Region := ⟨0, 0, size.width, size.height⟩

/-- The first column of the region. -/
def left (r : Region) : Nat := r.x.toNat

/-- The first row of the region. -/
def top (r : Region) : Nat := r.y.toNat

/-- The first column to the right of the region. -/
def right (r : Region) : Nat := r.x.toNat + r.width.toNat

/-- The first row below the region. -/
def bottom (r : Region) : Nat := r.y.toNat + r.height.toNat

/-- The number of pixels in the region. -/
def area (r : Region) : Nat := r.width.toNat * r.height.toNat

/-- Column `px` of row `py` belongs to the region. -/
def Contains (r : Region) (px py : Nat) : Prop :=
  r.left ≤ px ∧ px < r.right ∧ r.top ≤ py ∧ py < r.bottom

instance (r : Region) (px py : Nat) : Decidable (r.Contains px py) :=
  inferInstanceAs (Decidable (_ ∧ _))

/-- Both far edges of the region are words. -/
def Fits (r : Region) : Prop := r.right < 0x1_0000_0000 ∧ r.bottom < 0x1_0000_0000

instance (r : Region) : Decidable r.Fits := inferInstanceAs (Decidable (_ ∧ _))

/-- The smallest region around two regions. -/
def union (a b : Region) : Checked Region := do
  let aRight ← Word.add a.x a.width
  let bRight ← Word.add b.x b.width
  let aBottom ← Word.add a.y a.height
  let bBottom ← Word.add b.y b.height
  let x := min a.x b.x
  let y := min a.y b.y
  return ⟨x, y, max aRight bRight - x, max aBottom bBottom - y⟩

/-- The distance between two stretches of a line, each given by its start and length; zero if they
meet. -/
def gap (aStart aLength bStart bLength : UInt32) : Checked UInt32 := do
  let aEnd ← Word.add aStart aLength
  let bEnd ← Word.add bStart bLength
  return if aEnd ≤ bStart then bStart - aEnd else if bEnd ≤ aStart then aStart - bEnd else 0

/-- Whether neither the horizontal nor the vertical distance of two regions exceeds `distance`. The
vertical distance is computed only when the horizontal one is small enough. -/
def isNear (distance : UInt32) (a b : Region) : Checked Bool := do
  if (← gap a.x a.width b.x b.width) ≤ distance then
    return decide ((← gap a.y a.height b.y b.height) ≤ distance)
  else
    return false

end Region

end RemoteDesktop
