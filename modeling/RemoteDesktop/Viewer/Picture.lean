import RemoteDesktop.Lz4.Block
import RemoteDesktop.Update

/-!
# What the viewer shows

A viewer keeps a picture and paints the rectangles of each update on it. A full update starts a new
picture of the size it names; what its rectangles leave out keeps the old colours.
-/

namespace RemoteDesktop

/-- The pixels of a rectangle, unpacked if the mode says that they are packed. -/
def Rect.pixels (mode : Mode) (r : Rect) : Except Lz4.BlockError ByteArray :=
  match mode with
  | .raw => .ok r.data
  | .rfx => Lz4.unpack r.data

/-- A picture: its size, and the colour of each pixel. -/
structure Picture where
  size : Size
  pixel : Nat → Nat → Colour

namespace Picture

/-- The colour that the pixels of a region give to column `x` of row `y`. -/
def colourIn (region : Region) (pixels : ByteArray) (x y : Nat) : Colour :=
  let start := ((y - region.top) * region.width.toNat + (x - region.left)) * bytesPerPixel
  ⟨Bytes.byteAt pixels start, Bytes.byteAt pixels (start + 1), Bytes.byteAt pixels (start + 2),
    Bytes.byteAt pixels (start + 3)⟩

/-- The picture with a region painted over. -/
def paint (region : Region) (pixels : ByteArray) (p : Picture) : Picture :=
  { p with pixel := fun x y =>
      if region.Contains x y then colourIn region pixels x y else p.pixel x y }

/-- Paint rectangles, one after the other. -/
def paintAll (mode : Mode) : List Rect → Picture → Except Lz4.BlockError Picture
  | [], p => .ok p
  | r :: rects, p => do
    let pixels ← r.pixels mode
    paintAll mode rects (p.paint r.region pixels)

/-- The picture after an update. -/
def apply (u : Update) (p : Picture) : Except Lz4.BlockError Picture :=
  paintAll u.mode u.rects (match u.kind with | .full => { p with size := u.size } | .diff => p)

/-- The picture is the one of a frame: it has the same size and the same visible pixels. -/
def Shows (p : Picture) (f : Frame) : Prop :=
  p.size = f.size ∧ ∀ x < f.width.toNat, ∀ y < f.height.toNat, p.pixel x y = f.pixel x y

end Picture

end RemoteDesktop
