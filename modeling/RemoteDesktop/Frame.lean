import RemoteDesktop.Bytes
import RemoteDesktop.Region

/-!
# Frames

A `Frame` is a picture of the desktop in memory: rows of `stride` bytes, each of which starts with
`width` pixels of four bytes and ends with padding. `WellFormed` is what `configure` establishes and
every operation but `ensureCapacity` keeps: the buffer holds exactly `height` rows, and a row holds
`width` pixels.
-/

namespace RemoteDesktop

/-- The number of bytes of one pixel: blue, green, red, alpha. -/
def bytesPerPixel : Nat := 4

/-- The four bytes of a pixel. -/
structure Colour where
  blue : UInt8
  green : UInt8
  red : UInt8
  alpha : UInt8
  deriving DecidableEq, Repr, Inhabited

namespace Colour

/-- The byte of a colour at position `i` of its pixel. -/
def byte (c : Colour) (i : Nat) : UInt8 :=
  match i with
  | 0 => c.blue
  | 1 => c.green
  | 2 => c.red
  | _ => c.alpha

end Colour

/-- A picture in memory. -/
structure Frame where
  /-- Width in pixels. -/
  width : UInt32
  /-- Height in pixels. -/
  height : UInt32
  /-- Bytes from one row to the next. -/
  stride : UInt32
  /-- When the picture was taken, in nanoseconds on the caller's clock. -/
  timestamp : Nat
  /-- The rows, one after the other. -/
  data : ByteArray
  deriving DecidableEq, Inhabited

/-- Why a frame cannot take a geometry. -/
inductive FrameError where
  /-- The buffer could not be allocated. -/
  | allocation (size : Nat)
  /-- The stride cannot hold a full row of pixels. -/
  | invalidStride (width stride : UInt32)
  /-- The bytes of a row, or of the frame, cannot be counted. -/
  | overflow (width height stride : UInt32)
  deriving DecidableEq, Repr

namespace FrameError

/-- The wording of a frame error. -/
def message : FrameError → String
  | allocation size => s!"failed to allocate {size} bytes for frame buffer"
  | invalidStride width stride => s!"stride {stride} is too small for a row of {width} pixels"
  | overflow width height stride => s!"frame geometry {width}x{height} (stride {stride}) overflows"

end FrameError

/-- The memory frames are allocated from: which requests, in bytes, it grants. -/
abbrev Memory := Nat → Bool

/-- Memory that grants every request below a limit. -/
def Memory.below (limit : Nat) : Memory := fun size => decide (size < limit)

namespace Frame

/-- The frame without pixels. -/
def empty (timestamp : Nat) : Frame := ⟨0, 0, 0, timestamp, ByteArray.empty⟩

/-- The width and height of the frame. -/
def size (f : Frame) : Size := ⟨f.width, f.height⟩

/-- The bytes of one row that hold pixels. -/
def rowLength (f : Frame) : Nat := f.width.toNat * bytesPerPixel

/-- The buffer holds exactly the rows of the frame, and a row holds its pixels. -/
def WellFormed (f : Frame) : Prop :=
  f.data.size = f.stride.toNat * f.height.toNat ∧ f.rowLength ≤ f.stride.toNat

instance (f : Frame) : Decidable f.WellFormed := inferInstanceAs (Decidable (_ ∧ _))

/-- Make the buffer `size` bytes long. A buffer of that length is kept; any other is replaced by
zeros. -/
def ensureCapacity (memory : Memory) (size : Nat) (f : Frame) : Except FrameError Frame :=
  if f.data.size = size then .ok f
  else if memory size then .ok { f with data := Bytes.zeros size }
  else .error (.allocation size)

/-- Give the frame a geometry and a timestamp. The bytes are kept if their number does not change. -/
def configure (memory : Memory) (width height stride : UInt32) (timestamp : Nat) (f : Frame) :
    Except FrameError Frame :=
  if 0x1_0000_0000 ≤ width.toNat * bytesPerPixel then .error (.overflow width height stride)
  else if stride.toNat < width.toNat * bytesPerPixel then .error (.invalidStride width stride)
  else do
    let f ← f.ensureCapacity memory (stride.toNat * height.toNat)
    return { f with width, height, stride, timestamp }

/-- Paint every pixel of the frame; the padding keeps its bytes. -/
def fill (colour : Colour) (f : Frame) : Frame :=
  let stride := f.stride.toNat
  let rows := f.data.size / stride
  { f with data := Bytes.generate f.data.size fun i =>
      if i / stride < rows ∧ i % stride < f.rowLength then colour.byte (i % stride % bytesPerPixel)
      else Bytes.byteAt f.data i }

/-- A frame without padding in a single colour. -/
def solid (memory : Memory) (width height : UInt32) (colour : Colour) (timestamp : Nat) :
    Except FrameError Frame :=
  if 0x1_0000_0000 ≤ width.toNat * bytesPerPixel then
    .error (.overflow width height (UInt32.ofNat (0x1_0000_0000 - 1)))
  else do
    let f ← (Frame.empty timestamp).configure memory width height (width * 4) timestamp
    return f.fill colour

/-- The buffer with one pixel painted. -/
def paintPixel (data : ByteArray) (start : Nat) (colour : Colour) : ByteArray :=
  bytesPerPixel.fold (fun i _ data => data.set! (start + i) (colour.byte i)) data

/-- Paint the part of a region that lies inside the frame. -/
def paint (region : Region) (colour : Colour) (f : Frame) : Frame :=
  let columns := min region.right f.width.toNat - region.left
  let rows := min region.bottom f.height.toNat - region.top
  { f with data := rows.fold (fun row _ data =>
      columns.fold (fun column _ data =>
        paintPixel data ((region.top + row) * f.stride.toNat + (region.left + column) * bytesPerPixel)
          colour) data) f.data }

/-- The pixel bytes of row `y`, without its padding. -/
def row (f : Frame) (y : Nat) : Checked ByteArray :=
  Bytes.slice f.data (y * f.stride.toNat) f.rowLength

/-- Overwrite bytes from position `start` on; the length of the buffer does not change. -/
def write (start : Nat) (bytes : ByteArray) (f : Frame) : Checked Frame :=
  if start + bytes.size ≤ f.data.size then
    .ok { f with data := Bytes.generate f.data.size fun i =>
      if start ≤ i ∧ i < start + bytes.size then Bytes.byteAt bytes (i - start)
      else Bytes.byteAt f.data i }
  else .error .outOfBounds

/-- Both frames have the same width, height and stride. -/
def SameLayout (f g : Frame) : Prop :=
  f.width = g.width ∧ f.height = g.height ∧ f.stride = g.stride

instance (f g : Frame) : Decidable (f.SameLayout g) := inferInstanceAs (Decidable (_ ∧ _ ∧ _))

/-- The pixel in column `x` of row `y`. -/
def pixel (f : Frame) (x y : Nat) : Colour :=
  let start := y * f.stride.toNat + x * bytesPerPixel
  ⟨Bytes.byteAt f.data start, Bytes.byteAt f.data (start + 1), Bytes.byteAt f.data (start + 2),
    Bytes.byteAt f.data (start + 3)⟩

/-- The rows of a region, without anything between them. -/
def packRows (f : Frame) (start length y : Nat) : (rows : Nat) → ByteArray → Checked ByteArray
  | 0, out => .ok out
  | rows + 1, out => do
    let row ← f.row y
    let bytes ← Bytes.slice row start length
    packRows f start length (y + 1) rows (out ++ bytes)

/-- The pixels of a region, row by row, without padding. -/
def pack (f : Frame) (r : Region) : Checked ByteArray := do
  let length ← Word.mul r.width 4
  let start ← Word.mul r.x 4
  let _ ← Word.add r.y r.height
  f.packRows start.toNat length.toNat r.y.toNat r.height.toNat ByteArray.empty

/-- A one-line description of the frame. -/
def describe (f : Frame) : String :=
  s!"Frame \x7b width: {f.width}, height: {f.height}, stride: {f.stride}, len: {f.data.size} \x7d"

end Frame

end RemoteDesktop
