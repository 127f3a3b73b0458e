import RemoteDesktop.Capture.Source
import RemoteDesktop.Display.Error

/-!
# Capturing a screen

A capture source that asks a display for the upper left part of its screen. The rows of the image follow
each other without padding; bytes beyond the last row are ignored.
-/

namespace RemoteDesktop

/-- A display whose screen is captured. -/
structure Screen where
  /-- The size of the part that is captured. -/
  captured : Size
  /-- What the display answers when it is asked for an image of a size. -/
  image : Size → Except RequestFailure ByteArray

namespace Screen

/-- The longest side of an image. -/
def maxSide : UInt32 := 65535

/-- An image can have the size. -/
def checkSize (size : Size) : Except CaptureError Unit :=
  if size.width = 0 ∨ size.height = 0 ∨ size.width > maxSide ∨ size.height > maxSide then
    .error (.invalidGeometry size)
  else .ok ()

/-- Begin to capture a part of a screen. -/
def openAt (image : Size → Except RequestFailure ByteArray) (size : Size) :
    Except CaptureError Screen := do
  checkSize size
  return ⟨size, image⟩

/-- The frame that holds an image. -/
def copyImage (memory : Memory) (timestamp : Nat) (size : Size) (image : ByteArray) (f : Frame) :
    Except CaptureError Frame :=
  let stride := size.width * 4
  let length := stride.toNat * size.height.toNat
  if image.size < length then
    .error (.grab s!"short image: {image.size} bytes for {size.width}x{size.height}")
  else
    match f.configure memory size.width size.height stride timestamp with
    | .error e => .error (.frame e)
    | .ok f => .ok { f with data := image.extract 0 length }

/-- Copies the upper left part of a screen. -/
def source (memory : Memory) (timestamp : Nat) : CaptureSource Screen where
  geometry screen := screen.captured
  reconfigure size screen :=
    match checkSize size with
    | .error e => (.error e, screen)
    | .ok () => (.ok size, { screen with captured := size })
  grab f screen :=
    match screen.image screen.captured with
    | .error failure => (some (.grab (DisplayError.request failure).message), f, screen)
    | .ok image =>
      match copyImage memory timestamp screen.captured image f with
      | .error e => (some e, f, screen)
      | .ok f => (none, f, screen)

end Screen

end RemoteDesktop
