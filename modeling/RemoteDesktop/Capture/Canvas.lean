import RemoteDesktop.Capture

/-!
# Desktops in memory

A `Canvas` is a desktop that exists in memory only: a picture, and a capture source that copies its
upper left part. It can be told to fail.
-/

namespace RemoteDesktop

/-- A desktop in memory. -/
structure Canvas where
  picture : Frame
  /-- The size of the part that is captured. -/
  captured : Size
  /-- No picture can be copied. -/
  failing : Bool := false
  /-- The geometry cannot be changed. -/
  fixed : Bool := false
  deriving DecidableEq, Inhabited

namespace Canvas

/-- Copies the upper left part of a canvas. -/
def source (memory : Memory) : CaptureSource Canvas where
  geometry canvas := canvas.captured
  reconfigure size canvas :=
    if canvas.fixed then (.error (.unavailable "fixed"), canvas)
    else (.ok size, { canvas with captured := size })
  grab f canvas :=
    if canvas.failing then (some (.grab "failing"), f, canvas)
    else
      match f.configure memory canvas.captured.width canvas.captured.height
        (canvas.captured.width * 4) 0, canvas.picture.pack (Region.whole canvas.captured) with
      | .error e, _ => (some (.frame e), f, canvas)
      | _, .error _ => (some (.grab "out of bounds"), f, canvas)
      | .ok f, .ok data => (none, { f with data }, canvas)

end Canvas

end RemoteDesktop
