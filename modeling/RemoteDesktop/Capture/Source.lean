import RemoteDesktop.Frame

/-!
# Capture sources

A capture source copies the picture of a desktop into frames of a geometry of its own, which can be
changed. Both operations may fail. The geometry asked for is brought into the desktop first.
-/

namespace RemoteDesktop

/-- A length of at most `limit`; zero asks for all of it. -/
def clampSide (wanted limit : UInt32) : UInt32 := if wanted = 0 then limit else min wanted limit

/-- The size nearest to a requested one that a desktop has room for. -/
def Size.clampTo (desktop requested : Size) : Size :=
  ⟨clampSide requested.width desktop.width, clampSide requested.height desktop.height⟩

/-- Why pictures cannot be captured. -/
inductive CaptureError where
  | alreadyRunning
  | notRunning
  /-- A side of the requested geometry is zero. -/
  | invalidGeometry (size : Size)
  /-- The source could not be opened. -/
  | unavailable (reason : String)
  /-- A single picture could not be copied. -/
  | grab (reason : String)
  | frame (cause : FrameError)
  deriving DecidableEq, Repr

/-- The wording of a capture error. -/
def CaptureError.message : CaptureError → String
  | alreadyRunning => "capture is already running"
  | notRunning => "capture is not running"
  | invalidGeometry size => s!"invalid capture geometry {size.width}x{size.height}"
  | unavailable reason => "capture source unavailable: " ++ reason
  | grab reason => "frame grab failed: " ++ reason
  | frame cause => cause.message

/-- Copies the picture of a desktop, with a state of type `σ`. -/
structure CaptureSource (σ : Type) where
  /-- The geometry of the frames produced. -/
  geometry : σ → Size
  /-- Change the geometry; on success the answer is the one in use from now on. -/
  reconfigure : Size → σ → Except CaptureError Size × σ
  /-- Copy the picture into a frame. A failure may leave the frame half changed. -/
  grab : Frame → σ → Option CaptureError × Frame × σ

end RemoteDesktop
