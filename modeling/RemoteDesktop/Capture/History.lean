import RemoteDesktop.Capture.Course

/-!
# The history of a capture

What the acts of a course do to frames is recorded here, oldest first: the loop copies pictures and offers frames to
the queue, consumers get them, and when a change of geometry is complete no frame waits any more. A history has no
part in what comes next; what follows from it alone is defined here.
-/

namespace RemoteDesktop

/-- A source copies pictures in the geometry it has, and has this geometry until a change succeeds. -/
structure CaptureSource.Steady {σ : Type} (source : CaptureSource σ) : Prop where
  sized (frame : Frame) (state : σ) (copied : Frame) (next : σ) :
    source.grab frame state = (none, copied, next) → copied.size = source.geometry state
  kept (frame : Frame) (state : σ) : source.geometry (source.grab frame state).2.2 = source.geometry state
  unchanged (size : Size) (state : σ) (e : CaptureError) :
    (source.reconfigure size state).1 = .error e →
      source.geometry (source.reconfigure size state).2 = source.geometry state

namespace Capture

/-- What an act did to frames. -/
inductive Event where
  /-- A picture was copied into this frame. -/
  | copied (frame : Frame)
  /-- No picture could be copied. -/
  | missed (cause : CaptureError)
  /-- The loop offered this frame to the queue. -/
  | offered (frame : Frame)
  /-- A consumer got this frame. -/
  | delivered (frame : Frame)
  /-- A change of geometry was complete: the frame that still waited was withdrawn. -/
  | changed
  deriving DecidableEq

/-- It is the loop that acts. -/
def Act.isLoop : Act → Bool
  | loop => true
  | setGeometry .. | look _ | recycle _ => false

namespace Run

variable {σ : Type}

/-- The frame that was copied and is yet to be offered. -/
def inHand (r : Run σ) : Option Frame :=
  match r.phase with
  | .grabbed frame => some frame
  | _ => none

/-- What the next action of the loop does to frames. -/
def nextEvent (source : CaptureSource σ) (r : Run σ) : Option Event :=
  match r.phase with
  | .ready frame =>
    match source.grab frame r.source with
    | (none, frame, _) => some (.copied frame)
    | (some cause, _, _) => some (.missed cause)
  | .grabbed frame => some (.offered frame)
  | .changed => some .changed
  | .idle | .changing _ | .settled => none

end Run

variable {σ : Type}

/-- What an act does to frames. -/
def event? (source : CaptureSource σ) (c : Capture σ) : Act → Option Event
  | .loop => c.run.bind (·.nextEvent source)
  | .look timeUp => c.run.bind fun r => (r.queue.act (.look timeUp)).1.delivered?.map .delivered
  | .setGeometry .. | .recycle _ => none

/-- What some acts do to frames, in order. -/
def history (source : CaptureSource σ) (c : Capture σ) : List Act → List Event
  | [] => []
  | a :: acts => (c.event? source a).toList ++ history source (c.act source a) acts

/-! ### What a history tells -/

namespace Event

def copied? : Event → Option Frame
  | copied frame => some frame
  | _ => none

def missed? : Event → Option CaptureError
  | missed cause => some cause
  | _ => none

def offered? : Event → Option Frame
  | offered frame => some frame
  | _ => none

def delivered? : Event → Option Frame
  | delivered frame => some frame
  | _ => none

end Event

/-- The pictures that were copied. -/
def copied (h : List Event) : List Frame := h.filterMap Event.copied?

/-- Why pictures could not be copied, each time. -/
def missed (h : List Event) : List CaptureError := h.filterMap Event.missed?

/-- The frames that the loop offered. -/
def offered (h : List Event) : List Frame := h.filterMap Event.offered?

/-- The frames that consumers got. -/
def delivered (h : List Event) : List Frame := h.filterMap Event.delivered?

end Capture

end RemoteDesktop
