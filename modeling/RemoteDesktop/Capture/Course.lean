import RemoteDesktop.Capture
import RemoteDesktop.Frame.Queue.History

/-!
# The course of a capture

After its start a capture is shared by its loop, by callers who ask for another geometry, and by consumers, who
look into its queue and give frames back. Each of them does one thing at a time, in any order, so a course is a
list of acts, no matter whose.

The changes of geometry that the loop has tried, each with the answer of the source, are read off a course; no
act looks at them.
-/

namespace RemoteDesktop

/-- A source knows its geometry: a change that succeeds is answered with the geometry in use from then on, and
neither a change that fails nor a picture that is copied changes it. -/
structure CaptureSource.Faithful {σ : Type} (source : CaptureSource σ) : Prop where
  changed (size : Size) (state : σ) (used : Size) :
    (source.reconfigure size state).1 = .ok used → source.geometry (source.reconfigure size state).2 = used
  unchanged (size : Size) (state : σ) (e : CaptureError) :
    (source.reconfigure size state).1 = .error e →
      source.geometry (source.reconfigure size state).2 = source.geometry state
  copied (frame : Frame) (state : σ) : source.geometry (source.grab frame state).2.2 = source.geometry state

namespace Capture

/-- Something that is done to a capture, or by it. -/
inductive Act where
  /-- The next action of the loop. -/
  | loop
  /-- A caller asks for a geometry, while the desktop has the given size. -/
  | setGeometry (desktop size : Size)
  /-- A consumer that waits looks; `timeUp` says whether its time is up. -/
  | look (timeUp : Bool)
  /-- A consumer gives a frame back. -/
  | recycle (frame : Frame)

/-- A change of geometry that the loop has tried. -/
structure Change where
  asked : Size
  answer : Except CaptureError Size

/-- The source has changed to the geometry it was asked for. -/
def Change.Taken (change : Change) : Prop := change.answer = .ok change.asked

namespace Run

variable {σ : Type}

/-- The change that the loop has taken up, and has yet to try. -/
def applying (r : Run σ) : Option Size :=
  match r.phase with
  | .changing size => some size
  | _ => none

/-- No change is pending or being applied. -/
def AtRest (r : Run σ) : Prop := r.pending = none ∧ r.applying = none

/-- What the next action of the loop tries to change. -/
def nextChange (source : CaptureSource σ) (r : Run σ) : Option Change :=
  r.applying.map fun size => ⟨size, (source.reconfigure size r.source).1⟩

/-- The run after somebody did something to its queue. -/
def queued (action : FrameQueue.Action Frame) (r : Run σ) : Run σ := { r with queue := (r.queue.act action).2 }

end Run

variable {σ : Type}

/-- The capture after an act. A request that is refused changes nothing. -/
def act (source : CaptureSource σ) (c : Capture σ) : Act → Capture σ
  | .loop => { c with run := c.run.map (·.step source) }
  | .setGeometry desktop size =>
    match c.setGeometry desktop size with
    | .ok (_, next) => next
    | .error _ => c
  | .look timeUp => { c with run := c.run.map (·.queued (.look timeUp)) }
  | .recycle frame => { c with run := c.run.map (·.queued (.recycle frame)) }

/-- What an act tries to change. -/
def change? (source : CaptureSource σ) (c : Capture σ) : Act → Option Change
  | .loop => c.run.bind (·.nextChange source)
  | .setGeometry .. | .look _ | .recycle _ => none

/-- The capture after some acts. -/
def course (source : CaptureSource σ) (c : Capture σ) : List Act → Capture σ
  | [] => c
  | a :: acts => course source (c.act source a) acts

/-- The changes that the loop tries in the course of some acts, in order. -/
def changes (source : CaptureSource σ) (c : Capture σ) : List Act → List Change
  | [] => []
  | a :: acts => (c.change? source a).toList ++ changes source (c.act source a) acts

end Capture

end RemoteDesktop
