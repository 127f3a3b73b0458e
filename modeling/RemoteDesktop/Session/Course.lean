import RemoteDesktop.Capture.Course
import RemoteDesktop.Session

/-!
# The course of a session

While a session deals with what its viewer asks for, the capture loop and the encode pump go on by themselves.
Each of them does one thing at a time, so the course of a session is a list of what happens, no matter whose
doing. The desktop may have another size every time the viewer asks for something, and the injector may answer
differently.
-/

namespace RemoteDesktop.Session

variable {σ γ : Type}

/-- Something that happens while a session runs. -/
inductive Happening where
  | viewer (desktop : Size) (injector : Injector) (event : ViewerEvent)
  /-- The next action of the capture loop. -/
  | loop
  /-- Somebody does something to the queue of captured frames. -/
  | queue (action : FrameQueue.Action Frame)
  /-- The pump has a frame encoded. -/
  | encode (frame : Frame)

/-- The session after a change of its capture's run. -/
def onRun (change : Capture.Run σ → Capture.Run σ) (s : Session σ γ) : Session σ γ :=
  let capture := { s.pipeline.capture with run := s.pipeline.capture.run.map change }
  { s with pipeline := { s.pipeline with capture } }

/-- The session after something has happened. A fault of the encoder ends the pump, and leaves everything as it
was. -/
def after (source : CaptureSource σ) (codec : TileCodec γ) (s : Session σ γ) : Happening → Session σ γ
  | .viewer desktop injector event => s.handle desktop injector event
  | .loop => s.onRun (·.step source)
  | .queue action => s.onRun (·.queued action)
  | .encode frame =>
    match s.pipeline.encoder.encode codec frame with
    | .ok (_, encoder) => { s with pipeline := { s.pipeline with encoder } }
    | .error _ => s

/-- The session after all of some things have happened. -/
def course (source : CaptureSource σ) (codec : TileCodec γ) (s : Session σ γ) (happenings : List Happening) :
    Session σ γ := happenings.foldl (after source codec) s

end RemoteDesktop.Session
