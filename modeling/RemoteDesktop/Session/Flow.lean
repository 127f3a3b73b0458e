import RemoteDesktop.Session.Pipeline

/-!
# The flow of updates

From the encoder to the viewer an update passes through the pump, which runs on its own, and a channel
of bounded length, which the session empties. This module says how pump and session may take turns,
over all the pipelines that serve one viewer, in this process and in those that take the session over.

Each constructor of `Flow.Step` is an action of the pump or of the session that nothing can interrupt. A
session that is to be given away stops the capture, writes what is still in the channel while the pump
comes to its end, and then takes the connection off its stream. A pipeline that starts after that goes on
numbering where the old one stopped: here, if the connection stays or comes back, or in another process.
That process starts its pipeline before it answers; if it cannot answer, the pipeline is given up and
nothing of it reaches the viewer. Which of the two processes goes on is settled elsewhere.

`written`, `made` and `starts` record what the viewer received, what the running pipeline has made, and when
pipelines started; no action looks at them.
-/

namespace RemoteDesktop

namespace Flow

/-- Where the pump stands. -/
inductive PumpPlace where
  /-- It looks for a frame. -/
  | looking
  /-- It has taken a frame. -/
  | busy (frame : Frame)
  /-- It waits for room in the channel. -/
  | holding (update : Update)
  | ended
  deriving DecidableEq

/-- The update that the pump holds, if it holds one. -/
def PumpPlace.held : PumpPlace → List Update
  | holding update => [update]
  | looking | busy _ | ended => []

/-- Where the session stands. -/
inductive Phase where
  | serving
  /-- The capture has stopped; the rest of the updates is written. -/
  | flushing
  /-- The pipeline has stopped; the connection is still on its stream. -/
  | paused (settings : SessionSettings)
  /-- The connection is off its stream. -/
  | detached (settings : SessionSettings)
  /-- Another process has started a pipeline, and has not answered yet. -/
  | offered (settings : SessionSettings)
  /-- The viewer is served no more. -/
  | closed
  deriving DecidableEq

/-- The pipeline captures the desktop. -/
def Phase.captures : Phase → Bool
  | serving | offered _ => true
  | flushing | paused _ | detached _ | closed => false

end Flow

/-- The updates of one viewer on their way. -/
structure Flow (σ : Type) where
  encoder : Encoder σ
  settings : SessionSettings
  pump : Flow.PumpPlace := .looking
  /-- The number of updates that the channel holds. -/
  capacity : Nat
  /-- The updates in the channel, oldest first. -/
  channel : List Update := []
  phase : Flow.Phase := .serving
  /-- All updates the viewer has received, oldest first. -/
  written : List Update := []
  /-- All updates the running pipeline has encoded, oldest first. -/
  made : List Update := []
  /-- How many updates the viewer had received when each pipeline started, latest first. -/
  starts : List Nat := [0]

namespace Flow

variable {σ : Type}

/-- The place of the pump after a frame was encoded. A pump that finds its encoder stopped ends, and so
does one that meets a fault. -/
def placeAfter : Except EncoderError (Option Update) → PumpPlace
  | .ok (some update) => .holding update
  | .ok none => .looking
  | .error .notRunning => .ended
  | .error _ => .looking

/-- The flow after the pump has encoded a frame. -/
def encoded (codec : TileCodec σ) (frame : Frame) (f : Flow σ) : Flow σ :=
  match f.encoder.encode codec frame with
  | .ok (result, encoder) =>
    { f with encoder, pump := placeAfter result, made := f.made ++ (placeAfter result).held }
  | .error _ => { f with pump := .ended }

/-- The settings from which the next pipeline starts. -/
def finalSettings (f : Flow σ) : SessionSettings :=
  { f.settings with nextSequence := f.encoder.nextSequence }

/-- The flow after the pipeline has stopped. -/
def paused (f : Flow σ) : Flow σ :=
  { f with encoder := f.encoder.stop, phase := .paused f.finalSettings }

/-- The flow through a pipeline that has just started. -/
def started (encoder : Encoder σ) (settings : SessionSettings) (capacity : Nat) (phase : Phase)
    (f : Flow σ) : Flow σ where
  encoder
  settings
  capacity
  phase
  written := f.written
  starts := f.written.length :: f.starts

/-- The flow after the running pipeline was given up with all it has made. -/
def givenUp (settings : SessionSettings) (f : Flow σ) : Flow σ :=
  { f with
    encoder := f.encoder.stop
    pump := .ended
    channel := []
    made := []
    phase := .detached settings }

/-- The flow through the first pipeline of a viewer. -/
def initial (encoder : Encoder σ) (settings : SessionSettings) (capacity : Nat) : Flow σ :=
  { encoder, settings, capacity }

/-- A single action. -/
inductive Step (codec : TileCodec σ) : Flow σ → Flow σ → Prop where
  /-- The pump takes a frame, as long as there is a capture. -/
  | take {f : Flow σ} (frame : Frame) :
    f.phase.captures = true → f.pump = .looking → Step codec f { f with pump := .busy frame }
  /-- The pump encodes its frame. -/
  | encode {f : Flow σ} {frame : Frame} : f.pump = .busy frame → Step codec f (f.encoded codec frame)
  /-- The pump puts its update into the channel. -/
  | put {f : Flow σ} {update : Update} :
    f.pump = .holding update → f.channel.length < f.capacity →
      Step codec f { f with pump := .looking, channel := f.channel ++ [update] }
  /-- The pump finds that the capture has stopped, or has broken down. -/
  | finish {f : Flow σ} : f.pump = .looking → Step codec f { f with pump := .ended }
  /-- The session writes an update to the viewer. -/
  | write {f : Flow σ} {update : Update} {rest : List Update} :
    f.phase = .serving ∨ f.phase = .flushing → f.channel = update :: rest →
      Step codec f { f with channel := rest, written := f.written ++ [update] }
  /-- The session makes the next update a full one. -/
  | refresh {f : Flow σ} :
    f.phase = .serving → Step codec f { f with encoder := f.encoder.invalidate }
  /-- The session changes the size of the picture. -/
  | resize {f : Flow σ} (size : Size) :
    f.phase = .serving →
      Step codec f
        { f with
          settings := Pipeline.resized f.settings size
          encoder := f.encoder.setOptions (Pipeline.resized f.settings size).encoderOptions }
  /-- The session is to be given away, but its stream is bound to this process. -/
  | stay {f : Flow σ} : f.phase = .serving → Step codec f f
  /-- The session is to be given away, and stops the capture. -/
  | leave {f : Flow σ} : f.phase = .serving → Step codec f { f with phase := .flushing }
  /-- The pump has ended and all updates are written; the pipeline stops. -/
  | pause {f : Flow σ} :
    f.phase = .flushing → f.pump = .ended → f.channel = [] → Step codec f f.paused
  /-- The connection leaves its stream. -/
  | detach {f : Flow σ} {settings : SessionSettings} :
    f.phase = .paused settings → Step codec f { f with phase := .detached settings }
  /-- The connection cannot leave its stream, or the other process does not take it. The session goes on here
  with a new pipeline, at the size that the desktop has room for. -/
  | resume {f : Flow σ} {settings : SessionSettings} (plan : SessionPlan) (size : Size) (capacity : Nat)
      (codecState : σ) {encoder : Encoder σ} :
    f.phase = .paused settings ∨ f.phase = .detached settings →
      (Pipeline.newEncoder plan (Pipeline.resized settings size) codecState).start = .ok encoder →
      Step codec f (f.started encoder (Pipeline.resized settings size) capacity .serving)
  /-- Another process takes the connection and starts a pipeline. -/
  | offer {f : Flow σ} {settings : SessionSettings} (plan : SessionPlan) (size : Size) (capacity : Nat)
      (codecState : σ) {encoder : Encoder σ} :
    f.phase = .detached settings →
      (Pipeline.newEncoder plan (Pipeline.resized settings size) codecState).start = .ok encoder →
      Step codec f (f.started encoder (Pipeline.resized settings size) capacity (.offered settings))
  /-- The other process answers that the session goes on there. -/
  | accept {f : Flow σ} {settings : SessionSettings} :
    f.phase = .offered settings → Step codec f { f with phase := .serving }
  /-- The other process cannot answer, and gives its pipeline up. -/
  | abort {f : Flow σ} {settings : SessionSettings} :
    f.phase = .offered settings → Step codec f (f.givenUp settings)
  /-- The viewer leaves, a write fails, or no pipeline can be started. -/
  | close {f : Flow σ} : Step codec f { f with phase := .closed }

/-- Any number of actions. -/
inductive Run (codec : TileCodec σ) : Flow σ → Flow σ → Prop where
  | refl (f : Flow σ) : Run codec f f
  | tail {f g h : Flow σ} : Run codec f g → Step codec g h → Run codec f h

end Flow

end RemoteDesktop
