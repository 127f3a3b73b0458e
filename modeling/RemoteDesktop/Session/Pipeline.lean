import RemoteDesktop.Capture
import RemoteDesktop.Input.Dispatcher
import RemoteDesktop.Session.Settings

/-!
# The pipeline of a session

The capture, the encoder and the dispatcher that serve one viewer, with the settings they share. Each
keeps the size of the picture for itself, so starting and resizing set it everywhere, `Agrees`; a
resize that the capture refuses changes nothing.
-/

namespace RemoteDesktop

/-- Why a session could not start. -/
inductive SessionError where
  | capture (cause : CaptureError)
  | input (cause : InputError)
  | encoder (cause : EncoderError)
  deriving DecidableEq, Repr

/-- The wording of a session error. -/
def SessionError.message : SessionError → String
  | capture cause => cause.message
  | input cause => cause.message
  | encoder cause => cause.message

/-- What a session needs of the desktop it shows. -/
structure Desktop (σ : Type) where
  size : Size
  source : CaptureSource σ
  openSource : Size → Except CaptureError σ
  /-- The reason why no injector can be opened, if there is one. -/
  noInjector : Option String := none

/-- What a server gives all its sessions. -/
structure SessionPlan where
  framesPerSecond : UInt32
  /-- The side of the tiles in which changes of plain pixels are found. -/
  pixelTile : UInt32
  deriving DecidableEq, Repr

/-- The parts of a running session. -/
structure Pipeline (σ γ : Type) where
  capture : Capture σ
  encoder : Encoder γ
  dispatcher : Dispatcher
  settings : SessionSettings

namespace Pipeline

variable {σ γ : Type}

/-- The settings with another size. -/
def resized (settings : SessionSettings) (size : Size) : SessionSettings := { settings with size }

/-- An encoder for a session, not started yet. -/
def newEncoder (plan : SessionPlan) (settings : SessionSettings) (codecState : γ) : Encoder γ :=
  ((Encoder.new settings.encoderOptions codecState).setPixelTile plan.pixelTile).setNextSequence
    settings.nextSequence

/-- Start to serve. The desktop is asked for its size twice, `first` and then again with all the rest;
what the capture settles on is the size of the session. -/
def start (plan : SessionPlan) (first : Size) (desktop : Desktop σ) (codecState : γ)
    (settings : SessionSettings) : Except SessionError (Pipeline σ γ) := do
  let wanted := first.clampTo settings.size
  let (size, capture) ← ((Capture.mk plan.framesPerSecond none).start desktop.source
    desktop.openSource desktop.size wanted).mapError .capture
  let dispatcher ← ((Dispatcher.new desktop.size).start desktop.noInjector).mapError .input
  let settings := resized settings size
  let encoder ← ((newEncoder plan settings codecState).start).mapError .encoder
  return { capture, encoder, dispatcher := dispatcher.resize size, settings }

/-- Change the size of the picture. The answer is the size nearest to it that the desktop has. -/
def resize (desktop size : Size) (p : Pipeline σ γ) : Except SessionError (Size × Pipeline σ γ) := do
  let (size, capture) ← (p.capture.setGeometry desktop size).mapError .capture
  let settings := resized p.settings size
  return (size,
    { capture
      encoder := p.encoder.setOptions settings.encoderOptions
      dispatcher := p.dispatcher.resize size
      settings })

/-- The picture has one size: in the settings, in the encoder and in the capture. The pointer moves
within it. -/
def Agrees (p : Pipeline σ γ) : Prop :=
  p.encoder.options = p.settings.encoderOptions ∧ p.capture.geometry = some p.settings.size
    ∧ p.dispatcher.bounds = .ofSize p.settings.size

/-- Stop all parts. The numbering of updates will go on where the encoder stopped. -/
def stop (injector : Injector) (p : Pipeline σ γ) : Pipeline σ γ where
  capture := p.capture.stop
  encoder := p.encoder.stop
  dispatcher := p.dispatcher.stop injector
  settings := { p.settings with nextSequence := p.encoder.nextSequence }

end Pipeline

end RemoteDesktop
