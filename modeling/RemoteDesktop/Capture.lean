import RemoteDesktop.Capture.Source
import RemoteDesktop.Frame.Queue

/-!
# Capture

A `Capture` runs a loop that copies the desktop into frames and offers them to a queue. The loop and the
callers of the capture act in turns in any order; each constructor of `Capture.Phase` is a point of the
loop between two of its actions. A change of geometry is only noted when it is asked for, and applied
by the loop before its next picture. The geometry that a capture reports is the one noted last.

A turn of the loop takes up a pending change, applies it and withdraws the frame still waiting, then
copies a picture into a spare, a returned or a new frame, and offers it. Failures do not end the loop.
-/

namespace RemoteDesktop

namespace Capture

/-- Where the loop stands. -/
inductive Phase where
  /-- At the start of a turn. -/
  | idle
  /-- A change of geometry has been taken up. -/
  | changing (size : Size)
  /-- The source has changed its geometry; the waiting frame is still the old one. -/
  | changed
  /-- There is nothing to change, any more. -/
  | settled
  /-- A frame is at hand for the next picture. -/
  | ready (frame : Frame)
  /-- A picture has been copied. -/
  | grabbed (frame : Frame)
  deriving DecidableEq

/-- A running capture. -/
structure Run (σ : Type) where
  source : σ
  queue : FrameQueue Frame := {}
  /-- A change of geometry that the loop has not taken up. -/
  pending : Option Size := none
  /-- The geometry reported. -/
  geometry : Size
  /-- A frame the loop has at hand. -/
  spare : Option Frame := none
  phase : Phase := .idle
  /-- Pictures copied. Neither this number nor the next has a bound, as no capture copies 2⁶⁴ pictures. -/
  frames : Nat := 0
  /-- Pictures that could not be copied. -/
  failures : Nat := 0

namespace Run

variable {σ : Type}

/-- The next action of the loop. -/
def step (source : CaptureSource σ) (r : Run σ) : Run σ :=
  match r.phase with
  | .idle =>
    match r.pending with
    | some size => { r with pending := none, phase := .changing size }
    | none => { r with phase := .settled }
  | .changing size =>
    match source.reconfigure size r.source with
    | (.ok _, state) => { r with source := state, phase := .changed }
    | (.error _, state) => { r with source := state, phase := .settled }
  | .changed => { r with queue := r.queue.reset, phase := .settled }
  | .settled =>
    match r.spare with
    | some frame => { r with spare := none, phase := .ready frame }
    | none =>
      let (returned, queue) := r.queue.takeRecycled
      { r with queue, phase := .ready (returned.getD (Frame.empty 0)) }
  | .ready frame =>
    match source.grab frame r.source with
    | (none, frame, state) =>
      { r with source := state, frames := r.frames + 1, phase := .grabbed frame }
    | (some _, frame, state) =>
      { r with source := state, failures := r.failures + 1, spare := some frame, phase := .idle }
  | .grabbed frame =>
    let (displaced, queue) := r.queue.push frame
    { r with queue, spare := displaced, phase := .idle }

/-- The actions of the loop up to the start of the next turn: at most six. -/
def turn (source : CaptureSource σ) (r : Run σ) : Run σ :=
  finish 6 (r.step source)
where
  /-- Go on for at most the given number of actions. -/
  finish : Nat → Run σ → Run σ
    | 0, r => r
    | actions + 1, r =>
      match r.phase with
      | .idle => r
      | _ => finish actions (r.step source)

end Run

end Capture

/-- Captures a desktop, while it has a run. -/
structure Capture (σ : Type) where
  /-- The pictures wanted per second; zero counts as one. -/
  framesPerSecond : UInt32
  run : Option (Capture.Run σ) := none

namespace Capture

variable {σ : Type}

/-- The capture is running. -/
def isRunning (c : Capture σ) : Bool := c.run.isSome

/-- The time from one picture to the next, in nanoseconds. -/
def interval (c : Capture σ) : Nat := 1000000000 / max 1 c.framesPerSecond.toNat

/-- A side is zero. -/
def isEmptySize (size : Size) : Bool := size.width == 0 || size.height == 0

/-- Start to capture a part of the desktop. `openSource` opens a source for a geometry. -/
def start (c : Capture σ) (source : CaptureSource σ) (openSource : Size → Except CaptureError σ)
    (desktop size : Size) : Except CaptureError (Size × Capture σ) :=
  if isEmptySize size then .error (.invalidGeometry size)
  else if c.isRunning then .error .alreadyRunning
  else do
    let state ← openSource (desktop.clampTo size)
    let geometry := source.geometry state
    return (geometry, { c with run := some { source := state, geometry } })

/-- Stop capturing. The queue of the run stays stopped for whoever still holds it. -/
def stop (c : Capture σ) : Capture σ := { c with run := none }

/-- Note a geometry for the loop to change to, unless it is the one reported already. -/
def setGeometry (c : Capture σ) (desktop size : Size) : Except CaptureError (Size × Capture σ) :=
  if isEmptySize size then .error (.invalidGeometry size)
  else
    match c.run with
    | none => .error .notRunning
    | some run =>
      let geometry := desktop.clampTo size
      if geometry = run.geometry then .ok (geometry, c)
      else .ok (geometry, { c with run := some { run with pending := some geometry, geometry } })

/-- The geometry reported, while the capture runs. -/
def geometry (c : Capture σ) : Option Size := c.run.map (·.geometry)

/-- Pictures copied and pictures missed in this run. -/
def counts (c : Capture σ) : Nat × Nat :=
  match c.run with
  | some run => (run.frames, run.failures)
  | none => (0, 0)

end Capture

end RemoteDesktop
