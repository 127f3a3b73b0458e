import RemoteDesktop.Encoder
import RemoteDesktop.Frame.Queue

/-!
# The encode pump

The pump takes frames from a queue, has them encoded, gives the used buffer back, and hands updates to
a sink. It ends when the queue or the encoder has stopped, and when the sink turns out to be closed;
frames that cannot be encoded are skipped.
-/

namespace RemoteDesktop

/-- What a turn of the pump comes to. -/
inductive PumpTurn where
  /-- Nothing was pending. -/
  | idle
  /-- The frame gave no update. -/
  | skipped
  /-- The frame gave an update, which the sink took. -/
  | sent (update : Update)
  /-- The frame gave an update that the closed sink did not take; the pump ends. -/
  | lost (update : Update)
  /-- The queue or the encoder has stopped; the pump ends. -/
  | ended
  deriving DecidableEq

/-- The pump goes on after the turn. -/
def PumpTurn.goesOn : PumpTurn → Bool
  | idle | skipped | sent _ => true
  | lost _ | ended => false

/-- An encoder with the queue and the sink of its pump. -/
structure Pump (σ : Type) where
  encoder : Encoder σ
  queue : FrameQueue Frame := {}
  /-- The pump has been started and has not ended. -/
  running : Bool := false
  sinkOpen : Bool := false

namespace Pump

variable {σ : Type}

/-- Start the pump, with a new sink. -/
def start (p : Pump σ) : Except EncoderError (Pump σ) :=
  if !p.encoder.isRunning then .error .notRunning
  else if p.running then .error .alreadyRunning
  else .ok { p with running := true, sinkOpen := true }

/-- Stop the queue, which ends the pump. -/
def stopQueue (p : Pump σ) : Pump σ := { p with queue := p.queue.stop, running := false }

/-- Stop the encoder, and the pump with it. -/
def stop (p : Pump σ) : Pump σ := { p with encoder := p.encoder.stop, running := false }

/-- What becomes of an encoded frame. -/
def deliver (sinkOpen : Bool) : Except EncoderError (Option Update) → PumpTurn
  | .ok (some update) => if sinkOpen then .sent update else .lost update
  | .ok none => .skipped
  | .error .notRunning => .ended
  | .error _ => .skipped

/-- One turn of the pump. -/
def turn (codec : TileCodec σ) (p : Pump σ) : Checked (PumpTurn × Pump σ) :=
  match p.queue.poll with
  | (.stopped, queue) => .ok (.ended, { p with queue, running := false })
  | (.noData, queue) => .ok (.idle, { p with queue })
  | (.frame f, queue) => do
    let (result, encoder) ← p.encoder.encode codec f
    let turn := deliver p.sinkOpen result
    return (turn, { p with encoder, queue := queue.recycle f, running := turn.goesOn })

end Pump

end RemoteDesktop
