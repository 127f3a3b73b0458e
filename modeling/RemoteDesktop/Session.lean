import RemoteDesktop.Connection
import RemoteDesktop.Session.Departure

/-!
# Sessions

A session serves one viewer until the viewer leaves, the connection fails, the server stops or the
session is given away. It deals with one thing at a time: what the viewer sends, an update that has been
encoded, or a command of the server.
-/

namespace RemoteDesktop

/-- What a session has done. The numbers have no bound: no session lives to see 2⁶⁴ events. -/
structure SessionStats where
  /-- Updates written to the viewer. -/
  updatesSent : Nat := 0
  /-- Input events received. -/
  inputEvents : Nat := 0
  /-- Input events of which an action failed. -/
  inputFailures : Nat := 0
  deriving DecidableEq, Repr

/-- What a session deals with in a turn. -/
inductive SessionTurn (σ γ : Type) where
  | viewer (received : Received ViewerEvent)
  /-- An encoded update, and why it could not be written, if so. -/
  | update (writeFailure : Option ConnectionError)
  /-- The encoder has stopped by itself. -/
  | noMoreUpdates
  /-- The server stops. -/
  | stop
  /-- The server wants the session to go on elsewhere. -/
  | leave (steps : DepartureSteps σ γ)

/-- A running session. -/
structure Session (σ γ : Type) where
  pipeline : Pipeline σ γ
  stats : SessionStats := {}

namespace Session

variable {σ γ : Type}

/-- The session after an input event. -/
def input (injector : Injector) (event : InputEvent) (s : Session σ γ) : Session σ γ :=
  let (result, dispatcher) := s.pipeline.dispatcher.dispatch injector event
  let failures := s.stats.inputFailures + (if result.isOk then 0 else 1)
  { pipeline := { s.pipeline with dispatcher }
    stats := { s.stats with inputEvents := s.stats.inputEvents + 1, inputFailures := failures } }

/-- The session after an event of the viewer. A resize that is refused changes nothing. -/
def handle (desktop : Size) (injector : Injector) (s : Session σ γ) : ViewerEvent → Session σ γ
  | .input event => s.input injector event
  | .refresh =>
    let encoder := s.pipeline.encoder.invalidate
    { s with pipeline := { s.pipeline with encoder } }
  | .resize size =>
    match s.pipeline.resize desktop size with
    | .ok (_, pipeline) => { s with pipeline }
    | .error _ => s

/-- One turn of a session: the session after it, and why it ended, if it did. -/
def turn (desktop : Size) (injector : Injector) (s : Session σ γ) :
    SessionTurn σ γ → Session σ γ × Option CloseReason
  | .viewer (.item event) => (s.handle desktop injector event, none)
  | .viewer .waiting => (s, none)
  | .viewer .ended => (s, some .clientDisconnected)
  | .viewer (.failed e) => (s, some (.ofConnection e))
  | .update none =>
    ({ s with stats := { s.stats with updatesSent := s.stats.updatesSent + 1 } }, none)
  | .update (some e) => (s, some (.ofConnection e))
  | .noMoreUpdates => (s, some (.internal "encoder stopped unexpectedly"))
  | .stop => (s, some .shutdown)
  | .leave steps =>
    match Departure.attempt steps injector s.pipeline with
    | .transferred => (s, some .handedOver)
    | .resumed pipeline _ => ({ s with pipeline }, none)
    | .lost _ reason => (s, some reason)

end Session

end RemoteDesktop
