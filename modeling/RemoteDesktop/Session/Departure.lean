import RemoteDesktop.Connection
import RemoteDesktop.Handover.Error
import RemoteDesktop.Server.CloseReason
import RemoteDesktop.Session.Pipeline

/-!
# Giving a session away

A session that is to go on in another process first stops its pipeline and sends what is encoded already;
then it takes the connection off its stream and transfers it. When one of the later steps fails the
session goes on here, with a new pipeline that numbers its updates from where the old one stopped. Only
a failure to send, to take the connection back or to restart loses the session.
-/

namespace RemoteDesktop

/-- How the attempt to give a session away ends. -/
inductive Departure (σ γ : Type) where
  | transferred
  /-- The session goes on here. -/
  | resumed (pipeline : Pipeline σ γ) (e : HandoverError)
  | lost (e : HandoverError) (reason : CloseReason)

/-- The connection of the session, and what becomes of each step, if it is reached. -/
structure DepartureSteps (σ γ : Type) where
  connection : Connection
  /-- Why the encoded updates could not be sent. -/
  flush : Option ConnectionError
  /-- What the system answers, if it does not give the stream away. -/
  unavailable : Option String
  /-- Why the other process did not take the session. -/
  transfer : DetachedConnection → SessionSettings → Option HandoverError
  /-- Why the connection could not be put on its stream again. -/
  adopt : Option ConnectionError
  plan : SessionPlan
  /-- The size of the desktop when a new pipeline asks for it first. -/
  first : Size
  /-- The desktop as a new pipeline finds it. -/
  desktop : Desktop σ
  codecState : γ

namespace Departure

variable {σ γ : Type}

/-- Go on here after a failure. -/
def resume (steps : DepartureSteps σ γ) (settings : SessionSettings) (e : HandoverError) :
    Departure σ γ :=
  match Pipeline.start steps.plan steps.first steps.desktop steps.codecState settings with
  | .ok pipeline => resumed pipeline e
  | .error cause => lost e (.internal ("pipeline restart failed: " ++ cause.message))

/-- Try to give a session away. -/
def attempt (steps : DepartureSteps σ γ) (injector : Injector) (p : Pipeline σ γ) :
    Departure σ γ :=
  if !steps.connection.canDetach then resumed p .transportNotDetachable
  else
    let settings := (p.stop injector).settings
    match steps.flush with
    | some e => lost .sessionClosed (.ofConnection e)
    | none =>
      match steps.connection.detach steps.unavailable with
      | .error e => resume steps settings (.detach e)
      | .ok detached =>
        match steps.transfer detached settings with
        | none => transferred
        | some e =>
          match steps.adopt with
          | none => resume steps settings e
          | some cause => lost e (.ofConnection cause)

end Departure

end RemoteDesktop
