/-!
# Connection states

The stages of a connection from the moment it is accepted to the moment it is gone.
-/

namespace RemoteDesktop

/-- Where a connection stands. -/
inductive ConnectionState where
  /-- There is no viewer, or no longer. -/
  | idle
  /-- The stream is open; a credential is being issued. -/
  | accepting
  /-- The login is under way. -/
  | authenticating
  /-- The session is running. -/
  | serving
  /-- The connection is being taken down. -/
  | closing
  deriving DecidableEq, Repr

namespace ConnectionState

/-- The name of a state. -/
def name : ConnectionState → String
  | idle => "idle"
  | accepting => "accepting"
  | authenticating => "authenticating"
  | serving => "serving"
  | closing => "closing"

/-- All states, in order. -/
def all : List ConnectionState := [idle, accepting, authenticating, serving, closing]

end ConnectionState

end RemoteDesktop
