import RemoteDesktop.Connection.Error

/-!
# Login errors

Why a login failed, told apart by who is to blame.
-/

namespace RemoteDesktop

/-- Why a login failed. -/
inductive LoginError where
  /-- The viewer does not know the password. -/
  | authentication (text : String)
  /-- The stream failed. -/
  | transport (text : String)
  /-- The viewer sent something out of turn. -/
  | violation (text : String)
  /-- A failure on this side. -/
  | internal (text : String)
  deriving DecidableEq, Repr

namespace LoginError

/-- The wording of a login error. -/
def message : LoginError → String
  | authentication text => "authentication failed: " ++ text
  | transport text => "transport failure during handshake: " ++ text
  | violation text => "protocol violation during handshake: " ++ text
  | internal text => "internal error during handshake: " ++ text

/-- A connection error that happens during the login. A failing stream is nobody's fault; anything else
the viewer sent wrongly. -/
def ofConnection : ConnectionError → LoginError
  | .transport text => .transport text
  | .closed => .transport "peer closed during handshake"
  | e => .violation e.message

end LoginError

end RemoteDesktop
