import RemoteDesktop.Login.Error

/-!
# Why connections close

Every connection ends for a reason that is reported to the operator.
-/

namespace RemoteDesktop

/-- Why a connection closed. -/
inductive CloseReason where
  | clientDisconnected
  | authentication (text : String)
  | transport (text : String)
  | violation (text : String)
  | internal (text : String)
  /-- There were as many connections as allowed. -/
  | connectionLimit
  /-- The session went on in another process. -/
  | handedOver
  | shutdown
  deriving DecidableEq, Repr

namespace CloseReason

/-- The wording of a reason. -/
def text : CloseReason → String
  | clientDisconnected => "client disconnected"
  | authentication text => "authentication failed: " ++ text
  | transport text => "transport error: " ++ text
  | violation text => "protocol error: " ++ text
  | internal text => "internal error: " ++ text
  | connectionLimit => "connection limit reached"
  | handedOver => "handed over"
  | shutdown => "server shutdown"

/-- The viewer or the operator wanted the connection to close. -/
def isOrderly : CloseReason → Bool
  | clientDisconnected | handedOver | shutdown => true
  | _ => false

/-- The reason that a failed login gives. -/
def ofLogin : LoginError → CloseReason
  | .authentication text => authentication text
  | .transport text => transport text
  | .violation text => violation text
  | .internal text => internal text

/-- The reason that a failed connection gives. -/
def ofConnection (e : ConnectionError) : CloseReason :=
  match e with
  | .transport _ | .closed => transport e.message
  | .malformed _ | .unexpected _ => violation e.message
  | .rejected | .notDetachable _ => internal e.message

end CloseReason

end RemoteDesktop
