import RemoteDesktop.Credential.Record
import RemoteDesktop.Handover.Error

/-!
# Server errors

Why the server could not do what its operator asked for.
-/

namespace RemoteDesktop

/-- Why a request to the server failed. -/
inductive ServerError where
  | config (text : String)
  | tls (text : String)
  | credential (cause : CredentialError)
  /-- The listening socket could not be opened. -/
  | bind (address cause : String)
  /-- There is nothing that could run the server's tasks. -/
  | noRuntime
  | alreadyRunning
  | notRunning
  | unknownConnection (id : UInt64)
  | handover (cause : HandoverError)
  deriving DecidableEq, Repr

/-- The wording of a server error. -/
def ServerError.message : ServerError → String
  | config text => "configuration error: " ++ text
  | tls text => "TLS setup failed: " ++ text
  | credential cause => cause.message
  | bind address cause => s!"failed to bind {address}: {cause}"
  | noRuntime => "no tokio runtime available"
  | alreadyRunning => "already running"
  | notRunning => "not running"
  | unknownConnection id => s!"unknown connection #{id}"
  | handover cause => cause.message

end RemoteDesktop
