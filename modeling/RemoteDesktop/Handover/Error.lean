import RemoteDesktop.Connection.Error

/-!
# Handover errors

Why a session was not given to another process.
-/

namespace RemoteDesktop

/-- Why a handover failed. -/
inductive HandoverError where
  /-- The kind of stream does not allow it. -/
  | transportNotDetachable
  | detach (cause : ConnectionError)
  /-- The channel between the processes failed. -/
  | io (text : String)
  /-- The descriptor could not be passed. -/
  | descriptor (text : String)
  /-- The document could not be written or read. -/
  | document (text : String)
  /-- The other process refused, and said why. -/
  | rejected (reason : String)
  /-- The document came without a descriptor. -/
  | noDescriptor
  | versionMismatch (found expected : UInt16)
  /-- The document has too many bytes. -/
  | tooLarge (bytes : Nat)
  | sessionClosed
  | alreadyRunning
  | notRunning
  deriving DecidableEq, Repr

/-- The wording of a handover error. -/
def HandoverError.message : HandoverError → String
  | transportNotDetachable => "connection transport cannot be handed over"
  | detach cause => "failed to detach connection: " ++ cause.message
  | io text => "handover I/O error: " ++ text
  | descriptor text => "descriptor passing failed: " ++ text
  | document text => "invalid handover state: " ++ text
  | rejected reason => "handover rejected: " ++ reason
  | noDescriptor => "no socket descriptor received"
  | versionMismatch found expected =>
    s!"handover version {found} not supported (expected {expected})"
  | tooLarge bytes => s!"handover document of {bytes} bytes is too large"
  | sessionClosed => "session closed"
  | alreadyRunning => "handover daemon already running"
  | notRunning => "handover daemon not running"

end RemoteDesktop
