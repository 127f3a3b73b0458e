import RemoteDesktop.Wire.Cursor

/-!
# Connection errors

What goes wrong on a connection whose login has succeeded.
-/

namespace RemoteDesktop

/-- Why a connection failed. -/
inductive ConnectionError where
  /-- The stream failed, in the system's words. -/
  | transport (text : String)
  /-- A message could not be written or read. -/
  | malformed (text : String)
  /-- The other side sent something out of turn. -/
  | unexpected (what : String)
  /-- The other side closed the connection. -/
  | closed
  /-- The credentials were refused. -/
  | rejected
  /-- The stream cannot be given to another process. -/
  | notDetachable (why : String)
  deriving DecidableEq, Repr

/-- The wording of a connection error. -/
def ConnectionError.message : ConnectionError → String
  | transport text => "transport error: " ++ text
  | malformed text => "malformed message: " ++ text
  | unexpected what => "unexpected message: " ++ what
  | closed => "connection closed by peer"
  | rejected => "authentication rejected"
  | notDetachable why => "connection cannot be detached: " ++ why

end RemoteDesktop
