import RemoteDesktop.Net.SocketAddress
import RemoteDesktop.Region

/-!
# The context of a connection

What another process must know of a connection to go on with it.
-/

namespace RemoteDesktop

/-- What a connection is about, apart from its stream. -/
structure ConnectionContext where
  /-- The user who logged in. -/
  username : String
  /-- The address of the other side, where it has one. -/
  peer : Option Net.SocketAddress
  /-- The size asked for at login; a zero leaves the choice to the server. -/
  requested : Size
  /-- The bytes taken from the stream and not yet read as messages. -/
  pending : List UInt8
  deriving DecidableEq

end RemoteDesktop
