import RemoteDesktop.Net.SocketAddress
import RemoteDesktop.Region
import RemoteDesktop.Server.CloseReason
import RemoteDesktop.Server.ConnectionState

/-!
# Events of a server

What a server tells whoever watches it, and the two things that happen to a connection besides which it does
not tell. Every event is about one connection.
-/

namespace RemoteDesktop

/-- The number of a connection. -/
abbrev ConnectionId := UInt64

/-- Something that happened to a connection. -/
inductive ServerEvent where
  | stateChanged (id : ConnectionId) (state : ConnectionState)
  /-- A record for the login was written. -/
  | credentialIssued (id : ConnectionId) (path : String)
  /-- The record was removed. -/
  | credentialFreed (id : ConnectionId) (path : String)
  | sessionStarted (id : ConnectionId) (username : String) (peer : Option Net.SocketAddress)
    (size : Size)
  | closed (id : ConnectionId) (reason : CloseReason)
  deriving DecidableEq

namespace ServerEvent

/-- The connection that an event is about. -/
def id : ServerEvent → ConnectionId
  | stateChanged id _ => id
  | credentialIssued id _ => id
  | credentialFreed id _ => id
  | sessionStarted id _ _ _ => id
  | closed id _ => id

/-- The events about one connection, in order. -/
def about (id : ConnectionId) (events : List ServerEvent) : List ServerEvent :=
  events.filter (·.id = id)

end ServerEvent

/-- Something that happens to a connection, reported or not. -/
inductive Happening where
  | reported (event : ServerEvent)
  /-- The viewer has shown that it knows the password. -/
  | loggedIn (id : ConnectionId)
  /-- The record at `path` could not be removed. -/
  | recordKept (id : ConnectionId) (path : String)
  deriving DecidableEq

namespace Happening

/-- The connection that it happens to. -/
def id : Happening → ConnectionId
  | reported event => event.id
  | loggedIn id => id
  | recordKept id _ => id

/-- The connection enters a state, which is reported. -/
def entering (id : ConnectionId) (state : ConnectionState) : Happening := reported (.stateChanged id state)

/-- What is told of it. -/
def event? : Happening → Option ServerEvent
  | reported event => some event
  | loggedIn _ | recordKept _ _ => none

/-- What happens to one connection, in order. -/
def about (id : ConnectionId) (happenings : List Happening) : List Happening :=
  happenings.filter (·.id = id)

end Happening

end RemoteDesktop
