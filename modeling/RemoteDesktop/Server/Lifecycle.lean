import RemoteDesktop.Server.Event

/-!
# Lives of connections

What may happen to a connection, from its first event to its last, as a grammar: `Lifecycle id` are the complete
lives of the connection `id`. What the server does not report of a life is told here as well, because it says
why an event is there or missing: no session is served without a login, and every record that was issued is
freed unless it could not be removed.
-/

namespace RemoteDesktop

namespace Lifecycle

variable (id : ConnectionId)

/-- A login begins: its record is written, and the viewer asked to log in. -/
def loginBegins (path : String) : List Happening :=
  [.reported (.credentialIssued id path), .entering id .authenticating]

/-- The record is removed, or cannot be. -/
inductive Removal (path : String) : List Happening → Prop where
  | freed : Removal path [.reported (.credentialFreed id path)]
  | kept : Removal path [.recordKept id path]

/-- The viewer has logged in, and the record has been dealt with. -/
inductive LoggedIn : List Happening → Prop where
  | intro {path : String} {removal : List Happening} :
    Removal id path removal → LoggedIn (loginBegins id path ++ .loggedIn id :: removal)

/-- It is reported that the session serves. -/
def serving (username : String) (peer : Option Net.SocketAddress) (size : Size) : List Happening :=
  [.entering id .serving, .reported (.sessionStarted id username peer size)]

/-- What happens to a connection between its acceptance and its end. -/
inductive Course : List Happening → Prop where
  /-- No record could be written. -/
  | unissued : Course []
  /-- The login failed. -/
  | refused {path : String} {removal : List Happening} :
    Removal id path removal → Course (loginBegins id path ++ removal)
  /-- The session could not be started. -/
  | unstarted {login : List Happening} : LoggedIn id login → Course login
  | served {login : List Happening} (username : String) (peer : Option Net.SocketAddress) (size : Size) :
    LoggedIn id login → Course (login ++ serving id username peer size)

/-- It is reported that the connection is closed. -/
def ending (reason : CloseReason) : List Happening :=
  [.entering id .closing, .reported (.closed id reason), .entering id .idle]

end Lifecycle

/-- A complete life of a connection. -/
inductive Lifecycle (id : ConnectionId) : List Happening → Prop where
  /-- There were as many connections as allowed. -/
  | rejected : Lifecycle id [.reported (.closed id .connectionLimit)]
  | admitted {course : List Happening} (reason : CloseReason) :
    Lifecycle.Course id course →
      Lifecycle id (.entering id .accepting :: (course ++ Lifecycle.ending id reason))

end RemoteDesktop
