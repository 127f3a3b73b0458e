import RemoteDesktop.Connection.Context
import RemoteDesktop.Connection.Inbound
import RemoteDesktop.Wire.Parts

/-!
# Connections

A connection to a viewer that has logged in. What the viewer sends is read as events, one at a time. A
connection can be taken off its stream and put on it again, in this process or in another: the bytes
that have arrived and were not read travel in its context.
-/

namespace RemoteDesktop

/-- What a viewer asks for. -/
inductive ViewerEvent where
  | input (event : InputEvent)
  /-- Send the whole picture again. -/
  | refresh
  /-- Change the size of the picture. -/
  | resize (size : Size)
  deriving DecidableEq

/-- A connection whose login has succeeded. -/
structure Connection where
  inbound : Inbound
  username : String
  peer : Option Net.SocketAddress
  /-- The size asked for at login. -/
  requested : Size
  /-- The stream is encrypted, with a state that is bound to this process. -/
  encrypted : Bool := false
  deriving DecidableEq

/-- A connection off its stream. -/
structure DetachedConnection where
  stream : Stream
  context : ConnectionContext
  deriving DecidableEq

namespace Connection

/-- What a message asks for, once the login is over. -/
def eventOf : ClientMessage → Received ViewerEvent
  | .input event => .item (.input event)
  | .refresh => .item .refresh
  | .resize size => .item (.resize size)
  | .disconnect => .ended
  | .hello _ _ _ | .proof _ => .failed (.unexpected "handshake message on established connection")

/-- The next event of the viewer. -/
def nextEvent (c : Connection) : Received ViewerEvent × Connection :=
  match c.inbound.receive ClientMessage.decode with
  | (.item message, inbound) => (eventOf message, { c with inbound })
  | (.ended, inbound) => (.ended, { c with inbound })
  | (.failed e, inbound) => (.failed e, { c with inbound })
  | (.waiting, inbound) => (.waiting, { c with inbound })

/-- The frames of a list of payloads. -/
def frames (payloads : List ByteArray) : Except Wire.FramingError ByteArray := do
  return (← payloads.mapM Wire.frame).foldl (· ++ ·) ByteArray.empty

/-- The bytes that send an update. -/
def updateBytes (u : Update) : Checked (Except ConnectionError ByteArray) := do
  match ← Wire.encodeUpdate u with
  | .error e => return .error (.malformed e.message)
  | .ok payloads =>
    match frames payloads with
    | .error e => return .error (Inbound.framingFailure e)
    | .ok bytes => return .ok bytes

/-- The connection can be taken off its stream. -/
def canDetach (c : Connection) : Bool := !c.encrypted

/-- Take the connection off its stream. `unavailable` is what the system answers, if it does not give
the stream away. -/
def detach (unavailable : Option String) (c : Connection) :
    Except ConnectionError DetachedConnection :=
  if c.encrypted then .error (.notDetachable "TLS session state cannot be transferred")
  else
    match unavailable with
    | some text => .error (.transport text)
    | none =>
      let pending := c.inbound.reader.buffer.toList
      .ok ⟨c.inbound.stream, ⟨c.username, c.peer, c.requested, pending⟩⟩

/-- Put a connection on its stream. -/
def adopt (d : DetachedConnection) : Connection where
  inbound := ⟨{ buffer := Bytes.ofList d.context.pending }, d.stream⟩
  username := d.context.username
  peer := d.context.peer
  requested := d.context.requested

end Connection

end RemoteDesktop
