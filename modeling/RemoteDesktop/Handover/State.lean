import RemoteDesktop.Connection.Context
import RemoteDesktop.Document.Json
import RemoteDesktop.Session.Settings

/-!
# The handover document

A session that moves to another process is described by one JSON document: the version of the format,
the context of the connection and the settings of the session.
-/

namespace RemoteDesktop

open Document
open Document.RecordReader (required nullable)

/-- What another process needs to go on with a session. -/
structure HandoverState where
  version : UInt16
  connection : ConnectionContext
  session : SessionSettings
  deriving DecidableEq

/-! ### As values -/

/-- The text of an address. -/
def addressValue (address : Net.SocketAddress) : Value := .ofString (String.ofList address.write)

def ConnectionContext.toValue (c : ConnectionContext) : Value :=
  .ofEntries [("username", .ofString c.username), ("peer", .ofOption addressValue c.peer),
    ("requested_size", .list [.ofNat c.requested.width.toNat, .ofNat c.requested.height.toNat] none),
    ("pending_input", .list (c.pending.map fun b => .ofNat b.toNat) none)]

def SessionSettings.toValue (s : SessionSettings) : Value :=
  .ofEntries [("width", .ofNat s.size.width.toNat), ("height", .ofNat s.size.height.toNat),
    ("mode", .ofString s.mode.name), ("enable_frame_diff", .boolean s.onlyChanges),
    ("next_sequence", .ofNat s.nextSequence.toNat)]

def HandoverState.toValue (s : HandoverState) : Value :=
  .ofEntries [("version", .ofNat s.version.toNat), ("connection", s.connection.toValue),
    ("session", s.session.toValue)]

/-! ### From values -/

/-- The address that a text writes. -/
def readAddress : Reader Net.SocketAddress := fun value => do
  match Net.SocketAddress.ofText? (← value.readText).toList with
  | some address => .ok address
  | none => .error .unfit

def readSize : Reader Size := fun value => do
  let (width, height) ← value.readPair Value.readWord32
  .ok ⟨width, height⟩

def ConnectionContext.reader : RecordReader ConnectionContext :=
  ConnectionContext.mk <$> required "username" Value.readText <*> nullable "peer" readAddress
    <*> required "requested_size" readSize <*> required "pending_input" (Value.readList Value.readByte)

def SessionSettings.reader : RecordReader SessionSettings :=
  (fun width height mode onlyChanges next => ⟨⟨width, height⟩, mode, onlyChanges, next⟩)
    <$> required "width" Value.readWord32 <*> required "height" Value.readWord32
    <*> required "mode" (Value.readChoice Json.dialect Mode.ofName?)
    <*> required "enable_frame_diff" Value.readBoolean <*> required "next_sequence" Value.readWord64

def HandoverState.reader : RecordReader HandoverState :=
  HandoverState.mk <$> required "version" Value.readWord16
    <*> required "connection" (ConnectionContext.reader.read Json.dialect)
    <*> required "session" (SessionSettings.reader.read Json.dialect)

/-! ### As text -/

namespace HandoverState

/-- The version of the format that is written. -/
def currentVersion : UInt16 := 1

/-- The greatest number of bytes in a document. -/
def maxDocumentLength : Nat := 16 * 1024 * 1024

/-- The document of a state. -/
def write (s : HandoverState) : String := Json.write s.toValue

/-- The state that a document holds. -/
def read (text : String) : Result HandoverState := Json.read (reader.read Json.dialect) text

end HandoverState

end RemoteDesktop
