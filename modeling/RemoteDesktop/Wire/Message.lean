import RemoteDesktop.Input.Event
import RemoteDesktop.Update
import RemoteDesktop.Wire.Cursor

/-!
# Messages

What a viewer and a server say to each other, and how each message is written as the payload of one
frame: the number of its case, then its fields, one after the other. `ClientMessage.encode` and
`ServerMessage.encode` write, `decode` reads; a payload that goes on after its message is refused.
-/

namespace RemoteDesktop

/-- What a viewer says. -/
inductive ClientMessage where
  /-- The first message: who is calling, and the picture size wanted. -/
  | hello (version : UInt16) (username : String) (size : Size)
  /-- The answer to the challenge. -/
  | proof (proof : ByteArray)
  | input (event : InputEvent)
  /-- A request for a full update. -/
  | refresh
  /-- A request for another picture size. -/
  | resize (size : Size)
  | disconnect
  deriving DecidableEq, Inhabited

/-- What a server says. -/
inductive ServerMessage where
  /-- A random byte string to prove the password over. -/
  | challenge (nonce : ByteArray)
  /-- Whether the viewer may stay. -/
  | verdict (accepted : Bool)
  /-- An update, or the last part of one. -/
  | update (update : Update)
  /-- A part of an update that is not the last one. -/
  | updatePart (part : Update)
  deriving DecidableEq, Inhabited

namespace Wire

/-- The largest payload of a frame, in bytes. -/
def maxFrameLength : Nat := 64 * 1024 * 1024

/-- The largest payload of a frame before the viewer is known. -/
def loginFrameLength : Nat := 4096

/-- The only version of the message format. -/
def formatVersion : UInt16 := 1

/-- An integer in its shortest form. -/
def putNat (n : Nat) : ByteArray := Bytes.ofList (Integer.encode n)

/-- A byte string after its length. -/
def putBytes (bytes : ByteArray) : ByteArray := putNat bytes.size ++ bytes

/-- A text after the length of its UTF-8 form. -/
def putText (text : String) : ByteArray := putBytes text.toUTF8

def putBool (b : Bool) : ByteArray := Bytes.ofList [if b then 1 else 0]

def putSize (size : Size) : ByteArray := putNat size.width.toNat ++ putNat size.height.toNat

def putEvent : InputEvent → ByteArray
  | .scancode flags code => putNat 0 ++ putNat flags.toNat ++ putNat code.toNat
  | .unicode flags codeUnit => putNat 1 ++ putNat flags.toNat ++ putNat codeUnit.toNat
  | .pointer flags x y => putNat 2 ++ putNat flags.toNat ++ putNat x.toNat ++ putNat y.toNat
  | .extendedPointer flags x y =>
    putNat 3 ++ putNat flags.toNat ++ putNat x.toNat ++ putNat y.toNat

def putMode : Mode → ByteArray
  | .raw => putNat 0
  | .rfx => putNat 1

def putKind : UpdateKind → ByteArray
  | .full => putNat 0
  | .diff => putNat 1

/-- The position and size of a rectangle, then its data. -/
def putRect (r : Rect) : ByteArray :=
  putNat r.region.x.toNat ++ putNat r.region.y.toNat ++ putNat r.region.width.toNat
    ++ putNat r.region.height.toNat ++ putBytes r.data

/-- The fields of an update, then the number of its rectangles and each of them. -/
def putUpdate (u : Update) : ByteArray :=
  u.rects.foldl (fun out r => out ++ putRect r)
    (putNat u.sequence.toNat ++ putSize u.size ++ putMode u.mode ++ putKind u.kind
      ++ putNat u.rects.length)

/-- A message as it stands, whatever its length. -/
def putClient : ClientMessage → ByteArray
  | .hello version username size =>
    putNat 0 ++ putNat version.toNat ++ putText username ++ putSize size
  | .proof proof => putNat 1 ++ putBytes proof
  | .input event => putNat 2 ++ putEvent event
  | .refresh => putNat 3
  | .resize size => putNat 4 ++ putSize size
  | .disconnect => putNat 5

/-- A message as it stands, whatever its length. -/
def putServer : ServerMessage → ByteArray
  | .challenge nonce => putNat 0 ++ putBytes nonce
  | .verdict accepted => putNat 1 ++ putBool accepted
  | .update update => putNat 2 ++ putUpdate update
  | .updatePart part => putNat 3 ++ putUpdate part

/-- Why a message cannot be sent. -/
inductive EncodeError where
  /-- It is longer than a frame. -/
  | sizeLimit
  deriving DecidableEq, Repr

/-- The wording of an encoding error. -/
def EncodeError.message : EncodeError → String
  | sizeLimit => "the size limit has been reached"

/-- A payload, if it is no longer than a frame. -/
def limited (payload : ByteArray) : Except EncodeError ByteArray :=
  if payload.size ≤ maxFrameLength then .ok payload else .error .sizeLimit

namespace Cursor

def size (c : Cursor) : Except DecodeError (Size × Cursor) := do
  let (width, c) ← c.u32
  let (height, c) ← c.u32
  return (⟨width, height⟩, c)

def event (c : Cursor) : Except DecodeError (InputEvent × Cursor) := do
  let (index, c) ← c.caseOf 4
  let (flags, c) ← c.u16
  let (first, c) ← c.u16
  match index with
  | 0 => return (.scancode flags first, c)
  | 1 => return (.unicode flags first, c)
  | _ =>
    let (second, c) ← c.u16
    return (if index = 2 then .pointer flags first second
      else .extendedPointer flags first second, c)

def mode (c : Cursor) : Except DecodeError (Mode × Cursor) := do
  let (index, c) ← c.caseOf 2
  return (if index = 0 then .raw else .rfx, c)

def kind (c : Cursor) : Except DecodeError (UpdateKind × Cursor) := do
  let (index, c) ← c.caseOf 2
  return (if index = 0 then .full else .diff, c)

def rect (c : Cursor) : Except DecodeError (Rect × Cursor) := do
  let (x, c) ← c.u32
  let (y, c) ← c.u32
  let (width, c) ← c.u32
  let (height, c) ← c.u32
  let (data, c) ← c.bytes
  return (⟨⟨x, y, width, height⟩, data⟩, c)

def update (c : Cursor) : Except DecodeError (Update × Cursor) := do
  let (sequence, c) ← c.u64
  let (size, c) ← c.size
  let (mode, c) ← c.mode
  let (kind, c) ← c.kind
  let (count, c) ← c.integer
  let (rects, c) ← c.items rect count
  return (⟨sequence, size, mode, kind, rects⟩, c)

def client (c : Cursor) : Except DecodeError (ClientMessage × Cursor) := do
  let (index, c) ← c.caseOf 6
  match index with
  | 0 =>
    let (version, c) ← c.u16
    let (username, c) ← c.text
    let (size, c) ← c.size
    return (.hello version username size, c)
  | 1 =>
    let (proof, c) ← c.bytes
    return (.proof proof, c)
  | 2 =>
    let (event, c) ← c.event
    return (.input event, c)
  | 3 => return (.refresh, c)
  | 4 =>
    let (size, c) ← c.size
    return (.resize size, c)
  | _ => return (.disconnect, c)

def server (c : Cursor) : Except DecodeError (ServerMessage × Cursor) := do
  let (index, c) ← c.caseOf 4
  match index with
  | 0 =>
    let (nonce, c) ← c.bytes
    return (.challenge nonce, c)
  | 1 =>
    let (accepted, c) ← c.bool
    return (.verdict accepted, c)
  | 2 =>
    let (update, c) ← c.update
    return (.update update, c)
  | _ =>
    let (part, c) ← c.update
    return (.updatePart part, c)

/-- Read a whole payload. -/
def whole {α : Type} (message : Cursor → Except DecodeError (α × Cursor)) (payload : ByteArray) :
    Except DecodeError α := do
  let (value, c) ← message ⟨payload, 0⟩
  if c.remaining = 0 then return value else throw .trailingBytes

end Cursor

end Wire

namespace ClientMessage

/-- The payload of a viewer's message. -/
def encode (m : ClientMessage) : Except Wire.EncodeError ByteArray := Wire.limited (Wire.putClient m)

/-- The viewer's message of a payload. -/
def decode (payload : ByteArray) : Except Wire.DecodeError ClientMessage :=
  Wire.Cursor.whole Wire.Cursor.client payload

end ClientMessage

namespace ServerMessage

/-- The payload of a server's message. -/
def encode (m : ServerMessage) : Except Wire.EncodeError ByteArray := Wire.limited (Wire.putServer m)

/-- The server's message of a payload. -/
def decode (payload : ByteArray) : Except Wire.DecodeError ServerMessage :=
  Wire.Cursor.whole Wire.Cursor.server payload

end ServerMessage

end RemoteDesktop
