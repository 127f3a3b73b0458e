import RemoteDesktop.Wire.Message

/-!
# Messages with borrowed data

To send an update its data need not be copied into a message first: a `RectView` names a stretch of a
byte string that somebody else owns. The types here stand beside those of the messages, case by case and
field by field, and are written by functions of their own; `putServerView_eq` says that they write what
the message with the data copied into it writes.
-/

namespace RemoteDesktop.Wire

/-- The bytes of `source` from `start` on and before `stop`, as far as it has any. -/
structure Stretch where
  source : ByteArray
  start : Nat
  stop : Nat

namespace Stretch

/-- All of a byte string. -/
def all (source : ByteArray) : Stretch := ⟨source, 0, source.size⟩

/-- The number of its bytes. -/
def length (s : Stretch) : Nat := min s.stop s.source.size - s.start

/-- Its bytes, copied. -/
def bytes (s : Stretch) : ByteArray := s.source.extract s.start s.stop

@[simp] theorem bytes_all (source : ByteArray) : (all source).bytes = source := ByteArray.extract_zero_size

@[simp] theorem size_bytes (s : Stretch) : s.bytes.size = s.length := ByteArray.size_extract

end Stretch

/-- A rectangle whose data is borrowed. -/
structure RectView where
  region : Region
  data : Stretch

/-- An update whose data is borrowed. -/
structure UpdateView where
  sequence : UInt64
  size : Size
  mode : Mode
  kind : UpdateKind
  rects : List RectView

/-- What a server says, with borrowed data. -/
inductive ServerMessageView where
  | challenge (nonce : Stretch)
  | verdict (accepted : Bool)
  | update (update : UpdateView)
  | updatePart (part : UpdateView)

/-! ### What is borrowed, copied -/

/-- The rectangle with its data copied. -/
def RectView.owned (r : RectView) : Rect := ⟨r.region, r.data.bytes⟩

/-- A rectangle with all of its data borrowed. -/
def RectView.whole (r : Rect) : RectView := ⟨r.region, .all r.data⟩

@[simp] theorem RectView.owned_whole (r : Rect) : (whole r).owned = r := by
  rw [owned, whole, Stretch.bytes_all]

/-- The update with its data copied. -/
def UpdateView.owned (u : UpdateView) : Update := ⟨u.sequence, u.size, u.mode, u.kind, u.rects.map (·.owned)⟩

/-- The message with its data copied. -/
def ServerMessageView.owned : ServerMessageView → ServerMessage
  | .challenge nonce => .challenge nonce.bytes
  | .verdict accepted => .verdict accepted
  | .update whole => .update whole.owned
  | .updatePart part => .updatePart part.owned

/-! ### Writing -/

/-- A stretch after its length. -/
def putStretch (s : Stretch) : ByteArray := putNat s.length ++ s.bytes

def putRectView (r : RectView) : ByteArray :=
  putNat r.region.x.toNat ++ putNat r.region.y.toNat ++ putNat r.region.width.toNat
    ++ putNat r.region.height.toNat ++ putStretch r.data

def putUpdateView (u : UpdateView) : ByteArray :=
  u.rects.foldl (fun out r => out ++ putRectView r)
    (putNat u.sequence.toNat ++ putSize u.size ++ putMode u.mode ++ putKind u.kind
      ++ putNat u.rects.length)

def putServerView : ServerMessageView → ByteArray
  | .challenge nonce => putNat 0 ++ putStretch nonce
  | .verdict accepted => putNat 1 ++ putBool accepted
  | .update update => putNat 2 ++ putUpdateView update
  | .updatePart part => putNat 3 ++ putUpdateView part

theorem putStretch_eq (s : Stretch) : putStretch s = putBytes s.bytes := by
  rw [putStretch, putBytes, Stretch.size_bytes]

theorem putRectView_eq (r : RectView) : putRectView r = putRect r.owned := by
  rw [putRectView, putStretch_eq, putRect, RectView.owned]

theorem putUpdateView_eq (u : UpdateView) : putUpdateView u = putUpdate u.owned := by
  simp only [putUpdateView, putUpdate, UpdateView.owned, putRectView_eq, List.foldl_map, List.length_map]

/-- A message with borrowed data is written as the message itself. -/
theorem putServerView_eq (m : ServerMessageView) : putServerView m = putServer m.owned := by
  cases m with
  | challenge nonce => rw [putServerView, putStretch_eq]; rfl
  | verdict accepted => rfl
  | update update => rw [putServerView, putUpdateView_eq]; rfl
  | updatePart part => rw [putServerView, putUpdateView_eq]; rfl

namespace ServerMessageView

/-- The payload of a message with borrowed data. -/
def encode (m : ServerMessageView) : Except EncodeError ByteArray := limited (putServerView m)

theorem encode_eq (m : ServerMessageView) : m.encode = m.owned.encode := by
  rw [encode, putServerView_eq, ServerMessage.encode]

end ServerMessageView

end RemoteDesktop.Wire
