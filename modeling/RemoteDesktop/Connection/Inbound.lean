import RemoteDesktop.Connection.Error
import RemoteDesktop.Wire.Framing

/-!
# Receiving messages

The bytes of a stream arrive in pieces of any length. An `Inbound` holds the bytes that have arrived
and not been read, and the pieces still to come; receiving takes one frame, and takes up pieces only
while no whole frame has arrived. `unread` counts the bytes on the way; a frame received makes them
fewer, `unread_lt_of_receivePayload`.
-/

namespace RemoteDesktop

/-- The part of a stream that has not arrived. -/
structure Stream where
  /-- The pieces to come, in order. -/
  arriving : List ByteArray := []
  /-- The other side closes the stream after them; otherwise it stays silent. -/
  ends : Bool := false
  deriving DecidableEq

/-- What comes of an attempt to receive. -/
inductive Received (α : Type) where
  | item (a : α)
  /-- The stream has ended, or the other side has said goodbye. -/
  | ended
  | failed (e : ConnectionError)
  /-- Nothing more has arrived, yet. -/
  | waiting
  deriving DecidableEq

/-- The receiving side of a connection. -/
structure Inbound where
  reader : Wire.FrameReader
  stream : Stream
  deriving DecidableEq

namespace Inbound

/-- The number of bytes in pieces. -/
def totalSize (pieces : List ByteArray) : Nat := pieces.foldr (fun piece n => piece.size + n) 0

/-- The number of bytes that have not been read. -/
def unread (i : Inbound) : Nat := i.reader.buffer.size + totalSize i.stream.arriving

/-- What a failed reader reports. -/
def framingFailure (e : Wire.FramingError) : ConnectionError := .transport e.message

/-- Receive from a reader to which the given pieces are still to come. -/
def takePayload (ends : Bool) (reader : Wire.FrameReader) :
    List ByteArray → Received ByteArray × Inbound
  | [] =>
    match if ends then reader.nextAtEnd else reader.next with
    | .error e => (.failed (framingFailure e), ⟨reader, ⟨[], ends⟩⟩)
    | .ok (some payload, reader) => (.item payload, ⟨reader, ⟨[], ends⟩⟩)
    | .ok (none, reader) => (if ends then .ended else .waiting, ⟨reader, ⟨[], ends⟩⟩)
  | piece :: pieces =>
    match reader.next with
    | .error e => (.failed (framingFailure e), ⟨reader, ⟨piece :: pieces, ends⟩⟩)
    | .ok (some payload, reader) => (.item payload, ⟨reader, ⟨piece :: pieces, ends⟩⟩)
    | .ok (none, reader) => takePayload ends (reader.feed piece) pieces

/-- Receive the payload of one frame. -/
def receivePayload (i : Inbound) : Received ByteArray × Inbound :=
  takePayload i.stream.ends i.reader i.stream.arriving

/-- Receive one message. -/
def receive {α : Type} (decode : ByteArray → Except Wire.DecodeError α) (i : Inbound) :
    Received α × Inbound :=
  match i.receivePayload with
  | (.item payload, i) =>
    match decode payload with
    | .ok message => (.item message, i)
    | .error e => (.failed (.malformed e.message), i)
  | (.ended, i) => (.ended, i)
  | (.failed e, i) => (.failed e, i)
  | (.waiting, i) => (.waiting, i)

/-- Accept payloads up to `limit` from now on. -/
def setLimit (limit : Nat) (i : Inbound) : Inbound := { i with reader := i.reader.setLimit limit }

/-! ### Receiving comes to an end -/

theorem size_lt_of_next {reader after : Wire.FrameReader} {payload : ByteArray}
    (h : reader.next = .ok (some payload, after)) : after.buffer.size < reader.buffer.size := by
  unfold Wire.FrameReader.next at h
  split at h
  next hpoll =>
    cases h
    exact Wire.FrameReader.size_lt_of_poll hpoll
  next => cases h

theorem eq_of_next_none {reader after : Wire.FrameReader}
    (h : reader.next = .ok (none, after)) : after = reader := by
  unfold Wire.FrameReader.next at h
  split at h
  next hpoll =>
    cases h
    have := Wire.FrameReader.poll_snd (r := reader) (by simp [hpoll])
    rwa [hpoll] at this
  next => cases h

theorem size_lt_of_nextAtEnd {reader after : Wire.FrameReader} {payload : ByteArray}
    (h : reader.nextAtEnd = .ok (some payload, after)) :
    after.buffer.size < reader.buffer.size := by
  unfold Wire.FrameReader.nextAtEnd at h
  match hnext : reader.next with
  | .error e => rw [hnext] at h; cases h
  | .ok (some _, r) =>
    rw [hnext] at h
    cases h
    exact size_lt_of_next hnext
  | .ok (none, r) =>
    rw [hnext] at h
    simp only [bind, Except.bind] at h
    split at h <;> cases h

theorem unread_lt_of_takePayload {ends : Bool} {payload : ByteArray} {after : Inbound}
    (pieces : List ByteArray) {reader : Wire.FrameReader}
    (h : takePayload ends reader pieces = (.item payload, after)) :
    after.unread < reader.buffer.size + totalSize pieces := by
  induction pieces generalizing reader with
  | nil =>
    unfold takePayload at h
    split at h
    · cases h
    next hnext =>
      cases h
      split at hnext
      · simpa [unread] using size_lt_of_nextAtEnd hnext
      · simpa [unread] using size_lt_of_next hnext
    · split at h <;> cases h
  | cons piece pieces ih =>
    unfold takePayload at h
    split at h
    · cases h
    next hnext =>
      cases h
      have := size_lt_of_next hnext
      simp only [unread]
      omega
    next hnext =>
      have := ih h
      rw [eq_of_next_none hnext, Wire.FrameReader.feed, ByteArray.size_append] at this
      simpa [totalSize, Nat.add_assoc] using this

/-- Whoever receives a payload has fewer bytes left to read. -/
theorem unread_lt_of_receivePayload {i after : Inbound} {payload : ByteArray}
    (h : i.receivePayload = (.item payload, after)) : after.unread < i.unread :=
  unread_lt_of_takePayload _ h

/-- Whoever receives a message has fewer bytes left to read. -/
theorem unread_lt_of_receive {α : Type} {decode : ByteArray → Except Wire.DecodeError α}
    {i after : Inbound} {message : α} (h : i.receive decode = (.item message, after)) :
    after.unread < i.unread := by
  unfold receive at h
  split at h
  next hpayload =>
    split at h
    · cases h
      exact unread_lt_of_receivePayload hpayload
    · cases h
  all_goals cases h

end Inbound

end RemoteDesktop
