import RemoteDesktop.Wire.Message

/-!
# Framing

On the connection every payload follows its length in four bytes, most significant first. A
`FrameReader` takes complete frames from the front of the bytes received; a frame whose announced length
exceeds the limit in force is refused as soon as its four bytes are there. What is not taken stays in the
buffer byte for byte.
-/

namespace RemoteDesktop.Wire

/-- What can go wrong between bytes and frames. -/
inductive FramingError where
  /-- A frame, sent or announced, is longer than allowed. -/
  | tooLong (length limit : Nat)
  /-- The connection ended inside a frame. -/
  | bytesRemaining
  deriving DecidableEq, Repr

/-- The wording of a framing error. -/
def FramingError.message : FramingError → String
  | tooLong length limit => s!"frame of {length} bytes exceeds {limit}"
  | bytesRemaining => "bytes remaining on stream"

/-- The length of a frame's header. -/
def headerLength : Nat := 4

/-- A payload with its length in front. -/
def framed (payload : ByteArray) : ByteArray :=
  Bytes.ofList (Bytes.beBytes headerLength payload.size) ++ payload

/-- The frame of a payload, if it is not too long for one. -/
def frame (payload : ByteArray) : Except FramingError ByteArray :=
  if payload.size ≤ maxFrameLength then .ok (framed payload)
  else .error (.tooLong payload.size maxFrameLength)

/-- The length that the first bytes of a buffer announce. -/
def announced (buffer : ByteArray) : Nat := Bytes.beNat (buffer.extract 0 headerLength).toList

/-- Take the payload of the frame at the front of a buffer, or nothing if the buffer does not hold a whole
frame yet. The answer comes with what is left in the buffer. -/
def takeFrame (limit : Nat) (buffer : ByteArray) : Except FramingError (Option ByteArray) × ByteArray :=
  if buffer.size < headerLength then (.ok none, buffer)
  else
    let length := announced buffer
    if limit < length then (.error (.tooLong length limit), buffer)
    else if buffer.size < headerLength + length then (.ok none, buffer)
    else (.ok (some (buffer.extract headerLength (headerLength + length))),
      buffer.extract (headerLength + length) buffer.size)

/-- A buffer that a frame was taken from is shorter. -/
theorem size_lt_of_takeFrame {limit : Nat} {buffer payload rest : ByteArray}
    (h : takeFrame limit buffer = (.ok (some payload), rest)) : rest.size < buffer.size := by
  unfold takeFrame at h
  split at h
  · cases h
  next hheader =>
    simp only at h
    split at h
    · cases h
    · split at h
      · cases h
      next hbody =>
        cases h
        rw [ByteArray.size_extract]
        have : headerLength = 4 := rfl
        omega

/-- A buffer that no frame was taken from is left as it was. -/
theorem takeFrame_snd {limit : Nat} {buffer : ByteArray}
    (h : ∀ payload, (takeFrame limit buffer).1 ≠ .ok (some payload)) : (takeFrame limit buffer).2 = buffer := by
  unfold takeFrame at h ⊢
  split
  · rfl
  next hheader =>
    rw [if_neg hheader] at h
    simp only at h ⊢
    split
    · rfl
    next hlimit =>
      rw [if_neg hlimit] at h
      split
      · rfl
      next hbody =>
        rw [if_neg hbody] at h
        exact absurd rfl (h _)

/-- The receiving end of a connection: the bytes that have arrived and not been taken. -/
structure FrameReader where
  /-- The longest payload accepted. -/
  limit : Nat := maxFrameLength
  buffer : ByteArray := ByteArray.empty
  deriving DecidableEq

namespace FrameReader

/-- A reader for a viewer that has not logged in yet. -/
def login : FrameReader := { limit := loginFrameLength }

/-- Accept payloads up to `limit` from now on, but never more than a frame holds. -/
def setLimit (limit : Nat) (r : FrameReader) : FrameReader :=
  { r with limit := min limit maxFrameLength }

/-- More bytes have arrived. -/
def feed (bytes : ByteArray) (r : FrameReader) : FrameReader :=
  { r with buffer := r.buffer ++ bytes }

/-- Take the next payload, if it has arrived. The answer comes with the reader after it. -/
def poll (r : FrameReader) : Except FramingError (Option ByteArray) × FrameReader :=
  let (answer, rest) := takeFrame r.limit r.buffer
  (answer, { r with buffer := rest })

theorem size_lt_of_poll {r after : FrameReader} {payload : ByteArray} (h : r.poll = (.ok (some payload), after)) :
    after.buffer.size < r.buffer.size := by
  obtain ⟨hanswer, rfl⟩ := Prod.mk.inj h
  exact size_lt_of_takeFrame (Prod.ext hanswer rfl)

/-- A reader that yields no payload stays as it was. -/
theorem poll_snd {r : FrameReader} (h : ∀ payload, r.poll.1 ≠ .ok (some payload)) : r.poll.2 = r := by
  show { r with buffer := (takeFrame r.limit r.buffer).2 } = r
  rw [takeFrame_snd h]

/-- Take the next payload, if it has arrived, or fail. -/
def next (r : FrameReader) : Except FramingError (Option ByteArray × FrameReader) :=
  match r.poll with
  | (.ok payload, after) => .ok (payload, after)
  | (.error e, _) => .error e

/-- Take the next payload of a connection that has ended. -/
def nextAtEnd (r : FrameReader) : Except FramingError (Option ByteArray × FrameReader) := do
  match ← r.next with
  | (some payload, r) => return (some payload, r)
  | (none, r) => if r.buffer.isEmpty then return (none, r) else throw .bytesRemaining

end FrameReader

end RemoteDesktop.Wire
