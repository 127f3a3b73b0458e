import RemoteDesktop.Connection
import RemoteDesktop.Proofs.Wire.Framing

/-!
# Receiving depends on the bytes only

Who receives from a stream takes up its pieces one by one. What is received is nevertheless settled by
the bytes alone, those in the buffer and those still to come (`Inbound.bytes`): `payloadOf` says what the
bytes come to, and `receivePayload_eq` that receiving comes to the same, wherever the bytes were cut.
Bytes that come later change nothing about what can be received already (`payloadOf_append`). A message
whose frame is at the front is received (`receive_of_leads`).
-/

namespace RemoteDesktop.Inbound

open Wire

/-- The bytes not yet taken, whether they have been read or are still to come. -/
def bytes (i : Inbound) : ByteArray := i.reader.buffer ++ joined id i.stream.arriving

/-- What receiving a frame comes to when all the bytes are there, and the bytes left then. -/
def payloadOf (limit : Nat) (ends : Bool) (bytes : ByteArray) : Received ByteArray × ByteArray :=
  match takeFrame limit bytes with
  | (.ok (some payload), rest) => (.item payload, rest)
  | (.error e, rest) => (.failed (framingFailure e), rest)
  | (.ok none, rest) =>
    if ends then (if rest.isEmpty then .ended else .failed (framingFailure .bytesRemaining), rest)
    else (.waiting, rest)

/-- The bytes begin with the frame of a payload of at most `limit` bytes. -/
def Leads (limit : Nat) (bytes payload rest : ByteArray) : Prop :=
  bytes = framed payload ++ rest ∧ payload.size ≤ limit ∧ payload.size < 2 ^ 32

theorem Leads.takeFrame_eq {limit : Nat} {bytes payload rest : ByteArray} (h : Leads limit bytes payload rest) :
    takeFrame limit bytes = (.ok (some payload), rest) := by
  obtain ⟨rfl, hlimit, hsize⟩ := h
  exact takeFrame_framed hlimit hsize rest

/-- A payload is received exactly if its frame is at the front. -/
theorem payloadOf_eq_item_iff {limit : Nat} {ends : Bool} {bytes payload rest : ByteArray} :
    payloadOf limit ends bytes = (.item payload, rest) ↔ Leads limit bytes payload rest := by
  constructor
  · intro h
    rcases takeFrame_cases limit bytes with hnone | ⟨-, -, herror⟩ | ⟨p, r, hsome, hbytes, hlimit, hsize⟩
    · rw [payloadOf, hnone] at h
      cases ends <;> simp only [if_true, Bool.false_eq_true, if_false, Prod.mk.injEq, reduceCtorEq, false_and] at h
      obtain ⟨h, -⟩ := h
      split at h <;> cases h
    · rw [payloadOf, herror] at h
      cases h
    · rw [payloadOf, hsome] at h
      cases h
      exact ⟨hbytes, hlimit, hsize⟩
  · intro h
    rw [payloadOf, h.takeFrame_eq]

/-- Whoever has to wait has taken nothing. -/
theorem payloadOf_snd_of_waiting {limit : Nat} {ends : Bool} {bytes : ByteArray}
    (h : (payloadOf limit ends bytes).1 = .waiting) : (payloadOf limit ends bytes).2 = bytes := by
  rcases takeFrame_cases limit bytes with hnone | ⟨-, -, herror⟩ | ⟨payload, rest, hsome, -⟩
  · rw [payloadOf, hnone]
    cases ends <;> rfl
  · rw [payloadOf, herror]
  · rw [payloadOf, hsome] at h
    cases h

/-- What can be received already does not depend on bytes that come later. -/
theorem payloadOf_append {limit : Nat} {ends later : Bool} {bytes more : ByteArray}
    (hwaiting : (payloadOf limit ends bytes).1 ≠ .waiting) (hends : ends = true → more = ByteArray.empty) :
    payloadOf limit (ends || later) (bytes ++ more) =
      ((payloadOf limit ends bytes).1, (payloadOf limit ends bytes).2 ++ more) := by
  cases ends with
  | true =>
    rw [hends rfl, ByteArray.append_empty, ByteArray.append_empty]
    rfl
  | false =>
    have hframe : takeFrame limit bytes ≠ (.ok none, bytes) := by
      intro h
      rw [payloadOf, h] at hwaiting
      exact hwaiting rfl
    have happend := takeFrame_append more hframe
    rcases takeFrame_cases limit bytes with hnone | ⟨-, -, herror⟩ | ⟨payload, rest, hsome, -⟩
    · exact absurd hnone hframe
    · rw [herror] at happend
      rw [payloadOf, happend, payloadOf, herror]
    · rw [hsome] at happend
      rw [payloadOf, happend, payloadOf, hsome]

/-! ### Pieces -/

/-- A reader that has a frame takes it; otherwise it stays as it is. -/
theorem next_eq (r : FrameReader) :
    (takeFrame r.limit r.buffer = (.ok none, r.buffer) ∧ r.next = .ok (none, r)) ∨
      (∃ e, takeFrame r.limit r.buffer = (.error e, r.buffer) ∧ r.next = .error e) ∨
      ∃ payload rest, takeFrame r.limit r.buffer = (.ok (some payload), rest) ∧
        r.next = .ok (some payload, { r with buffer := rest }) := by
  rcases takeFrame_cases r.limit r.buffer with h | ⟨-, -, h⟩ | ⟨payload, rest, h, -⟩
  · exact Or.inl ⟨h, by rw [FrameReader.next, FrameReader.poll, h]⟩
  · exact Or.inr (Or.inl ⟨_, h, by rw [FrameReader.next, FrameReader.poll, h]⟩)
  · exact Or.inr (Or.inr ⟨payload, rest, h, by rw [FrameReader.next, FrameReader.poll, h]⟩)

/-- Taking up pieces until there is a frame comes to what all of them come to at once. -/
theorem takePayload_eq (ends : Bool) (pieces : List ByteArray) (reader : FrameReader) :
    ∃ after, takePayload ends reader pieces =
        ((payloadOf reader.limit ends (reader.buffer ++ joined id pieces)).1, after) ∧
      after.reader.limit = reader.limit ∧ after.stream.ends = ends ∧
      after.bytes = (payloadOf reader.limit ends (reader.buffer ++ joined id pieces)).2 := by
  induction pieces generalizing reader with
  | nil =>
    have hall : reader.buffer ++ joined id [] = reader.buffer := ByteArray.append_empty
    rw [hall]
    rcases next_eq reader with ⟨h, hnext⟩ | ⟨e, h, hnext⟩ | ⟨payload, rest, h, hnext⟩
    · cases ends with
      | false => exact ⟨⟨reader, [], false⟩, by rw [takePayload, payloadOf, h]; simp [hnext], rfl, rfl, by
          rw [payloadOf, h]; exact hall⟩
      | true =>
        refine ⟨⟨reader, [], true⟩, ?_, rfl, rfl, by rw [payloadOf, h]; exact hall⟩
        rw [takePayload, payloadOf, h]
        by_cases hempty : reader.buffer.isEmpty
        · simp [FrameReader.nextAtEnd, hnext, hempty, bind, Except.bind, pure, Except.pure]
        · simp [FrameReader.nextAtEnd, hnext, hempty, bind, Except.bind, throw, throwThe, MonadExceptOf.throw]
    · refine ⟨⟨reader, [], ends⟩, ?_, rfl, rfl, by rw [payloadOf, h]; exact hall⟩
      rw [takePayload, payloadOf, h]
      cases ends <;> simp [FrameReader.nextAtEnd, hnext, bind, Except.bind]
    · refine ⟨⟨{ reader with buffer := rest }, [], ends⟩, ?_, rfl, rfl, by
        rw [payloadOf, h]; exact ByteArray.append_empty⟩
      rw [takePayload, payloadOf, h]
      cases ends <;> simp [FrameReader.nextAtEnd, hnext, bind, Except.bind, pure, Except.pure]
  | cons piece pieces ih =>
    rcases next_eq reader with ⟨h, hnext⟩ | ⟨e, h, hnext⟩ | ⟨payload, rest, h, hnext⟩
    · obtain ⟨after, hafter, hlimit, hends, hbytes⟩ := ih (reader.feed piece)
      have hall : (reader.feed piece).buffer ++ joined id pieces = reader.buffer ++ joined id (piece :: pieces) :=
        ByteArray.append_assoc
      rw [hall] at hafter hbytes
      exact ⟨after, by rw [takePayload, hnext]; exact hafter, hlimit, hends, hbytes⟩
    · have hall := takeFrame_append (joined id (piece :: pieces)) (show takeFrame reader.limit reader.buffer ≠
        (.ok none, reader.buffer) by rw [h]; simp)
      rw [h] at hall
      exact ⟨⟨reader, piece :: pieces, ends⟩, by rw [takePayload, hnext, payloadOf, hall], rfl, rfl, by
        rw [payloadOf, hall]; rfl⟩
    · have hall := takeFrame_append (joined id (piece :: pieces)) (show takeFrame reader.limit reader.buffer ≠
        (.ok none, reader.buffer) by rw [h]; simp)
      rw [h] at hall
      exact ⟨⟨{ reader with buffer := rest }, piece :: pieces, ends⟩, by rw [takePayload, hnext, payloadOf, hall],
        rfl, rfl, by rw [payloadOf, hall]; rfl⟩

/-- Receiving a payload comes to what the bytes come to, wherever they were cut. -/
theorem receivePayload_eq (i : Inbound) :
    ∃ after, i.receivePayload = ((payloadOf i.reader.limit i.stream.ends i.bytes).1, after) ∧
      after.reader.limit = i.reader.limit ∧ after.stream.ends = i.stream.ends ∧
      after.bytes = (payloadOf i.reader.limit i.stream.ends i.bytes).2 :=
  takePayload_eq i.stream.ends i.stream.arriving i.reader

/-! ### Messages -/

/-- What becomes of a payload that is read as a message. -/
def decoded {α : Type} (decode : ByteArray → Except DecodeError α) : Received ByteArray → Received α
  | .item payload =>
    match decode payload with
    | .ok message => .item message
    | .error e => .failed (.malformed e.message)
  | .ended => .ended
  | .failed e => .failed e
  | .waiting => .waiting

theorem receive_eq_decoded {α : Type} (decode : ByteArray → Except DecodeError α) (i : Inbound) :
    i.receive decode = (decoded decode i.receivePayload.1, i.receivePayload.2) := by
  rw [receive]
  split
  next payload after h =>
    rw [h, decoded]
    cases decode payload <;> rfl
  all_goals next h => rw [h, decoded]

/-- Receiving a message comes to what the bytes come to, wherever they were cut. -/
theorem receive_eq {α : Type} (decode : ByteArray → Except DecodeError α) (i : Inbound) :
    ∃ after, i.receive decode = (decoded decode (payloadOf i.reader.limit i.stream.ends i.bytes).1, after) ∧
      after.reader.limit = i.reader.limit ∧ after.stream.ends = i.stream.ends ∧
      after.bytes = (payloadOf i.reader.limit i.stream.ends i.bytes).2 := by
  obtain ⟨after, hpayload, hafter⟩ := i.receivePayload_eq
  exact ⟨after, by rw [receive_eq_decoded, hpayload], hafter⟩

/-- A message is received exactly if a frame at the front holds it. -/
theorem decoded_eq_item_iff {α : Type} {decode : ByteArray → Except DecodeError α} {message : α} {limit : Nat}
    {ends : Bool} {bytes rest : ByteArray} :
    decoded decode (payloadOf limit ends bytes).1 = .item message ∧ (payloadOf limit ends bytes).2 = rest ↔
      ∃ payload, Leads limit bytes payload rest ∧ decode payload = .ok message := by
  constructor
  · rintro ⟨hmessage, hrest⟩
    cases hreceived : (payloadOf limit ends bytes).1 with
    | item payload =>
      refine ⟨payload, payloadOf_eq_item_iff.1 (Prod.ext hreceived hrest), ?_⟩
      rw [hreceived, decoded] at hmessage
      cases hdecode : decode payload with
      | ok m =>
        rw [hdecode] at hmessage
        cases hmessage
        rfl
      | error e =>
        rw [hdecode] at hmessage
        cases hmessage
    | ended | failed | waiting =>
      rw [hreceived, decoded] at hmessage
      cases hmessage
  · rintro ⟨payload, hleads, hdecode⟩
    rw [payloadOf_eq_item_iff.2 hleads, decoded, hdecode]
    exact ⟨rfl, rfl⟩

/-- A message whose frame is at the front is received, and leaves what follows it. -/
theorem receive_of_leads {α : Type} {decode : ByteArray → Except DecodeError α} {message : α} {i : Inbound}
    {payload rest : ByteArray} (h : Leads i.reader.limit i.bytes payload rest)
    (hdecode : decode payload = .ok message) :
    ∃ after, i.receive decode = (.item message, after) ∧ after.reader.limit = i.reader.limit ∧
      after.stream.ends = i.stream.ends ∧ after.bytes = rest := by
  obtain ⟨after, hreceive, hlimit, hends, hbytes⟩ := i.receive_eq decode
  obtain ⟨hitem, hrest⟩ := decoded_eq_item_iff.2 ⟨payload, h, hdecode⟩
  rw [hitem] at hreceive
  exact ⟨after, hreceive, hlimit, hends, hbytes.trans hrest⟩

end RemoteDesktop.Inbound

namespace RemoteDesktop.Connection

open Wire

variable {payloads : List ByteArray}

/-- Payloads that are no longer than allowed are sent in one frame each. -/
theorem frames_eq (h : ∀ payload ∈ payloads, payload.size ≤ maxFrameLength) :
    frames payloads = .ok (joined framed payloads) := by
  have hfold := foldl_append_eq id (payloads.map framed) ByteArray.empty
  rw [ByteArray.empty_append, joined_map] at hfold
  simp only [frames, Reception.mapM_frame h, bind, Except.bind, pure, Except.pure]
  exact congrArg Except.ok hfold

theorem updateBytes_of_encodeUpdate {u : Update} (hencode : encodeUpdate u = .ok (.ok payloads))
    (h : ∀ payload ∈ payloads, payload.size ≤ maxFrameLength) : updateBytes u = .ok (.ok (joined framed payloads)) := by
  simp only [updateBytes, hencode, bind, Except.bind, frames_eq h, pure, Except.pure]

end RemoteDesktop.Connection
