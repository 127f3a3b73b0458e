import RemoteDesktop.Proofs.Wire.Cursor

/-!
# Messages survive the wire

Each part of a message is a self-delimiting form of its value, and so are the messages of both sides.
Main statement: a message that can be sent is read back exactly, and neither a payload that is cut short
nor one that goes on is taken for a message (`decode_encode`).
-/

namespace RemoteDesktop.Wire

/-! ### The parts of messages -/

namespace Codes

theorem size (s : Size) : Codes Cursor.size s (putSize s) := .bind (u32 _) (.last (u32 _) fun _ => rfl)

theorem event (e : InputEvent) : Codes Cursor.event e (putEvent e) := by
  cases e <;> simp only [putEvent, ByteArray.append_assoc] <;>
    refine .bind (caseOf (by decide) (by decide)) (.bind (u16 _) ?_)
  case scancode | unicode => exact .last (u16 _) fun _ => rfl
  case pointer | extendedPointer => exact .bind (u16 _) (.last (u16 _) fun _ => rfl)

theorem mode (m : Mode) : Codes Cursor.mode m (putMode m) := by
  cases m <;> exact .last (caseOf (by decide) (by decide)) fun _ => rfl

theorem kind (k : UpdateKind) : Codes Cursor.kind k (putKind k) := by
  cases k <;> exact .last (caseOf (by decide) (by decide)) fun _ => rfl

end Codes

/-- A number takes one to nine bytes. -/
theorem size_putNat (n : Nat) : 1 ≤ (putNat n).size ∧ (putNat n).size ≤ 9 := by
  rw [putNat, Bytes.size_ofList]
  exact Integer.length_encode n

theorem size_putBytes (bytes : ByteArray) : (putBytes bytes).size = (putNat bytes.size).size + bytes.size :=
  ByteArray.size_append

theorem putUpdate_eq (u : Update) :
    putUpdate u = putNat u.sequence.toNat ++ (putSize u.size ++ (putMode u.mode ++ (putKind u.kind ++
      (putNat u.rects.length ++ joined putRect u.rects)))) := by
  rw [putUpdate, foldl_append_eq]
  simp only [ByteArray.append_assoc]

namespace Codes

theorem rect {r : Rect} (h : (putRect r).size < 2 ^ 64) : Codes Cursor.rect r (putRect r) := by
  simp only [putRect, ByteArray.append_assoc] at h ⊢
  have hdata : r.data.size < 2 ^ 64 := by
    simp only [ByteArray.size_append, size_putBytes] at h
    omega
  exact .bind (u32 _) (.bind (u32 _) (.bind (u32 _) (.bind (u32 _) (.last (bytes hdata) fun _ => rfl))))

theorem update {u : Update} (h : (putUpdate u).size < 2 ^ 64) : Codes Cursor.update u (putUpdate u) := by
  rw [putUpdate_eq] at h ⊢
  have hrects : (joined putRect u.rects).size < 2 ^ 64 := by
    simp only [ByteArray.size_append] at h
    omega
  have hrect : ∀ r, 0 < (putRect r).size := fun r => by
    have := (size_putNat r.region.x.toNat).1
    simp only [putRect, ByteArray.size_append]
    omega
  have hcount := length_le_joined hrect u.rects
  have hitems : Codes (Cursor.items Cursor.rect u.rects.length) u.rects (joined putRect u.rects) :=
    items fun r hr => rect (Nat.lt_of_le_of_lt (size_le_joined putRect hr) hrects)
  exact .bind (u64 _) (.bind (size _) (.bind (mode _) (.bind (kind _)
    (.bind (integer (Nat.lt_of_le_of_lt hcount hrects)) (.last hitems fun _ => rfl)))))

/-! ### Messages -/

theorem client {m : ClientMessage} (h : (putClient m).size < 2 ^ 64) : Codes Cursor.client m (putClient m) := by
  cases m <;> simp only [putClient, ByteArray.append_assoc] at h ⊢
  case hello version username size =>
    have htext : username.toUTF8.size < 2 ^ 64 := by
      simp only [ByteArray.size_append, putText, size_putBytes] at h
      omega
    exact .bind (caseOf (by decide) (by decide)) (.bind (u16 _) (.bind (text htext) (.last (.size _) fun _ => rfl)))
  case proof proof =>
    have hproof : proof.size < 2 ^ 64 := by
      simp only [ByteArray.size_append, size_putBytes] at h
      omega
    exact .bind (caseOf (by decide) (by decide)) (.last (bytes hproof) fun _ => rfl)
  case input event => exact .bind (caseOf (by decide) (by decide)) (.last (.event _) fun _ => rfl)
  case refresh => exact .last (caseOf (by decide) (by decide)) fun _ => rfl
  case resize size => exact .bind (caseOf (by decide) (by decide)) (.last (.size _) fun _ => rfl)
  case disconnect => exact .last (caseOf (by decide) (by decide)) fun _ => rfl

theorem server {m : ServerMessage} (h : (putServer m).size < 2 ^ 64) : Codes Cursor.server m (putServer m) := by
  cases m <;> simp only [putServer] at h ⊢ <;> refine .bind (caseOf (by decide) (by decide)) ?_ <;>
    rw [ByteArray.size_append] at h
  case challenge nonce =>
    rw [size_putBytes] at h
    exact .last (bytes (by omega)) fun _ => rfl
  case verdict accepted => exact .last (bool _) fun _ => rfl
  case update | updatePart => exact .last (update (by omega)) fun _ => rfl

end Codes

/-! ### Payloads -/

/-- What `limited` lets through is the message as it stands, no longer than a frame. -/
theorem limited_eq_ok_iff {written payload : ByteArray} :
    limited written = .ok payload ↔ written.size ≤ maxFrameLength ∧ written = payload := by
  unfold limited
  split
  next h => simp [h]
  next h => simp [h]

/-- A server's message is sent as it stands if it is no longer than a frame. -/
theorem encode_of_size_le {m : ServerMessage} (h : (putServer m).size ≤ maxFrameLength) :
    m.encode = .ok (putServer m) :=
  limited_eq_ok_iff.2 ⟨h, rfl⟩

/-- A payload that is read as the value it was written for, and as nothing if it is cut short or goes
on. -/
def Delimits {α : Type} (decode : ByteArray → Except DecodeError α) (a : α) (payload : ByteArray) : Prop :=
  decode payload = .ok a ∧ (∀ n < payload.size, ∃ e, decode (payload.extract 0 n) = .error e) ∧
    ∀ extra : ByteArray, extra.size ≠ 0 → ∃ e, decode (payload ++ extra) = .error e

theorem delimits_client {m : ClientMessage} {payload : ByteArray} (h : m.encode = .ok payload) :
    Delimits ClientMessage.decode m payload := by
  obtain ⟨hsize, rfl⟩ := limited_eq_ok_iff.1 h
  exact (Codes.client (Nat.lt_of_le_of_lt hsize (by decide))).of_whole

theorem delimits_server {m : ServerMessage} {payload : ByteArray} (h : m.encode = .ok payload) :
    Delimits ServerMessage.decode m payload := by
  obtain ⟨hsize, rfl⟩ := limited_eq_ok_iff.1 h
  exact (Codes.server (Nat.lt_of_le_of_lt hsize (by decide))).of_whole

/-- **Decoding undoes encoding.** The payload of a message of either side is read back exactly; every
payload that is cut short is refused, and so is every one that goes on. -/
theorem decode_encode :
    (∀ (m : ClientMessage) (payload : ByteArray), m.encode = .ok payload → Delimits ClientMessage.decode m payload) ∧
      ∀ (m : ServerMessage) (payload : ByteArray), m.encode = .ok payload → Delimits ServerMessage.decode m payload :=
  ⟨fun _ _ => delimits_client, fun _ _ => delimits_server⟩

theorem decode_encode_resize_verdict :
    (ClientMessage.resize ⟨640, 250⟩).encode = .ok (Bytes.ofList [4, 251, 128, 2, 250]) ∧
      Delimits ClientMessage.decode (.resize ⟨640, 250⟩) (Bytes.ofList [4, 251, 128, 2, 250]) ∧
      (ServerMessage.verdict true).encode = .ok (Bytes.ofList [1, 1]) ∧
      Delimits ServerMessage.decode (.verdict true) (Bytes.ofList [1, 1]) := by
  have hresize : (ClientMessage.resize ⟨640, 250⟩).encode = .ok (Bytes.ofList [4, 251, 128, 2, 250]) := by rfl
  have hverdict : (ServerMessage.verdict true).encode = .ok (Bytes.ofList [1, 1]) := by rfl
  exact ⟨hresize, decode_encode.1 _ _ hresize, hverdict, decode_encode.2 _ _ hverdict⟩

end RemoteDesktop.Wire
