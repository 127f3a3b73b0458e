import RemoteDesktop.Proofs.Document.Json
import RemoteDesktop.Proofs.Document.Reader
import RemoteDesktop.Proofs.Handover.Agreement
import RemoteDesktop.Proofs.Net.Address

/-!
# The handover document is read back

What one process writes of a session the other reads: every field of a state is found again in the value of the
state (`HandoverState.read_toValue`), the value in its text (`HandoverState.read_write_state`), and the text behind
its length, however the four bytes of the header are cut (`Handover.Offer.receive_packet`). A document that is too large is not sent, and one that is announced as too
large is refused whatever follows the header.

Main statement: `document_travels`.
-/

namespace RemoteDesktop

open Document
open Document.RecordReader (Holds)

/-! ### States as values -/

theorem readAddress_addressValue (address : Net.SocketAddress) : readAddress (addressValue address) = .ok address := by
  simp only [readAddress, addressValue, Value.ofString, Value.readText, bind, Except.bind, String.toList_ofList,
    address.ofText?_write]

theorem readSize_list (size : Size) :
    readSize (.list [.ofNat size.width.toNat, .ofNat size.height.toNat] none) = .ok size := by
  rw [readSize, Value.readPair_list (Value.readWord32_ofNat size.width) (Value.readWord32_ofNat size.height)]
  rfl

theorem ConnectionContext.read_toValue (c : ConnectionContext) : reader.read Json.dialect c.toValue = .ok c := by
  have hpeer : (Value.ofOption addressValue c.peer).readOptional readAddress = .ok c.peer := by
    refine Value.readOptional_ofOption readAddress_addressValue (fun address => ?_) c.peer
    simp [addressValue, Value.ofString]
  have hpending : (Value.list (c.pending.map fun b => .ofNat b.toNat) none).readList Value.readByte = .ok c.pending :=
    Value.readList_map Value.readByte_ofNat c.pending
  have husername : (Value.ofString c.username).readText = .ok c.username := rfl
  have hholds := ((((Holds.required "username" husername).map mk).seq (Holds.nullable "peer" hpeer)).seq
    (Holds.required "requested_size" (readSize_list c.requested))).seq (Holds.required "pending_input" hpending)
  exact Holds.read hholds (by simp) Json.dialect

theorem SessionSettings.read_toValue (s : SessionSettings) : reader.read Json.dialect s.toValue = .ok s := by
  have hmode : (Value.ofString s.mode.name).readChoice Json.dialect Mode.ofName? = .ok s.mode :=
    Value.readChoice_ofString s.mode.ofName?_name
  have hchanges : (Value.boolean s.onlyChanges).readBoolean = .ok s.onlyChanges := rfl
  have hwidth := Holds.required "width" (Value.readWord32_ofNat s.size.width)
  have hheight := Holds.required "height" (Value.readWord32_ofNat s.size.height)
  have hnext := Holds.required "next_sequence" (Value.readWord64_ofNat s.nextSequence)
  have hholds := ((((hwidth.map
    fun width height mode onlyChanges next => SessionSettings.mk ⟨width, height⟩ mode onlyChanges next).seq hheight).seq
    (Holds.required "mode" hmode)).seq (Holds.required "enable_frame_diff" hchanges)).seq hnext
  exact Holds.read hholds (by simp) Json.dialect

namespace HandoverState

theorem read_toValue (s : HandoverState) : reader.read Json.dialect s.toValue = .ok s := by
  have hholds := (((Holds.required "version" (Value.readWord16_ofNat s.version)).map mk).seq
    (Holds.required "connection" s.connection.read_toValue)).seq (Holds.required "session" s.session.read_toValue)
  exact Holds.read hholds (by simp) Json.dialect

/-! ### States as texts -/

theorem writable_ofNat {n : Nat} (h : n < 0x1_0000_0000_0000_0000) : (Value.ofNat n).Writable :=
  .integer (by omega) (by omega)

theorem writable_connection (c : ConnectionContext) : c.toValue.Writable := by
  refine .ofEntries fun entry hentry => ?_
  simp only [List.mem_cons, List.not_mem_nil, or_false] at hentry
  rcases hentry with rfl | rfl | rfl | rfl
  · exact .ofString _
  · cases c.peer with
    | none => exact .null
    | some address => exact .ofString _
  · refine .list fun item hitem => ?_
    simp only [List.mem_cons, List.not_mem_nil, or_false] at hitem
    rcases hitem with rfl | rfl
    · exact writable_ofNat (Nat.lt_trans (UInt32.toNat_lt _) (by decide))
    · exact writable_ofNat (Nat.lt_trans (UInt32.toNat_lt _) (by decide))
  · refine .list fun item hitem => ?_
    obtain ⟨b, -, rfl⟩ := List.mem_map.1 hitem
    exact writable_ofNat (Nat.lt_trans (UInt8.toNat_lt b) (by decide))

theorem writable_session (s : SessionSettings) : s.toValue.Writable := by
  refine .ofEntries fun entry hentry => ?_
  simp only [List.mem_cons, List.not_mem_nil, or_false] at hentry
  rcases hentry with rfl | rfl | rfl | rfl | rfl
  · exact writable_ofNat (Nat.lt_trans (UInt32.toNat_lt _) (by decide))
  · exact writable_ofNat (Nat.lt_trans (UInt32.toNat_lt _) (by decide))
  · exact .ofString _
  · exact .boolean _
  · exact writable_ofNat (UInt64.toNat_lt _)

theorem writable_toValue (s : HandoverState) : s.toValue.Writable := by
  refine .ofEntries fun entry hentry => ?_
  simp only [List.mem_cons, List.not_mem_nil, or_false] at hentry
  rcases hentry with rfl | rfl | rfl
  · exact writable_ofNat (Nat.lt_trans (UInt16.toNat_lt _) (by decide))
  · exact writable_connection _
  · exact writable_session _

/-- A state is read back from its document, whatever its version. -/
theorem read_write_state (s : HandoverState) : read s.write = .ok s := by
  rw [read, write, Json.read_writable _ s.writable_toValue, s.read_toValue]

end HandoverState

/-! ### Offers -/

namespace Handover

theorem withHeader_ne_nil (document : List UInt8) : withHeader document ≠ [] := by
  intro hnil
  have hlength := congrArg List.length hnil
  rw [withHeader, List.length_append, Bytes.length_beBytes] at hlength
  exact absurd hlength (by simp [headerLength])

/-- A length beyond the limit is refused, whatever comes behind it. -/
theorem takeDocument_tooLarge {header : List UInt8} (hheader : header.length = headerLength)
    (hlarge : HandoverState.maxDocumentLength < Bytes.beNat header) (body : List UInt8) :
    takeDocument (header ++ body) = .error (.tooLarge (Bytes.beNat header)) := by
  rw [takeDocument, ← hheader, takeExactly_append header body]
  exact if_pos hlarge

namespace Offer

variable {split : Nat} {bytes document : List UInt8}

/-- Some bytes come with the descriptor, and then the document is looked at. -/
theorem receive_ofPacket (hsplit : 1 ≤ split) (hbytes : bytes ≠ []) :
    (ofPacket split bytes).receive = (do
      let state ← readBytes HandoverState.read (← takeDocument bytes)
      if state.version = HandoverState.currentVersion then return state
      else throw (.versionMismatch state.version HandoverState.currentVersion)) := by
  have hfirst : (bytes.take split).isEmpty = false := by
    rw [List.isEmpty_eq_false_iff, Ne, List.take_eq_nil_iff]
    rintro (hnone | hnil)
    · omega
    · exact hbytes hnil
  simp only [ofPacket, receive, hfirst, List.take_append_drop]
  rfl

/-- The packet of a state is read as the state, or refused for its version, however its header is cut. -/
theorem receive_packet (s : HandoverState)
    (hsize : s.write.toUTF8.toList.length ≤ HandoverState.maxDocumentLength) (hsplit : 1 ≤ split) :
    (ofPacket split (withHeader s.write.toUTF8.toList)).receive =
      if s.version = HandoverState.currentVersion then .ok s
      else .error (.versionMismatch s.version HandoverState.currentVersion) := by
  rw [receive_ofPacket hsplit (withHeader_ne_nil _), takeDocument_withHeader hsize]
  simp only [bind, Except.bind, readBytes_toUTF8 s.read_write_state]
  rfl

/-- A length beyond the limit is refused, however it is cut and whatever comes behind it. -/
theorem receive_tooLarge {header : List UInt8} (hheader : header.length = headerLength)
    (hlarge : HandoverState.maxDocumentLength < Bytes.beNat header) (hsplit : 1 ≤ split) (body : List UInt8) :
    (ofPacket split (header ++ body)).receive = .error (.tooLarge (Bytes.beNat header)) := by
  have hpacket : header ++ body ≠ [] := by
    intro hnil
    rw [(List.append_eq_nil_iff.1 hnil).1] at hheader
    cases hheader
  rw [receive_ofPacket hsplit hpacket, takeDocument_tooLarge hheader hlarge]
  rfl

end Offer

/-- Nothing is written of a document that is too large. -/
theorem forth_eq_nil_of_tooLarge {d : DetachedConnection} {settings : SessionSettings} {x : Exchange}
    (hrun : Exchange.Run (.initial d settings) x) (hlarge : HandoverState.maxDocumentLength < x.document.length) :
    x.forth.bytes = [] := by
  by_contra hsome
  have hfits := ((Exchange.sound_initial d settings).run hrun).fits hsome
  exact absurd hlarge (Nat.not_lt.2 hfits)

/-- **The handover document travels.** Whatever the state: if its document is not too large it is read back from the
packet however the header is cut, or refused for its version; else no byte of it is written. A length beyond the
limit is refused before anything behind it is looked at. A state that was read from any document is read again from
the document that is written of it. -/
theorem document_travels :
    (∀ s : HandoverState, s.write.toUTF8.toList.length ≤ HandoverState.maxDocumentLength →
      ∃ bytes, packet s = .ok bytes ∧ ∀ split, 1 ≤ split → split ≤ headerLength →
        (s.version = HandoverState.currentVersion → (Offer.ofPacket split bytes).receive = .ok s) ∧
          (s.version ≠ HandoverState.currentVersion → (Offer.ofPacket split bytes).receive =
            .error (.versionMismatch s.version HandoverState.currentVersion))) ∧
      (∀ s : HandoverState, HandoverState.maxDocumentLength < s.write.toUTF8.toList.length →
        packet s = .error (.tooLarge s.write.toUTF8.toList.length)) ∧
      (∀ d settings x, Exchange.Run (.initial d settings) x → HandoverState.maxDocumentLength < x.document.length →
        x.forth.bytes = []) ∧
      (∀ header : List UInt8, header.length = headerLength → HandoverState.maxDocumentLength < Bytes.beNat header →
        ∀ split, 1 ≤ split → split ≤ headerLength → ∀ body,
          (Offer.ofPacket split (header ++ body)).receive = .error (.tooLarge (Bytes.beNat header))) ∧
      (∀ text s, HandoverState.read text = .ok s → HandoverState.read s.write = .ok s) ∧
      ∀ o s, Offer.receive o = .ok s → readBytes HandoverState.read s.write.toUTF8.toList = .ok s := by
  refine ⟨fun s hsize => ?_, fun s hlarge => if_pos hlarge, fun _ _ _ => forth_eq_nil_of_tooLarge, ?_,
    fun _ s _ => s.read_write_state, fun _ s _ => readBytes_toUTF8 s.read_write_state⟩
  · refine ⟨withHeader s.write.toUTF8.toList, if_neg (Nat.not_lt.2 hsize), fun split hsplit _ => ?_⟩
    have hreceive := Offer.receive_packet s hsize hsplit
    exact ⟨fun hversion => hreceive.trans (if_pos hversion), fun hversion => hreceive.trans (if_neg hversion)⟩
  · intro header hheader hlarge split hsplit _ body
    exact Offer.receive_tooLarge hheader hlarge hsplit body

end Handover

end RemoteDesktop
