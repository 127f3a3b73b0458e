import RemoteDesktop.Handover.Transfer
import RemoteDesktop.Proofs.Bytes

/-!
# What is read from a document that was cut

A reader of a channel that broke off may find any front of the document that was to be sent. It takes no
document at all unless all of it has arrived (`eq_withHeader_of_takeDocument`). A verdict needs more care,
because the reason of a refusal may have any length, and the length in front of the document only 32 bits:
whatever front of a refusal is read, it is never read as consent (`Verdict.accepted_of_no`).
-/

namespace RemoteDesktop

open Document
open Document.RecordReader (required)

/-- What is read of a written value is what the reader makes of its text. -/
theorem Document.Json.read_write {α : Type} {reader : Reader α} {value : Value} {a : α} {piece : Json.Piece}
    (hpiece : Json.readValue (2 * (Json.writeValue value).length + 2) (Json.writeValue value) = piece)
    (hread : reader piece.value = .ok a) (hrest : piece.rest.map Json.skipBlanks = some []) :
    Json.read reader (Json.write value) = .ok a := by
  have hdocument : Json.document (Json.write value) = piece := by
    rw [Json.document, Json.write, String.toList_ofList, String.length_ofList, hpiece]
  rw [Json.read]
  simp only [hdocument, hread, bind, Except.bind, hrest]

namespace Handover

/-! ### Documents behind their length -/

variable {bytes document taken : List UInt8}

theorem takeExactly_eq_ok {n : Nat} {front rest : List UInt8} (h : takeExactly n bytes = .ok (front, rest)) :
    front.length = n ∧ bytes = front ++ rest := by
  rw [takeExactly] at h
  split at h
  · cases h
  · obtain ⟨rfl, rfl⟩ := Prod.mk.inj (Except.ok.inj h)
    exact ⟨by rw [List.length_take]; omega, (List.take_append_drop n bytes).symm⟩

theorem takeExactly_append (front rest : List UInt8) :
    takeExactly front.length (front ++ rest) = .ok (front, rest) := by
  rw [takeExactly, if_neg (by rw [List.length_append]; omega), List.take_left, List.drop_left]

/-- A document is taken whole, from behind its length. -/
theorem takeDocument_eq_ok (h : takeDocument bytes = .ok taken) :
    ∃ header rest, header.length = headerLength ∧ taken.length = Bytes.beNat header ∧
      bytes = header ++ (taken ++ rest) := by
  obtain ⟨⟨header, behind⟩, hheader, hrest⟩ := bind_eq_ok_iff.1 h
  obtain ⟨hlength, rfl⟩ := takeExactly_eq_ok hheader
  dsimp only at hrest
  split at hrest
  · cases hrest
  · obtain ⟨⟨body, rest⟩, hbody, hrest⟩ := bind_eq_ok_iff.1 hrest
    cases hrest
    obtain ⟨hbodyLength, rfl⟩ := takeExactly_eq_ok hbody
    exact ⟨header, rest, hlength, hbodyLength, rfl⟩

/-- The length of a document that is not too large is read back. -/
theorem beNat_header (hsize : document.length ≤ HandoverState.maxDocumentLength) :
    Bytes.beNat (Bytes.beBytes headerLength document.length) = document.length := by
  apply Bytes.beNat_beBytes
  have hmax : HandoverState.maxDocumentLength < 256 ^ headerLength := by decide
  omega

theorem takeDocument_withHeader (hsize : document.length ≤ HandoverState.maxDocumentLength) :
    takeDocument (withHeader document) = .ok document := by
  have hheader := takeExactly_append (Bytes.beBytes headerLength document.length) document
  have hbody := takeExactly_append document []
  rw [Bytes.length_beBytes] at hheader
  rw [List.append_nil] at hbody
  rw [takeDocument, withHeader, hheader]
  simp only [bind, Except.bind, beNat_header hsize, if_neg (Nat.not_lt.2 hsize), hbody]
  rfl

/-- What is taken from a front of a document with its length is a front of the document. -/
theorem takeDocument_front (hfront : bytes <+: withHeader document) (h : takeDocument bytes = .ok taken) :
    ∃ rest, bytes = Bytes.beBytes headerLength document.length ++ (taken ++ rest) ∧ taken ++ rest <+: document ∧
      taken.length = Bytes.beNat (Bytes.beBytes headerLength document.length) := by
  obtain ⟨header, rest, hlength, htaken, rfl⟩ := takeDocument_eq_ok h
  obtain ⟨missing, hmissing⟩ := hfront
  rw [withHeader, List.append_assoc] at hmissing
  obtain ⟨rfl, hdocument⟩ := List.append_inj hmissing (hlength.trans (Bytes.length_beBytes _ _).symm)
  exact ⟨rest, rfl, ⟨missing, hdocument⟩, htaken⟩

/-- From a front of a document that is not too large, nothing is taken unless it is all of it. -/
theorem eq_withHeader_of_takeDocument (hfront : bytes <+: withHeader document)
    (hsize : document.length ≤ HandoverState.maxDocumentLength) (h : takeDocument bytes = .ok taken) :
    bytes = withHeader document := by
  obtain ⟨rest, rfl, ⟨missing, rfl⟩, htaken⟩ := takeDocument_front hfront h
  rw [beNat_header hsize, List.length_append, List.length_append] at htaken
  have hrest : rest = [] := List.eq_nil_of_length_eq_zero (by omega)
  have hmissing : missing = [] := List.eq_nil_of_length_eq_zero (by omega)
  rw [withHeader, hmissing, hrest, List.append_nil, List.append_nil]

theorem readBytes_toUTF8 {α : Type} {read : String → Document.Result α} {text : String} {a : α}
    (h : read text = .ok a) : readBytes read text.toUTF8.toList = .ok a := by
  have hbytes : Bytes.ofList text.toUTF8.toList = text.toUTF8 := by
    apply Bytes.ext_toList
    rw [Bytes.toList_ofList, Bytes.toList_eq]
  rw [readBytes, hbytes, Bytes.fromUTF8?_toUTF8]
  simp only [h]

/-- The text that a front of a text's bytes holds is a front of that text. -/
theorem readBytes_front {α : Type} {read : String → Document.Result α} {text : String} {a : α}
    (hfront : bytes <+: text.toUTF8.toList) (h : readBytes read bytes = .ok a) :
    ∃ front : String, front.toList <+: text.toList ∧ read front = .ok a := by
  rw [readBytes] at h
  cases hutf8 : String.fromUTF8? (Bytes.ofList bytes) with
  | none =>
    rw [hutf8] at h
    cases h
  | some front =>
    rw [hutf8] at h
    have hfrontBytes : front.toUTF8 = Bytes.ofList bytes := by
      rw [String.fromUTF8?] at hutf8
      split at hutf8
      · cases hutf8
        rfl
      · cases hutf8
    refine ⟨front, ?_, ?_⟩
    · obtain ⟨missing, hmissing⟩ := hfront
      apply List.isPrefix_of_utf8Encode_append_eq_utf8Encode (Bytes.ofList missing)
      rw [String.utf8Encode_toList, String.utf8Encode_toList]
      apply Bytes.ext_toList
      have hbytes : front.toByteArray = Bytes.ofList bytes := hfrontBytes
      rw [ByteArray.toList_data_append, hbytes, Bytes.toList_ofList, Bytes.toList_ofList, hmissing, Bytes.toList_eq]
      rfl
    · simp only at h
      split at h
      · cases h
      · cases h
        assumption

/-- A state whose document arrives as a whole is read, however its header is cut. -/
theorem Offer.receive_whole {o : Offer} {text : String} {state : HandoverState} (hdescriptors : o.descriptors ≠ 0)
    (hfirst : o.first ≠ []) (hbytes : o.first ++ o.rest = withHeader text.toUTF8.toList)
    (hsize : text.toUTF8.toList.length ≤ HandoverState.maxDocumentLength) (hread : HandoverState.read text = .ok state)
    (hversion : state.version = HandoverState.currentVersion) : o.receive = .ok state := by
  have hempty : o.first.isEmpty = false := by rwa [List.isEmpty_eq_false_iff]
  rw [Offer.receive, hbytes, takeDocument_withHeader hsize]
  simp only [bind, Except.bind, if_neg hdescriptors, hempty, readBytes_toUTF8 hread, if_pos hversion]
  rfl

/-! ### A refusal -/

/-- An element is the first of its series, whatever follows it. -/
theorem elements_continue {α : Type} (close : Char) (more : List Char → Json.Series α) (element : α)
    (rest : Option (List Char)) :
    ∃ others, (Json.Series.continue close more element rest).elements = element :: others := by
  cases rest with
  | none => exact ⟨[], rfl⟩
  | some rest =>
    simp only [Json.Series.continue]
    split
    · exact ⟨[], rfl⟩
    · split
      · exact ⟨[], rfl⟩
      · split
        · exact ⟨_, rfl⟩
        · exact ⟨[], rfl⟩

/-- A field that was found is not found again with another value. -/
theorem lookup_collect {α : Type} {reader : RecordReader α} {name : String} {value : Value}
    {entries : List (Value × Value)} {before found : List (String × Value)}
    (hbefore : before.lookup name = some value) (h : reader.collect before entries = .ok found) :
    found.lookup name = some value := by
  induction entries generalizing before with
  | nil =>
    cases h
    exact hbefore
  | cons entry entries ih =>
    obtain ⟨key, other⟩ := entry
    rw [RecordReader.collect] at h
    obtain ⟨otherName, -, h⟩ := bind_eq_ok_iff.1 h
    split at h
    · obtain ⟨_, -, h⟩ := bind_eq_ok_iff.1 h
      exact ih hbefore h
    · split at h
      · cases h
      next hnew =>
        obtain ⟨_, -, h⟩ := bind_eq_ok_iff.1 h
        refine ih ?_ h
        have hother : (name == otherName) = false := by
          rw [beq_eq_false_iff_ne]
          intro hsame
          rw [← hsame, hbefore] at hnew
          exact hnew rfl
        rw [List.lookup_cons, hother]
        exact hbefore

namespace Verdict

/-- What every refusal begins with. -/
def refusalStart : List Char := "\x7b\"accepted\":false".toList

theorem write_no (e : HandoverError) : ∃ tail, (no e).write.toList = refusalStart ++ tail :=
  ⟨_, String.toList_ofList⟩

/-- Whatever comes after the start, the first entry is that of a refusal. -/
theorem readEntries_refusal (fuel : Nat) (tail : List Char) :
    ∃ entries, (Json.readEntries (fuel + 2) ("\"accepted\":false".toList ++ tail)).elements =
      (.ofString "accepted", .boolean false) :: entries := by
  have hkey : Json.readKey (Json.readValue (fuel + 1)) ("\"accepted\":false".toList ++ tail) =
      ⟨.ofString "accepted", some (":false".toList ++ tail)⟩ := rfl
  have hcolon : Json.afterColon (":false".toList ++ tail) = .ok ("false".toList ++ tail) := rfl
  have hvalue : Json.readValue (fuel + 1) ("false".toList ++ tail) = ⟨.boolean false, some tail⟩ := rfl
  rw [Json.readEntries, hkey]
  simp only [Option.map_some, hcolon, hvalue]
  exact elements_continue _ _ _ _

theorem readValue_refusal (fuel : Nat) (tail : List Char) :
    ∃ entries stop, (Json.readValue (fuel + 3) (refusalStart ++ tail)).value =
      .table ((.ofString "accepted", .boolean false) :: entries) stop := by
  obtain ⟨entries, hentries⟩ := readEntries_refusal fuel tail
  refine ⟨entries, (Json.readEntries (fuel + 2) ("\"accepted\":false".toList ++ tail)).stop, ?_⟩
  rw [← hentries]
  rfl

theorem accepted_of_build {fromList accepted : Bool} {find : String → Option Value} {v : Verdict}
    (hfind : find "accepted" = some (.boolean accepted)) (h : reader.build fromList find = .ok v) :
    v.accepted = accepted := by
  have hfirst : (required "accepted" Value.readBoolean).build fromList find = .ok accepted := by
    simp only [required, RecordReader.ofField, hfind, Value.readBoolean]
  have hreader : reader.build fromList find =
      (do
        let f ← (required "accepted" Value.readBoolean).build fromList find >>= fun a => Except.ok (mk a)
        let a ← (RecordReader.withDefault "reason" (Value.readOptional Value.readText) none).build fromList find
        Except.ok (f a)) := rfl
  rw [hreader, hfirst] at h
  obtain ⟨_, ⟨⟩, h⟩ := bind_eq_ok_iff.1 h
  obtain ⟨_, -, h⟩ := bind_eq_ok_iff.1 h
  cases h
  rfl

/-- The first entry of a table decides: a second one of the same name is refused. -/
theorem accepted_of_table {entries : List (Value × Value)} {stop : Option Flaw} {accepted : Bool} {v : Verdict}
    (h : reader.read Json.dialect (.table ((.ofString "accepted", .boolean accepted) :: entries) stop) = .ok v) :
    v.accepted = accepted := by
  have hfirst : reader.collect [] ((.ofString "accepted", .boolean accepted) :: entries) =
      reader.collect [("accepted", .boolean accepted)] entries := rfl
  rw [RecordReader.read, hfirst] at h
  obtain ⟨found, hfound, h⟩ := bind_eq_ok_iff.1 h
  obtain ⟨_, -, h⟩ := bind_eq_ok_iff.1 h
  exact accepted_of_build (lookup_collect rfl hfound) h

theorem reader_of_read {text : String} {v : Verdict} (h : read text = .ok v) :
    reader.read Json.dialect (Json.document text).value = .ok v := by
  rw [read, Json.read] at h
  obtain ⟨v', hvalue, h⟩ := bind_eq_ok_iff.1 h
  split at h
  · cases h
    exact hvalue
  · cases h

/-- A verdict read from any front of a refusal is a refusal. -/
theorem accepted_of_front {text : String} {tail : List Char} {v : Verdict}
    (hfront : text.toList <+: refusalStart ++ tail) (h : read text = .ok v) : v.accepted = false := by
  by_cases hlength : text.toList.length < refusalStart.length
  · -- too little of the refusal is there to be a verdict
    have htooShort : ∀ n < refusalStart.length, (read (String.ofList (refusalStart.take n))).isOk = false := by
      decide +kernel
    have htext : text = String.ofList (refusalStart.take text.toList.length) := by
      have hstart := List.prefix_of_prefix_length_le hfront (List.prefix_append refusalStart tail) (Nat.le_of_lt hlength)
      rw [← List.prefix_iff_eq_take.1 hstart, String.ofList_toList]
    have hnone := htooShort text.toList.length hlength
    rw [← htext, h] at hnone
    cases hnone
  · obtain ⟨after, hafter⟩ :=
      List.prefix_of_prefix_length_le (List.prefix_append refusalStart tail) hfront (Nat.not_lt.1 hlength)
    have hfuel : 2 * text.length + 2 = 2 * text.length - 1 + 3 := by
      rw [← String.length_toList, ← hafter, List.length_append, show refusalStart.length = 17 by decide]
      omega
    obtain ⟨entries, stop, hvalue⟩ := readValue_refusal (2 * text.length - 1) after
    rw [hafter, ← hfuel] at hvalue
    have hread := reader_of_read h
    rw [Json.document, hvalue] at hread
    exact accepted_of_table hread

/-- The verdict of a channel is that of a document in it. -/
theorem receive_eq_ok {bytes : List UInt8} {v : Verdict} (h : receive bytes = .ok v) :
    ∃ taken, takeDocument bytes = .ok taken ∧ readBytes read taken = .ok v := by
  exact bind_eq_ok_iff.1 h

/-- However much of a refusal arrives, it is not read as consent. -/
theorem accepted_of_no {bytes : List UInt8} {e : HandoverError} {v : Verdict} (hfront : bytes <+: packet (no e))
    (h : receive bytes = .ok v) : v.accepted = false := by
  obtain ⟨taken, htaken, hread⟩ := receive_eq_ok h
  obtain ⟨rest, -, hdocument, -⟩ := takeDocument_front hfront htaken
  obtain ⟨front, htext, hverdict⟩ := readBytes_front ((List.prefix_append taken rest).trans hdocument) hread
  obtain ⟨tail, htail⟩ := write_no e
  rw [htail] at htext
  exact accepted_of_front htext hverdict

theorem receive_yes : receive (packet yes) = .ok yes := by
  decide +kernel

/-- Consent is read only when all of it has arrived. -/
theorem eq_packet_of_receive {bytes : List UInt8} {v : Verdict} (hfront : bytes <+: packet yes)
    (h : receive bytes = .ok v) : bytes = packet yes := by
  obtain ⟨taken, htaken, -⟩ := receive_eq_ok h
  exact eq_withHeader_of_takeDocument hfront (by decide +kernel) htaken

end Verdict

end Handover

end RemoteDesktop
