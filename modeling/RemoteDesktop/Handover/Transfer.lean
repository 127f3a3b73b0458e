import RemoteDesktop.Handover.Error
import RemoteDesktop.Handover.State

/-!
# The handover stream

Two processes agree on a handover over a stream that can carry descriptors. The one that gives a session
away sends the descriptor of its connection together with the first bytes of a document; the other
answers with a verdict. Every document follows its length in four bytes, most significant first.
-/

namespace RemoteDesktop

namespace Handover

/-- The length of the header of a document. -/
def headerLength : Nat := 4

/-- A document with its length in front. -/
def withHeader (document : List UInt8) : List UInt8 :=
  Bytes.beBytes headerLength document.length ++ document

/-- The bytes that announce and hold a state, if it is not too large. -/
def packet (s : HandoverState) : Except HandoverError (List UInt8) :=
  let document := s.write.toUTF8.toList
  if HandoverState.maxDocumentLength < document.length then .error (.tooLarge document.length)
  else .ok (withHeader document)

/-- The reason of a stream that ends inside a document. -/
def cutShort : HandoverError := .io "failed to fill whole buffer"

/-- The wording of a flaw in a document. -/
def flawText : Document.ReadError → String
  | .malformed => "not a document"
  | .unfit => "another kind of document"
  | .cutShort => "the document ends too soon"

/-- The first `n` of the bytes that follow, and the rest. -/
def takeExactly (n : Nat) (bytes : List UInt8) : Except HandoverError (List UInt8 × List UInt8) :=
  if bytes.length < n then .error cutShort else .ok (bytes.take n, bytes.drop n)

/-- The document at the front of a stream. A length beyond the limit is refused before the document. -/
def takeDocument (bytes : List UInt8) : Except HandoverError (List UInt8) := do
  let (header, bytes) ← takeExactly headerLength bytes
  let length := Bytes.beNat header
  if HandoverState.maxDocumentLength < length then throw (.tooLarge length)
  return (← takeExactly length bytes).1

/-- What a document of bytes says. -/
def readBytes {α : Type} (read : String → Document.Result α) (bytes : List UInt8) :
    Except HandoverError α :=
  match String.fromUTF8? (Bytes.ofList bytes) with
  | none => .error (.document (flawText .malformed))
  | some text =>
    match read text with
    | .error flaw => .error (.document (flawText flaw))
    | .ok a => .ok a

/-- What arrives at the process that takes a session over. -/
structure Offer where
  /-- The number of descriptors that came with the first bytes. -/
  descriptors : Nat
  /-- The bytes that came with the descriptors: at most a header. -/
  first : List UInt8
  /-- The bytes after them, up to the end of the stream. -/
  rest : List UInt8
  deriving DecidableEq, Repr

/-- The state that an offer holds. Descriptors after the first are ignored. -/
def Offer.receive (o : Offer) : Except HandoverError HandoverState := do
  if o.descriptors = 0 then throw .noDescriptor
  if o.first.isEmpty then throw (.io "unexpected end of file")
  let state ← readBytes HandoverState.read (← takeDocument (o.first ++ o.rest))
  if state.version = HandoverState.currentVersion then return state
  else throw (.versionMismatch state.version HandoverState.currentVersion)

/-- An offer as it arrives: the header is cut after `split` bytes. -/
def Offer.ofPacket (split : Nat) (packet : List UInt8) : Offer :=
  ⟨1, packet.take split, packet.drop split⟩

/-! ### The verdict -/

/-- The answer of the process that was offered a session. -/
structure Verdict where
  accepted : Bool
  reason : Option String
  deriving DecidableEq, Repr

namespace Verdict

open Document
open Document.RecordReader (required nullable)

/-- The session goes on here. -/
def yes : Verdict := ⟨true, none⟩

/-- The session does not go on here. -/
def no (e : HandoverError) : Verdict := ⟨false, some e.message⟩

def toValue (v : Verdict) : Value :=
  .ofEntries [("accepted", .boolean v.accepted), ("reason", .ofOption .ofString v.reason)]

def reader : RecordReader Verdict :=
  mk <$> required "accepted" Value.readBoolean
    <*> RecordReader.withDefault "reason" (Value.readOptional Value.readText) none

/-- The document of a verdict. -/
def write (v : Verdict) : String := Json.write v.toValue

/-- The verdict that a document holds. -/
def read (text : String) : Result Verdict := Json.read (reader.read Json.dialect) text

/-- The bytes that announce and hold a verdict. -/
def packet (v : Verdict) : List UInt8 := withHeader v.write.toUTF8.toList

/-- The verdict at the front of a stream. -/
def receive (bytes : List UInt8) : Except HandoverError Verdict := do
  readBytes read (← takeDocument bytes)

/-- What the verdict means for the process that gave the session away. -/
def outcome (v : Verdict) : Except HandoverError Unit :=
  if v.accepted then .ok () else .error (.rejected (v.reason.getD "no reason given"))

end Verdict

end Handover

end RemoteDesktop
