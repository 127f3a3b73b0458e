import RemoteDesktop.Text.Utf8
import RemoteDesktop.Wire.Integer

/-!
# Reading a payload

A `Cursor` is a payload and a place in it; its view is `rest`, the bytes not yet read. Every reader of
the message format is built from two: `byte` takes one byte and `take` takes a given number of them.
-/

namespace RemoteDesktop.Wire

/-- Why a payload is not a message. -/
inductive DecodeError where
  /-- The payload ends inside a number or a list. -/
  | endOfInput
  /-- The payload ends inside a text. -/
  | cutText
  /-- An integer does not fit the `bits` of its field. -/
  | tooLarge (bits value : Nat)
  /-- An integer announces sixteen bytes. -/
  | tooWide
  /-- An integer starts with the extension byte. -/
  | extension
  /-- No case of the message has this number. -/
  | unknownCase (index cases : Nat)
  /-- A text is not UTF-8. -/
  | notUtf8 (flaw : Text.Utf8.Flaw)
  /-- A truth value is neither 0 nor 1. -/
  | notBool (byte : UInt8)
  /-- The payload goes on after the message. -/
  | trailingBytes
  deriving DecidableEq, Repr

/-- The wording of a decoding error. -/
def DecodeError.message : DecodeError → String
  | endOfInput => "io error: unexpected end of file"
  | cutText => "io error: "
  | tooLarge bits value => s!"Invalid u{bits} {value}: you may have a version disagreement?"
  | tooWide => "Invalid value (u128 range): you may have a version or configuration disagreement?"
  | extension =>
    "\nByte 255 is treated as an extension point; it should not be encoding anything.\n"
      ++ "Do you have a mismatched bincode version or configuration?\n"
  | unknownCase index cases =>
    s!"invalid value: integer `{index}`, expected variant index 0 <= i < {cases}"
  | notUtf8 flaw => s!"string is not valid utf8: {flaw.message}"
  | notBool byte => s!"invalid u8 while decoding bool, expected 0 or 1, found {byte}"
  | trailingBytes => "Slice had bytes remaining after deserialization"

/-- A place in a payload. -/
structure Cursor where
  payload : ByteArray
  position : Nat

namespace Cursor

/-- The bytes not yet read. -/
def rest (c : Cursor) : List UInt8 := c.payload.data.toList.drop c.position

/-- The number of bytes not yet read. -/
def remaining (c : Cursor) : Nat := c.payload.size - c.position

theorem length_rest (c : Cursor) : c.rest.length = c.remaining := by
  simp only [rest, remaining, List.length_drop, Array.length_toList, ByteArray.size_data]

/-- The first byte not yet read. -/
def byte (c : Cursor) : Except DecodeError (UInt8 × Cursor) :=
  if h : c.position < c.payload.size then
    .ok (c.payload[c.position], { c with position := c.position + 1 })
  else .error .endOfInput

/-- The next `n` bytes; `missing` says why, if there are fewer. -/
def take (missing : DecodeError) (n : Nat) (c : Cursor) : Except DecodeError (ByteArray × Cursor) :=
  if n ≤ c.remaining then
    .ok (c.payload.extract c.position (c.position + n), { c with position := c.position + n })
  else .error missing

/-- An integer of any form. -/
def integer (c : Cursor) : Except DecodeError (Nat × Cursor) := do
  let (first, c) ← c.byte
  match Integer.announced first with
  | .value n => return (n, c)
  | .wide n =>
    let (bytes, c) ← c.take .endOfInput n
    return (Bytes.leNat bytes.toList, c)
  | .tooWide => throw .tooWide
  | .extension => throw .extension

/-- An integer that fits the given number of bits. -/
def bounded (bits : Nat) (c : Cursor) : Except DecodeError (Nat × Cursor) := do
  let (n, c) ← c.integer
  if n < Nat.pow 2 bits then return (n, c) else throw (.tooLarge bits n)

def u16 (c : Cursor) : Except DecodeError (UInt16 × Cursor) := do
  let (n, c) ← c.bounded 16
  return (UInt16.ofNat n, c)

def u32 (c : Cursor) : Except DecodeError (UInt32 × Cursor) := do
  let (n, c) ← c.bounded 32
  return (UInt32.ofNat n, c)

def u64 (c : Cursor) : Except DecodeError (UInt64 × Cursor) := do
  let (n, c) ← c.bounded 64
  return (UInt64.ofNat n, c)

/-- The number of a case, of which there are `cases`. -/
def caseOf (cases : Nat) (c : Cursor) : Except DecodeError (Nat × Cursor) := do
  let (n, c) ← c.bounded 32
  if n < cases then return (n, c) else throw (.unknownCase n cases)

/-- A truth value. -/
def bool (c : Cursor) : Except DecodeError (Bool × Cursor) := do
  let (b, c) ← c.byte
  if b = 0 then return (false, c)
  else if b = 1 then return (true, c)
  else throw (.notBool b)

/-- A byte string after its length. -/
def bytes (c : Cursor) : Except DecodeError (ByteArray × Cursor) := do
  let (n, c) ← c.integer
  c.take .endOfInput n

/-- A text after the length of its UTF-8 form. -/
def text (c : Cursor) : Except DecodeError (String × Cursor) := do
  let (n, c) ← c.integer
  let (bytes, c) ← c.take .cutText n
  match String.fromUTF8? bytes with
  | some text => return (text, c)
  | none => throw (.notUtf8 ((Text.Utf8.flaw? bytes).getD ⟨0, none⟩))

/-- `n` items, one after the other. -/
def items {α : Type} (item : Cursor → Except DecodeError (α × Cursor)) :
    (n : Nat) → Cursor → Except DecodeError (List α × Cursor)
  | 0, c => .ok ([], c)
  | n + 1, c => do
    let (first, c) ← item c
    let (rest, c) ← items item n c
    return (first :: rest, c)

end Cursor

end RemoteDesktop.Wire
