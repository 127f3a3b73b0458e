import RemoteDesktop.Bytes
import RemoteDesktop.Document.Value

/-!
# Texts in JSON

A text stands between quotes; a quote, a backslash and the control characters in it are written as
escapes. An escape may also name a UTF-16 code unit, and two such escapes a character outside the first
plane; a half of such a pair alone spells no character.
-/

namespace RemoteDesktop.Document.Json

/-- A value and what follows it. Nothing follows a value in which the text goes wrong. -/
structure Piece where
  value : Value
  rest : Option (List Char)

/-- A value in which the text goes wrong. What is no name is refused as a name at its first character,
wherever the text goes wrong later. -/
def Piece.broken (used skipped : Flaw) (named : ReadError := .malformed) : Piece :=
  ⟨.broken used skipped named, none⟩

/-! ### Writing -/

/-- How a character is written in a text. -/
def escapeChar (c : Char) : List Char :=
  match c with
  | '"' => ['\\', '"']
  | '\\' => ['\\', '\\']
  | '\x08' => ['\\', 'b']
  | '\x0c' => ['\\', 'f']
  | '\n' => ['\\', 'n']
  | '\r' => ['\\', 'r']
  | '\t' => ['\\', 't']
  | c => if c.toNat < 0x20 then "\\u00".toList ++ Bytes.hexByte false (UInt8.ofNat c.toNat) else [c]

/-- A text in quotes. -/
def writeText (s : String) : List Char := '"' :: s.toList.flatMap escapeChar ++ ['"']

/-! ### Reading -/

/-- The character that a one-letter escape stands for. -/
def letterEscape? : Char → Option Char
  | '"' => some '"'
  | '\\' => some '\\'
  | '/' => some '/'
  | 'b' => some '\x08'
  | 'f' => some '\x0c'
  | 'n' => some '\n'
  | 'r' => some '\r'
  | 't' => some '\t'
  | _ => none

/-- The code unit that four hexadecimal digits write, and what follows. The text is cut short if fewer
than four bytes are left. -/
def readUnit : List Char → Except Flaw (Nat × List Char)
  | a :: b :: c :: d :: rest =>
    match [a, b, c, d].mapM Bytes.hexValue? with
    | some digits => .ok (digits.foldl (fun n d => 16 * n + d) 0, rest)
    | none => .error .malformed
  | text => .error (if text.foldr (fun c n => c.utf8Size + n) 0 < 4 then .cutShort else .malformed)

/-- A code unit that begins a pair. -/
def isLeading (n : Nat) : Bool := 0xD800 ≤ n && n < 0xDC00

/-- A code unit that ends a pair. -/
def isTrailing (n : Nat) : Bool := 0xDC00 ≤ n && n < 0xE000

/-- The character of an escaped code unit, or of a pair of them, and what follows; no character if the
unit is half of a pair and the other half is missing. -/
def readUnits (text : List Char) : Except Flaw (Option Char × List Char) := do
  let (unit, rest) ← readUnit text
  if isTrailing unit then .ok (none, rest)
  else if isLeading unit then
    match rest with
    | [] | ['\\'] => .error .cutShort
    | '\\' :: 'u' :: after => do
      let (second, after) ← readUnit after
      if isTrailing second then
        .ok (some (Char.ofNat (0x10000 + 0x400 * (unit - 0xD800) + (second - 0xDC00))), after)
      else .ok (none, rest)
    | _ => .ok (none, rest)
  else .ok (some (Char.ofNat unit), rest)

/-- What the escape after a backslash stands for, and what follows it. -/
def readEscape : List Char → Except Flaw (Option Char × List Char)
  | [] => .error .cutShort
  | 'u' :: rest => readUnits rest
  | c :: rest =>
    match letterEscape? c with
    | some e => .ok (some e, rest)
    | none => .error .malformed

/-- The text up to its closing quote. `spelled` are the characters so far, last first; there are none
after a half of a pair that stands alone. -/
def readTextFrom : (fuel : Nat) → (spelled : Option (List Char)) → List Char → Piece
  | 0, _, _ => .broken .malformed .malformed
  | fuel + 1, spelled, text =>
    let wrong (flaw : Flaw) : Piece :=
      let used := if spelled.isSome then flaw else .malformed
      .broken used flaw used.error
    match text with
    | [] => wrong .cutShort
    | '"' :: rest => ⟨.text (spelled.map fun cs => String.ofList cs.reverse), some rest⟩
    | '\\' :: rest =>
      match readEscape rest with
      | .error flaw => wrong flaw
      | .ok (c, rest) =>
        readTextFrom fuel (match spelled, c with
          | some cs, some c => some (c :: cs)
          | _, _ => none) rest
    | c :: rest =>
      if c.toNat < 0x20 then wrong .malformed
      else readTextFrom fuel (spelled.map (c :: ·)) rest

/-- The text whose opening quote has been read. -/
def readText (text : List Char) : Piece := readTextFrom (text.length + 1) (some []) text

end RemoteDesktop.Document.Json
