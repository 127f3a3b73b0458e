import RemoteDesktop.Document.Json.Number
import RemoteDesktop.Document.Reader

/-!
# JSON

Reading and writing documents as JSON. Written documents have no blanks; a reader takes blanks between
any two symbols and any depth of nesting, and refuses anything but blanks after the document.
-/

namespace RemoteDesktop.Document.Json

/-- A record written as a list has no further items; behind the name of a choice stands null. -/
def dialect : Dialect where
  extraItems := false
  isUnit
    | .null => true
    | _ => false
  notAName := .malformed

/-! ### Writing -/

mutual

/-- The text of a value. Values that no text holds are written as null. -/
def writeValue : Value → List Char
  | .null | .other _ | .text none | .broken .. => "null".toList
  | .boolean true => "true".toList
  | .boolean false => "false".toList
  | .integer n => writeNumber n
  | .text (some s) => writeText s
  | .list items _ => '[' :: writeItems items ++ [']']
  | .table entries _ => '\x7b' :: writeEntries entries ++ ['\x7d']

/-- Values with commas between them. -/
def writeItems : List Value → List Char
  | [] => []
  | [value] => writeValue value
  | value :: items => writeValue value ++ ',' :: writeItems items

/-- Entries with commas between them. -/
def writeEntries : List (Value × Value) → List Char
  | [] => []
  | [entry] => writeEntry entry
  | entry :: entries => writeEntry entry ++ ',' :: writeEntries entries

/-- A key, a colon and a value. -/
def writeEntry : Value × Value → List Char
  | (key, value) => writeValue key ++ ':' :: writeValue value

end

/-- The text of a document. -/
def write (value : Value) : String := String.ofList (writeValue value)

/-! ### Reading -/

/-- A character that may stand between two symbols. -/
def isBlank (c : Char) : Bool := c == ' ' || c == '\t' || c == '\n' || c == '\r'

/-- The text without the blanks at its front. -/
def skipBlanks (text : List Char) : List Char := text.dropWhile isBlank

/-- A given word at the front of a text, with the value it stands for. -/
def readWord (value : Value) : (word text : List Char) → Piece
  | [], text => ⟨value, some text⟩
  | _ :: _, [] => .broken .cutShort .cutShort
  | c :: word, first :: text =>
    if first = c then readWord value word text else .broken .malformed .malformed

/-- The elements of a list or a table up to its end, and what follows. -/
structure Series (α : Type) where
  elements : List α
  stop : Option Flaw
  rest : Option (List Char)

/-- An element, and then what follows it: the end, or a comma and more elements. -/
def Series.continue {α : Type} (close : Char) (more : List Char → Series α) (element : α) :
    (rest : Option (List Char)) → Series α
  | none => ⟨[element], none, none⟩
  | some rest =>
    match skipBlanks rest with
    | [] => ⟨[element], some .cutShort, none⟩
    | c :: rest =>
      if c = close then ⟨[element], none, some rest⟩
      else if c = ',' then
        let series := more rest
        { series with elements := element :: series.elements }
      else ⟨[element], some .malformed, none⟩

/-- A key, in quotes. Who asks for a name there meets any other value as a value of the wrong kind. -/
def readKey (other : List Char → Piece) (text : List Char) : Piece :=
  match skipBlanks text with
  | [] => .broken .cutShort .cutShort .cutShort
  | '"' :: rest => readText rest
  | text => .broken .malformed .malformed (other text).value.mismatch

/-- What follows the colon behind a key. -/
def afterColon (text : List Char) : Except Flaw (List Char) :=
  match skipBlanks text with
  | [] => .error .cutShort
  | ':' :: rest => .ok rest
  | _ => .error .malformed

mutual

/-- The value at the front of a text, and what follows. -/
def readValue : (fuel : Nat) → List Char → Piece
  | 0, _ => .broken .malformed .malformed
  | fuel + 1, text =>
    match skipBlanks text with
    | [] => .broken .cutShort .cutShort .cutShort
    | '"' :: rest => readText rest
    | 'n' :: rest => readWord .null "ull".toList rest
    | 't' :: rest => readWord (.boolean true) "rue".toList rest
    | 'f' :: rest => readWord (.boolean false) "alse".toList rest
    | '[' :: rest =>
      match skipBlanks rest with
      | ']' :: rest => ⟨.list [] none, some rest⟩
      | rest =>
        let series := readItems fuel rest
        ⟨.list series.elements series.stop, series.rest⟩
    | '\x7b' :: rest =>
      match skipBlanks rest with
      | '\x7d' :: rest => ⟨.table [] none, some rest⟩
      | rest =>
        let series := readEntries fuel rest
        ⟨.table series.elements series.stop, series.rest⟩
    | c :: rest =>
      if c = '-' ∨ Text.Numeral.isDigit 10 c then readNumber (c :: rest)
      else .broken .malformed .malformed

def readItems : (fuel : Nat) → List Char → Series Value
  | 0, _ => ⟨[], some .malformed, none⟩
  | fuel + 1, text =>
    let piece := readValue fuel text
    Series.continue ']' (readItems fuel) piece.value piece.rest

def readEntries : (fuel : Nat) → List Char → Series (Value × Value)
  | 0, _ => ⟨[], some .malformed, none⟩
  | fuel + 1, text =>
    let key := readKey (readValue fuel) text
    match key.rest.map afterColon with
    | none => ⟨[(key.value, .null)], none, none⟩
    | some (.error flaw) => ⟨[(key.value, .broken flaw flaw flaw.error)], none, none⟩
    | some (.ok rest) =>
      let piece := readValue fuel rest
      Series.continue '\x7d' (readEntries fuel) (key.value, piece.value) piece.rest

end

/-- The document that a text holds, and what follows it. -/
def document (text : String) : Piece := readValue (2 * text.length + 2) text.toList

/-- What a reader reads from a text. -/
def read {α : Type} (reader : Reader α) (text : String) : Result α := do
  let piece := document text
  let a ← reader piece.value
  match piece.rest.map skipBlanks with
  | some [] => .ok a
  | _ => .error .malformed

end RemoteDesktop.Document.Json
