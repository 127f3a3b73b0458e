import RemoteDesktop.Document.Reader
import RemoteDesktop.Document.Toml.Number
import RemoteDesktop.Document.Toml.Table

/-!
# TOML

Reading documents of settings: assignments line by line, under headers that name tables. A text is a
document or it is not; there is no partial one.
-/

namespace RemoteDesktop.Document.Toml

/-- A record written as a list may have further items; behind the name of a choice stands an empty
table or list. -/
def dialect : Dialect where
  extraItems := true
  isUnit
    | .list [] _ => true
    | .table [] _ => true
    | _ => false
  notAName := .unfit

/-! ### Values -/

/-- What follows a given character. -/
def after? (c : Char) : List Char → Option (List Char)
  | [] => none
  | first :: rest => if first = c then some rest else none

/-- A value without further values in it. -/
def readScalar : Parser Value := fun text =>
  match text with
  | '"' :: _ | '\'' :: _ => (readText true text).map fun (s, rest) => (.ofString s, rest)
  | 't' :: _ => readWord "true" (.boolean true) text
  | 'f' :: _ => readWord "false" (.boolean false) text
  | 'i' :: _ | 'n' :: _ => readSpecial text
  | _ => readNumber text

/-- The items of a list whose bracket has been opened, on any number of lines. A comma may follow the
last. -/
def readItems (item : Parser Value) : Parser Value := fun text => do
  let padded : Parser Value := fun text => do
    let (value, rest) ← item (skipLines text)
    some (value, skipLines rest)
  let (items, rest) := separated padded ',' text.length text
  let rest := if items.isEmpty then rest else (after? ',' rest).getD rest
  some (.list items none, ← after? ']' (skipLines rest))

/-- A key, an equals sign and a value. -/
def readAssignment (value : Parser Value) : Parser Assignment := fun text => do
  let (key, rest) ← readKey text
  let (value, rest) ← value (skipBlanks (← after? '=' rest))
  some ((key, value), rest)

/-- The assignments of a table whose brace has been opened, on one line. -/
def readInline (value : Parser Value) : Parser Value := fun text => do
  let padded : Parser Assignment := fun text => do
    let (assignment, rest) ← readAssignment value text
    some (assignment, skipBlanks rest)
  let (assignments, rest) := separated padded ',' text.length text
  let rest ← after? '\x7d' (skipBlanks rest)
  some (← inlineTable? assignments, rest)

/-- A value with lists and tables nested in it up to a depth. -/
def readValue : (depth : Nat) → Parser Value
  | 0 => readScalar
  | depth + 1 => fun text =>
    match text with
    | '[' :: rest => readItems (readValue depth) rest
    | '\x7b' :: rest => readInline (readValue depth) rest
    | _ => readScalar text

/-! ### Lines -/

/-- A header between single or double brackets. -/
def readHeader : Parser Header
  | '[' :: '[' :: rest => do
    let ((path, name), rest) ← readKey rest
    some (.element path name, ← after? ']' (← after? ']' rest))
  | '[' :: rest => do
    let ((path, name), rest) ← readKey rest
    some (.table path name, ← after? ']' rest)
  | _ => none

/-- The assignments before the first header, and the sections from there on. -/
def readLines : (fuel : Nat) → List Char → Option (List Assignment × List Section)
  | 0, _ => none
  | fuel + 1, text =>
    match skipBlanks text with
    | [] => some ([], [])
    | '[' :: rest => do
      let (header, rest) ← readHeader ('[' :: rest)
      let (assignments, sections) ← readLines fuel (← afterLine? rest)
      some ([], ⟨header, assignments⟩ :: sections)
    | '#' :: rest => do
      let rest ← afterLine? ('#' :: rest)
      readLines fuel rest
    | text =>
      match afterNewline? text with
      | some rest => readLines fuel rest
      | none => do
        let (assignment, rest) ← readAssignment (readValue maxDepth) text
        let (assignments, sections) ← readLines fuel (← afterLine? rest)
        some (assignment :: assignments, sections)

/-- The text without the mark that may stand at its front. -/
def skipMark : List Char → List Char
  | '\ufeff' :: rest => rest
  | text => text

/-- The document that a text holds. -/
def document? (text : String) : Option Value := do
  let (assignments, sections) ← readLines (text.length + 1) (skipMark text.toList)
  let entries ← Entries.assignAll [] assignments
  let entries ← sections.foldlM Entries.define entries
  some entries.toValue

/-- What a reader reads from a text. -/
def read {α : Type} (reader : Reader α) (text : String) : Result α :=
  match document? text with
  | some value => reader value
  | none => .error .malformed

end RemoteDesktop.Document.Toml
