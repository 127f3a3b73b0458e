import RemoteDesktop.Text.Numeral

/-!
# Blanks, texts and keys in TOML

A text stands between quotes, single or double, and may go over several lines between three of them.
Double quotes allow escapes. A key is bare or quoted on one line, and may have several parts with points
between them.
-/

namespace RemoteDesktop.Document.Toml

/-- Reads something at the front of a text, and says what follows. -/
abbrev Parser (α : Type) := List Char → Option (α × List Char)

/-! ### Blanks, comments and line ends -/

/-- A space or a tabulator. -/
def isBlank (c : Char) : Bool := c == ' ' || c == '\t'

/-- A character of a comment or of a text on one line. -/
def isPlain (c : Char) : Bool := c == '\t' || (0x20 ≤ c.toNat && c.toNat != 0x7f)

/-- The text without the blanks at its front. -/
def skipBlanks (text : List Char) : List Char := text.dropWhile isBlank

/-- What follows a line end. -/
def afterNewline? : List Char → Option (List Char)
  | '\n' :: rest => some rest
  | '\r' :: '\n' :: rest => some rest
  | _ => none

/-- The text without the comment at its front, if there is one. -/
def skipComment : List Char → List Char
  | '#' :: rest => rest.dropWhile isPlain
  | text => text

/-- What follows the end of a line or of the text. -/
def afterLine? (text : List Char) : Option (List Char) :=
  match skipComment (skipBlanks text) with
  | [] => some []
  | rest => afterNewline? rest

/-- The text without the blanks and line ends at its front, and without comments if `comments`. -/
def skipLinesFrom (comments : Bool) : (fuel : Nat) → List Char → List Char
  | 0, text => text
  | fuel + 1, text =>
    match text with
    | ' ' :: rest | '\t' :: rest => skipLinesFrom comments fuel rest
    | '#' :: rest => if comments then skipLinesFrom comments fuel (rest.dropWhile isPlain) else text
    | _ =>
      match afterNewline? text with
      | some rest => skipLinesFrom comments fuel rest
      | none => text

/-- The text without the blanks, line ends and comments at its front. -/
def skipLines (text : List Char) : List Char := skipLinesFrom true text.length text

/-! ### Texts -/

/-- The character that so many hexadecimal digits name, and what follows. -/
def readCodePoint (digits : Nat) : Parser Char := fun text =>
  let shown := text.take digits
  let n := Text.Numeral.value 16 shown
  if shown.length = digits ∧ shown.all (Text.Numeral.isDigit 16) ∧ n.isValidChar then
    some (Char.ofNat n, text.drop digits)
  else none

/-- The character that the escape after a backslash stands for. -/
def readEscape : Parser Char
  | 'b' :: rest => some ('\x08', rest)
  | 't' :: rest => some ('\t', rest)
  | 'n' :: rest => some ('\n', rest)
  | 'f' :: rest => some ('\x0c', rest)
  | 'r' :: rest => some ('\r', rest)
  | '"' :: rest => some ('"', rest)
  | '\\' :: rest => some ('\\', rest)
  | 'u' :: rest => readCodePoint 4 rest
  | 'U' :: rest => readCodePoint 8 rest
  | _ => none

/-- The text up to the next quote, on one line. -/
def readSingleLine (quote : Char) (escapes : Bool) : (fuel : Nat) → Parser (List Char)
  | 0, _ => none
  | _ + 1, [] => none
  | fuel + 1, c :: rest =>
    if c = quote then some ([], rest)
    else do
      let (c, rest) ←
        if c = '\\' ∧ escapes then readEscape rest else if isPlain c then some (c, rest) else none
      let (cs, rest) ← readSingleLine quote escapes fuel rest
      some (c :: cs, rest)

/-- What follows a backslash that hides the end of its line, and all blanks and line ends after it. -/
def afterHiddenNewline? (text : List Char) : Option (List Char) :=
  (afterNewline? (skipBlanks text)).map fun rest => skipLinesFrom false rest.length rest

/-- The text up to the next three quotes. One or two quotes belong to the text, also right before the
three that end it. -/
def readMultiLine (quote : Char) (escapes : Bool) : (fuel : Nat) → Parser (List Char)
  | 0, _ => none
  | _ + 1, [] => none
  | fuel + 1, c :: rest =>
    if c = quote then
      let quotes := (c :: rest).takeWhile (· == quote)
      if 3 ≤ quotes.length then
        let kept := min (quotes.length - 3) 2
        some (List.replicate kept quote, (c :: rest).drop (kept + 3))
      else do
        let (cs, rest) ← readMultiLine quote escapes fuel ((c :: rest).drop quotes.length)
        some (quotes ++ cs, rest)
    else if c = '\\' ∧ escapes then
      match afterHiddenNewline? rest with
      | some rest => readMultiLine quote escapes fuel rest
      | none => do
        let (c, rest) ← readEscape rest
        let (cs, rest) ← readMultiLine quote escapes fuel rest
        some (c :: cs, rest)
    else
      let (c?, rest) := match afterNewline? (c :: rest) with
        | some rest => (some '\n', rest)
        | none => (if isPlain c then some c else none, rest)
      do
        let c ← c?
        let (cs, rest) ← readMultiLine quote escapes fuel rest
        some (c :: cs, rest)

/-- A text in quotes. A line end right after three opening quotes does not count. -/
def readText (multiLine : Bool) : Parser String := fun text =>
  match text with
  | [] => none
  | quote :: rest =>
    if quote ≠ '"' ∧ quote ≠ '\'' then none
    else
      let escapes := quote == '"'
      let read := match rest with
        | second :: third :: body =>
          if multiLine ∧ second = quote ∧ third = quote then
            readMultiLine quote escapes (text.length + 1) ((afterNewline? body).getD body)
          else readSingleLine quote escapes (text.length + 1) rest
        | _ => readSingleLine quote escapes (text.length + 1) rest
      read.map fun (cs, rest) => (String.ofList cs, rest)

/-! ### Keys -/

/-- A character of a bare key. -/
def isBare (c : Char) : Bool :=
  ('a' ≤ c && c ≤ 'z') || ('A' ≤ c && c ≤ 'Z') || ('0' ≤ c && c ≤ '9') || c == '-' || c == '_'

/-- One part of a key. -/
def readKeyPart : Parser String := fun text =>
  match text with
  | '"' :: _ | '\'' :: _ => readText false text
  | _ =>
    let bare := text.takeWhile isBare
    if bare.isEmpty then none else some (String.ofList bare, text.drop bare.length)

/-- Elements with a separator between them. A separator that no element follows is left. -/
def separated {α : Type} (element : Parser α) (separator : Char) :
    (fuel : Nat) → List Char → List α × List Char
  | 0, text => ([], text)
  | fuel + 1, text =>
    match element text with
    | none => ([], text)
    | some (a, rest) =>
      match rest with
      | [] => ([a], [])
      | c :: after =>
        if c = separator then
          match separated element separator fuel after with
          | ([], _) => ([a], rest)
          | (as, rest) => (a :: as, rest)
        else ([a], rest)

/-- The greatest depth of nesting, and of keys. -/
def maxDepth : Nat := 79

/-- The parts of a key, with blanks around each: those before the last, and the last. -/
def readKey : Parser (List String × String) := fun text =>
  let part : Parser String := fun text => do
    let (name, rest) ← readKeyPart (skipBlanks text)
    some (name, skipBlanks rest)
  let (parts, rest) := separated part '.' text.length text
  match parts.getLast? with
  | none => none
  | some last => if parts.length ≤ maxDepth then some ((parts.dropLast, last), rest) else none

end RemoteDesktop.Document.Toml
