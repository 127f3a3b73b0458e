import RemoteDesktop.Document.Magnitude
import RemoteDesktop.Document.Toml.Text
import RemoteDesktop.Document.Value

/-!
# Numbers, dates and times in TOML

Underscores may stand between two digits. Whole numbers have at most 64 bits with their sign, in any of
four bases; fractional numbers, dates and times are told apart from them and checked, but not kept.
-/

namespace RemoteDesktop.Document.Toml

/-! ### Whole numbers -/

/-- The digits at the front of a text without the underscores between them. `inside` says that a digit
has come before. -/
def readDigits (base : Nat) (inside : Bool) : List Char → List Char × List Char
  | [] => ([], [])
  | c :: rest =>
    if Text.Numeral.isDigit base c then
      let (digits, rest) := readDigits base true rest
      (c :: digits, rest)
    else if c = '_' ∧ inside then
      match readDigits base false rest with
      | ([], _) => ([], c :: rest)
      | (digits, rest) => (digits, rest)
    else ([], c :: rest)

/-- At least one digit. -/
def readDigits1 (base : Nat) : Parser (List Char) := fun text =>
  match readDigits base false text with
  | ([], _) => none
  | (digits, rest) => some (digits, rest)

/-- A sign: whether it is a minus. -/
def readSign : List Char → Bool × List Char
  | '-' :: rest => (true, rest)
  | '+' :: rest => (false, rest)
  | text => (false, text)

/-- Decimal digits of which the first is zero only if it stands alone. -/
def readDecimal : Parser (List Char)
  | '0' :: rest => some (['0'], rest)
  | text => readDigits1 10 text

/-- A whole number in a base other than ten. -/
def readPrefixed (base : Nat) : Parser Value := fun text => do
  let (digits, rest) ← readDigits1 base text
  let n := Text.Numeral.value base digits
  if n < 0x8000_0000_0000_0000 then some (.ofNat n, rest) else none

/-- A whole number. -/
def readInteger : Parser Value
  | '0' :: 'x' :: rest => readPrefixed 16 rest
  | '0' :: 'o' :: rest => readPrefixed 8 rest
  | '0' :: 'b' :: rest => readPrefixed 2 rest
  | text => do
    let (negative, rest) := readSign text
    let (digits, rest) ← readDecimal rest
    let n := Text.Numeral.value 10 digits
    if negative then if n ≤ 0x8000_0000_0000_0000 then some (.integer (-n), rest) else none
    else if n < 0x8000_0000_0000_0000 then some (.ofNat n, rest)
    else none

/-! ### Fractional numbers -/

/-- An exponent. -/
def readExponent : Parser Int
  | 'e' :: rest | 'E' :: rest => do
    let (negative, rest) := readSign rest
    let (digits, rest) ← readDigits1 10 rest
    let n : Int := Text.Numeral.value 10 digits
    some (if negative then -n else n, rest)
  | _ => none

/-- A word at the front of a text. -/
def readWord (word : String) (value : Value) : Parser Value := fun text =>
  if word.toList.isPrefixOf text then some (value, text.drop word.length) else none

/-- Infinity, or no number. -/
def readSpecial : Parser Value := fun text =>
  (readWord "inf" (.other true) text).or (readWord "nan" (.other true) text)

/-- A number with a fraction or an exponent. A positive one must not be too large. -/
def readFractional : Parser Value := fun text => do
  let (negative, rest) := readSign text
  let (whole, rest) ← readDecimal rest
  let (fraction, rest) ← match rest with
    | '.' :: rest => readDigits1 10 rest
    | _ => if (readExponent rest).isSome then some ([], rest) else none
  let (exponent, rest) := (readExponent rest).getD (0, rest)
  let digits := (whole ++ fraction).map fun c => c.toNat - 48
  if !negative && isTooLarge digits (exponent - fraction.length) then none
  else some (.other true, rest)

/-! ### Dates and times -/

/-- So many digits that write a number from `low` to `high`. -/
def readFixed (digits low high : Nat) : Parser Nat := fun text =>
  let shown := text.take digits
  let n := Text.Numeral.value 10 shown
  if shown.length = digits ∧ shown.all (Text.Numeral.isDigit 10) ∧ low ≤ n ∧ n ≤ high then
    some (n, text.drop digits)
  else none

/-- A character at the front of a text. -/
def readChar (allowed : List Char) : Parser Unit
  | [] => none
  | c :: rest => if c ∈ allowed then some ((), rest) else none

/-- The number of days of a month. -/
def daysIn (year month : Nat) : Nat :=
  if month = 2 then
    if year % 4 = 0 ∧ (year % 100 ≠ 0 ∨ year % 400 = 0) then 29 else 28
  else if month ∈ [4, 6, 9, 11] then 30
  else 31

/-- A date. -/
def readDate : Parser Unit := fun text => do
  let (year, rest) ← readFixed 4 0 9999 text
  let (_, rest) ← readChar ['-'] rest
  let (month, rest) ← readFixed 2 1 12 rest
  let (_, rest) ← readChar ['-'] rest
  let (_, rest) ← readFixed 2 1 (daysIn year month) rest
  some ((), rest)

/-- A time of day, with a leap second at most. -/
def readTime : Parser Unit := fun text => do
  let (_, rest) ← readFixed 2 0 23 text
  let (_, rest) ← readChar [':'] rest
  let (_, rest) ← readFixed 2 0 59 rest
  let (_, rest) ← readChar [':'] rest
  let (_, rest) ← readFixed 2 0 60 rest
  match rest with
  | '.' :: after =>
    let digits := after.takeWhile (Text.Numeral.isDigit 10)
    some ((), if digits.isEmpty then rest else after.drop digits.length)
  | _ => some ((), rest)

/-- How far a time is ahead of or behind the reference. -/
def readOffset : Parser Unit
  | 'Z' :: rest | 'z' :: rest => some ((), rest)
  | text => do
    let (_, rest) ← readChar ['+', '-'] text
    let (_, rest) ← readFixed 2 0 23 rest
    let (_, rest) ← readChar [':'] rest
    let (_, rest) ← readFixed 2 0 59 rest
    some ((), rest)

/-- A time after a date. -/
def readTimeOfDate : Parser Unit := fun text => do
  let (_, rest) ← readChar ['T', 't', ' '] text
  let (_, rest) ← readTime rest
  some ((readOffset rest).getD ((), rest))

/-- A date, a time, or both. -/
def readMoment : Parser Value := fun text =>
  let rest := match readDate text with
    | some (_, rest) => some ((readTimeOfDate rest).getD ((), rest))
    | none => readTime text
  rest.map fun (_, rest) => (.other true, rest)

/-- A number, a date or a time. -/
def readNumber : Parser Value := fun text =>
  (((readMoment text).or (readFractional text)).or
    (readSpecial (readSign text).2)).or (readInteger text)

end RemoteDesktop.Document.Toml
