import RemoteDesktop.Document.Json.Text
import RemoteDesktop.Document.Magnitude
import RemoteDesktop.Text.Numeral

/-!
# Numbers in JSON

A whole number is written without point and exponent. One of more than 64 bits counts as fractional,
and so does zero with a sign. Fractional numbers are read the quick way.
-/

namespace RemoteDesktop.Document.Json

/-- The decimal digits at the front of a text, and what follows. -/
def digits (text : List Char) : List Char × List Char :=
  (text.takeWhile (Text.Numeral.isDigit 10), text.dropWhile (Text.Numeral.isDigit 10))

/-- The values of decimal digits. -/
def digitValues (digits : List Char) : List Nat := digits.map fun c => c.toNat - 48

/-- A number in which digits are missing before `rest`. -/
def missingDigits (rest : List Char) : Piece :=
  .broken (if rest.isEmpty then .cutShort else .malformed) .malformed

/-- The number with the given digits, and a power of ten, that is not written as a whole number. -/
def fractional (whole fraction : List Char) (power : Int) : Value :=
  let s := (Scaled.ofWhole 0 (digitValues whole)).withFraction (digitValues fraction)
  .other !({ s with exponent := s.exponent + power } : Scaled).isTooLarge

/-- The value of a whole number. -/
def wholeNumber (negative : Bool) (digits : List Char) : Value :=
  let n := Text.Numeral.value 10 digits
  if 0x1_0000_0000_0000_0000 ≤ n then fractional digits [] 0
  else if negative then if n = 0 ∨ 0x8000_0000_0000_0000 < n then .other true else .integer (-n)
  else .integer n

/-- The number with the digits read so far, and what follows it. -/
def readExponent (negative : Bool) (whole fraction text : List Char) : Piece :=
  match text with
  | 'e' :: rest | 'E' :: rest =>
    let (minus, rest) := match rest with
      | '-' :: rest => (true, rest)
      | '+' :: rest => (false, rest)
      | _ => (false, rest)
    let (power, rest) := digits rest
    if power.isEmpty then missingDigits rest
    else
      let power : Int := Text.Numeral.value 10 power
      ⟨fractional whole fraction (if minus then -power else power), some rest⟩
  | _ =>
    if fraction.isEmpty then ⟨wholeNumber negative whole, some text⟩
    else ⟨fractional whole fraction 0, some text⟩

/-- The number whose digits are at the front of a text, and what follows. -/
def readDigits (negative : Bool) (text : List Char) : Piece :=
  let (whole, rest) := digits text
  match whole, rest with
  | [], _ => missingDigits rest
  | '0' :: _ :: _, _ => .broken .malformed .malformed
  | _, '.' :: rest =>
    let (fraction, rest) := digits rest
    if fraction.isEmpty then missingDigits rest else readExponent negative whole fraction rest
  | _, _ => readExponent negative whole [] rest

/-- The number at the front of a text, and what follows. -/
def readNumber (text : List Char) : Piece :=
  match text with
  | '-' :: rest => readDigits true rest
  | _ => readDigits false text

/-- The text of a whole number. -/
def writeNumber (n : Int) : List Char :=
  if n < 0 then '-' :: Text.Numeral.write 10 n.natAbs else Text.Numeral.write 10 n.natAbs

end RemoteDesktop.Document.Json
