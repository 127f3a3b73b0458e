/-!
# Key symbols

The symbol a desktop uses for a character. Printable Latin-1 characters are their own symbols, the
control characters of a keyboard have symbols of their own, and all other characters are numbered in a
range of their own.
-/

namespace RemoteDesktop.Keysym

/-- The symbols of the control characters that a key produces. -/
def controls : List (UInt32 × UInt32) :=
  [(0x08, 0xFF08), (0x09, 0xFF09), (0x0A, 0xFF0D), (0x0D, 0xFF0D), (0x1B, 0xFF1B), (0x7F, 0xFFFF)]

/-- The character is printable Latin-1. -/
def isLatin (point : UInt32) : Bool :=
  (0x20 ≤ point && point ≤ 0x7E) || (0xA0 ≤ point && point ≤ 0xFF)

/-- The symbol of a code point. -/
def ofCodePoint (point : UInt32) : UInt32 :=
  match controls.lookup point with
  | some keysym => keysym
  | none => if isLatin point then point else 0x01000000 ||| point

end RemoteDesktop.Keysym
