/-!
# UTF-16

The code units of a text: one for each character below `U+10000`, a surrogate pair for any other.
-/

namespace RemoteDesktop.Text.Utf16

/-- The code units of a character. -/
def unitsOfChar (c : Char) : List UInt16 :=
  let n := c.toNat
  if n < 0x10000 then [UInt16.ofNat n]
  else
    let n := n - 0x10000
    [UInt16.ofNat (0xD800 + n / 0x400), UInt16.ofNat (0xDC00 + n % 0x400)]

/-- The code units of a text. -/
def units (text : String) : List UInt16 := text.toList.flatMap unitsOfChar

end RemoteDesktop.Text.Utf16
