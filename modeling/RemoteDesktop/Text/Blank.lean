/-!
# Blank characters

The characters with the property `White_Space`, and texts without blanks at their ends. Letter case is
compared for ASCII letters only.
-/

namespace RemoteDesktop.Text

/-- The character has the property `White_Space`. -/
def isBlank (c : Char) : Bool :=
  let n := c.toNat
  (0x09 ≤ n && n ≤ 0x0D) || n == 0x20 || n == 0x85 || n == 0xA0 || n == 0x1680
    || (0x2000 ≤ n && n ≤ 0x200A) || n == 0x2028 || n == 0x2029 || n == 0x202F || n == 0x205F
    || n == 0x3000

/-- The text without the blanks at its ends. -/
def trim (text : List Char) : List Char :=
  ((text.dropWhile isBlank).reverse.dropWhile isBlank).reverse

/-- The small form of a capital ASCII letter; any other character as it is. -/
def foldAscii (c : Char) : Char :=
  if 'A' ≤ c ∧ c ≤ 'Z' then Char.ofNat (c.toNat + 32) else c

/-- The two texts differ at most in the case of ASCII letters. -/
def SameAscii (a b : List Char) : Prop := a.map foldAscii = b.map foldAscii

instance (a b : List Char) : Decidable (SameAscii a b) := inferInstanceAs (Decidable (_ = _))

end RemoteDesktop.Text
