import RemoteDesktop.Keyboard.Typist

/-!
# The history of a keymap

A keymap is read from a reply, and is then asked for the keycodes of symbols that are pressed. What a reply says about
a keycode is told here by the places of its symbols alone, without a list of keys. Which spare keycodes a keymap hands
out is seen from outside: it asks the display to bind each of them.
-/

namespace RemoteDesktop

/-- What a reader of a keyboard mapping is told: the symbols of the first keycode and of those that follow it, one after
the other, and how many belong to each. -/
structure KeyboardReply where
  firstKeycode : UInt8
  perKeycode : UInt8
  keysyms : List UInt32
  deriving DecidableEq, Repr

namespace KeyboardReply

/-- How many symbols belong to a keycode; a reply that says none counts as one symbol for each. -/
def width (r : KeyboardReply) : Nat := max 1 r.perKeycode.toNat

/-- The symbol that a keycode has in a column, as far as the reply goes. -/
def symbol? (r : KeyboardReply) (keycode : UInt8) (column : Nat) : Option UInt32 :=
  if r.firstKeycode ≤ keycode ∧ column < r.width then
    r.keysyms[(keycode.toNat - r.firstKeycode.toNat) * r.width + column]?
  else none

/-- The keycode types the symbol without a modifier. -/
def Types (r : KeyboardReply) (keycode : UInt8) (keysym : UInt32) : Prop :=
  keysym ≠ 0 ∧ r.symbol? keycode 0 = some keysym

/-- The keycode is the first that types the symbol. -/
def IsKeyOf (r : KeyboardReply) (keycode : UInt8) (keysym : UInt32) : Prop :=
  r.Types keycode keysym ∧ ∀ other, other < keycode → ¬ r.Types other keysym

/-- The reply lists the keycode, and no symbol for it. -/
def IsSpare (r : KeyboardReply) (keycode : UInt8) : Prop :=
  r.symbol? keycode 0 ≠ none ∧ ∀ column keysym, r.symbol? keycode column = some keysym → keysym = 0

/-- The keys that the reply lists. -/
def keys (r : KeyboardReply) : List Keymap.Key := Keymap.keys r.firstKeycode r.perKeycode r.keysyms

/-- The keymap that is read from the reply. -/
def keymap (r : KeyboardReply) : Keymap := Keymap.ofReply r.firstKeycode r.perKeycode r.keysyms

end KeyboardReply

/-- The request that shows that a spare keycode was handed out for a symbol. -/
def DisplayRequest.ofAssignment (a : UInt8 × UInt32) : DisplayRequest := .bind a.1 a.2

namespace Keymap

/-- A symbol whose keycode is asked for because it is pressed, and the requests that the display refuses meanwhile. -/
structure Press where
  refuse : Refusals
  keysym : UInt32

/-- The keymap and the display after a press. -/
def press (s : Keymap × Display) (p : Press) : Keymap × Display := (keycodeFor p.refuse p.keysym true s.1 s.2).2

/-- The keymap and the display after some presses. -/
def pressAll (s : Keymap × Display) (presses : List Press) : Keymap × Display := presses.foldl press s

end Keymap

end RemoteDesktop
