/-!
# Input events

The events a viewer sends. Each carries a word of flags; bits without a meaning travel with the word
unchanged. The low nine bits of a pointer word are the wheel's rotation in two's complement, so every
bit of a pointer word has a meaning.
-/

namespace RemoteDesktop

/-- A bit of a flag word, with its name. -/
structure Flag where
  name : String
  mask : UInt16
  deriving DecidableEq, Repr

namespace Flag

/-- The flag's bit is set in a word. -/
def isSet (flag : Flag) (word : UInt16) : Bool := word &&& flag.mask != 0

/-- The names of the flags set in a word, in the order of the list. -/
def names (flags : List Flag) (word : UInt16) : List String :=
  (flags.filter (·.isSet word)).map (·.name)

/-- The bits of a list of flags. -/
def masks (flags : List Flag) : UInt16 := flags.foldl (fun all flag => all ||| flag.mask) 0

end Flag

namespace KeyboardFlags

/-- The scancode has the prefix E0. -/
def extended : Flag := ⟨"EXTENDED", 0x0100⟩
/-- The scancode has the prefix E1. -/
def extended1 : Flag := ⟨"EXTENDED1", 0x0200⟩
/-- The key was down already. -/
def down : Flag := ⟨"DOWN", 0x4000⟩
/-- The key is released. -/
def release : Flag := ⟨"RELEASE", 0x8000⟩

/-- The flags of a keyboard word. -/
def all : List Flag := [extended, extended1, down, release]

end KeyboardFlags

namespace PointerFlags

/-- The sign bit of the rotation. -/
def wheelNegative : Flag := ⟨"WHEEL_NEGATIVE", 0x0100⟩
/-- The vertical wheel turned. -/
def wheel : Flag := ⟨"WHEEL", 0x0200⟩
/-- The horizontal wheel turned. -/
def horizontalWheel : Flag := ⟨"HWHEEL", 0x0400⟩
/-- The pointer moved. -/
def move : Flag := ⟨"MOVE", 0x0800⟩
/-- The left button changed. -/
def button1 : Flag := ⟨"BUTTON1", 0x1000⟩
/-- The right button changed. -/
def button2 : Flag := ⟨"BUTTON2", 0x2000⟩
/-- The middle button changed. -/
def button3 : Flag := ⟨"BUTTON3", 0x4000⟩
/-- The buttons named are pressed; without it they are released. -/
def down : Flag := ⟨"DOWN", 0x8000⟩

/-- The named flags of a pointer word. -/
def all : List Flag :=
  [wheelNegative, wheel, horizontalWheel, move, button1, button2, button3, down]

/-- The rotation of the wheel, positive away from the user or to the right. -/
def rotation (word : UInt16) : Int :=
  let raw := (word &&& 0x01FF).toNat
  if wheelNegative.isSet word then raw - 0x200 else raw

end PointerFlags

namespace ExtendedPointerFlags

/-- The back button changed. -/
def button1 : Flag := ⟨"BUTTON1", 0x0001⟩
/-- The forward button changed. -/
def button2 : Flag := ⟨"BUTTON2", 0x0002⟩
/-- The buttons named are pressed; without it they are released. -/
def down : Flag := ⟨"DOWN", 0x8000⟩

/-- The flags of an extended pointer word. -/
def all : List Flag := [button1, button2, down]

end ExtendedPointerFlags

/-- An event sent by a viewer. -/
inductive InputEvent where
  /-- A key, by its scancode. -/
  | scancode (flags code : UInt16)
  /-- A character, by its UTF-16 code unit. -/
  | unicode (flags codeUnit : UInt16)
  /-- The pointer, its wheels and its first three buttons. -/
  | pointer (flags x y : UInt16)
  /-- The pointer and its back and forward buttons. -/
  | extendedPointer (flags x y : UInt16)
  deriving DecidableEq, Repr, Inhabited

namespace InputEvent

/-- A movement of the pointer. -/
def pointerMove (x y : UInt16) : InputEvent := .pointer PointerFlags.move.mask x y

/-- A press or release of a key. -/
def key (code : UInt16) (extended pressed : Bool) : InputEvent :=
  .scancode
    ((if extended then KeyboardFlags.extended.mask else 0)
      ||| (if pressed then 0 else KeyboardFlags.release.mask)) code

end InputEvent

end RemoteDesktop
