/-!
# Keymaps

A `Keymap` is what a typist knows of a display's keyboard: for every symbol the keycode that types it
without a modifier, and the spare keycodes, which had no symbols when the mapping was read. Symbols that
no key types take the spare keycodes in turn; a spare keycode that comes up again loses the symbol it
had.
-/

namespace RemoteDesktop

namespace Keymap

/-- A keycode and its symbols. -/
structure Key where
  keycode : UInt8
  symbols : List UInt32
  deriving DecidableEq, Repr

/-- The key has no symbols. -/
def Key.isSpare (key : Key) : Bool := key.symbols.all (· == 0)

/-- The key types a symbol without a modifier. -/
def Key.types (keysym : UInt32) (key : Key) : Bool := keysym != 0 && key.symbols.head? == some keysym

/-- Stretches of `length` symbols, of which the last may be shorter. -/
def stretches (length : Nat) (keysyms : List UInt32) : List (List UInt32) :=
  (List.range ((keysyms.length + length - 1) / length)).map fun i =>
    (keysyms.drop (i * length)).take length

/-- The keys that a reply lists: one for each stretch of symbols, from the first keycode up to the last
one that fits a byte. -/
def keys (firstKeycode perKeycode : UInt8) (keysyms : List UInt32) : List Key :=
  let rows := stretches (max 1 perKeycode.toNat) keysyms
  (rows.take (256 - firstKeycode.toNat)).mapIdx fun i row =>
    ⟨UInt8.ofNat (firstKeycode.toNat + i), row⟩

end Keymap

/-- Which keycode types which symbol. -/
structure Keymap where
  /-- The keycode of a symbol, if there is one. -/
  keycodes : UInt32 → Option UInt8
  /-- The keycodes that had no symbols. -/
  spare : List UInt8
  /-- How often a spare keycode has been handed out. -/
  assigned : UInt64
  /-- The symbol that a spare keycode was last handed out for. -/
  bound : UInt8 → Option UInt32

namespace Keymap

/-- The keymap of a list of keys. A symbol belongs to the first key that types it. -/
def ofKeys (keys : List Key) : Keymap where
  keycodes keysym := (keys.find? (Key.types keysym)).map (·.keycode)
  spare := (keys.filter Key.isSpare).map (·.keycode)
  assigned := 0
  bound _ := none

/-- The keymap of a reply. -/
def ofReply (firstKeycode perKeycode : UInt8) (keysyms : List UInt32) : Keymap :=
  ofKeys (keys firstKeycode perKeycode keysyms)

/-- The spare keycode whose turn it is. -/
def nextSpare? (m : Keymap) : Option UInt8 := m.spare[m.assigned.toNat % m.spare.length]?

/-- The keymap after a spare keycode is handed out for a symbol. The symbol it was handed out for
before, if any, has no keycode any more. -/
def hand (m : Keymap) (keycode : UInt8) (keysym : UInt32) : Keymap where
  keycodes other :=
    if other = keysym then some keycode
    else if m.bound keycode = some other then none
    else m.keycodes other
  spare := m.spare
  assigned := m.assigned + 1
  bound other := if other = keycode then some keysym else m.bound other

/-- Hand out the next spare keycode for a symbol, if there are any. -/
def assignSpare (m : Keymap) (keysym : UInt32) : Option (UInt8 × Keymap) :=
  m.nextSpare?.map fun keycode => (keycode, m.hand keycode keysym)

/-- A spare keycode is handed out exactly when there is one. -/
theorem assignSpare_eq_none_iff {m : Keymap} {keysym : UInt32} :
    m.assignSpare keysym = none ↔ m.spare = [] := by
  rw [assignSpare, Option.map_eq_none_iff, nextSpare?, List.getElem?_eq_none_iff]
  constructor
  · intro h
    match hs : m.spare with
    | [] => rfl
    | _ :: _ =>
      have hpos : 0 < m.spare.length := by simp [hs]
      have := Nat.mod_lt m.assigned.toNat hpos
      omega
  · intro h
    simp [h]

/-- The keycode handed out types the symbol from then on. -/
theorem keycodes_of_assignSpare {m after : Keymap} {keysym : UInt32} {keycode : UInt8}
    (h : m.assignSpare keysym = some (keycode, after)) : after.keycodes keysym = some keycode := by
  rw [assignSpare, Option.map_eq_some_iff] at h
  obtain ⟨_, _, e⟩ := h
  cases e
  simp [hand]

end Keymap

end RemoteDesktop
