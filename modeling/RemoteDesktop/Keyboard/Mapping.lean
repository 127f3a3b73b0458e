/-!
# Keyboard mappings

A display keeps a row of symbols for each of its keycodes. The first symbol of a row is what the key
types without a modifier; the symbol zero stands for none. A reader of the mapping receives the rows
one after the other, all padded to the same length.
-/

namespace RemoteDesktop

/-- The symbols of each keycode of a display. -/
structure KeyboardMapping where
  firstKeycode : UInt8
  /-- The symbols of the first keycode and of those that follow it. -/
  rows : List (List UInt32)
  deriving DecidableEq, Repr

namespace KeyboardMapping

/-- The symbols of a keycode. -/
def symbols (m : KeyboardMapping) (keycode : UInt8) : List UInt32 :=
  if m.firstKeycode ≤ keycode then (m.rows[keycode.toNat - m.firstKeycode.toNat]?).getD [] else []

/-- What a key types without a modifier; zero if nothing. -/
def unshifted (m : KeyboardMapping) (keycode : UInt8) : UInt32 := (m.symbols keycode).headD 0

/-- The mapping in which a keycode types a symbol, with and without shift. -/
def bind (m : KeyboardMapping) (keycode : UInt8) (keysym : UInt32) : KeyboardMapping :=
  if m.firstKeycode ≤ keycode then
    { m with rows := m.rows.set (keycode.toNat - m.firstKeycode.toNat) [keysym, keysym] }
  else m

/-- The keycode has a row. -/
def Has (m : KeyboardMapping) (keycode : UInt8) : Prop :=
  m.firstKeycode ≤ keycode ∧ keycode.toNat - m.firstKeycode.toNat < m.rows.length

instance (m : KeyboardMapping) (keycode : UInt8) : Decidable (m.Has keycode) :=
  inferInstanceAs (Decidable (_ ∧ _))

/-- A keycode with a row has the symbol it is bound to, and no other keycode is touched. -/
theorem symbols_bind {m : KeyboardMapping} {keycode : UInt8} (h : m.Has keycode)
    (keysym : UInt32) (other : UInt8) :
    (m.bind keycode keysym).symbols other
      = if other = keycode then [keysym, keysym] else m.symbols other := by
  rw [bind, if_pos h.1]
  unfold symbols
  by_cases hfirst : m.firstKeycode ≤ other
  · simp only [if_pos hfirst]
    have hother : m.firstKeycode.toNat ≤ other.toNat := hfirst
    have hkeycode : m.firstKeycode.toNat ≤ keycode.toNat := h.1
    split
    next e =>
      subst e
      rw [List.getElem?_set_self h.2]
      rfl
    next hne =>
      have : keycode.toNat ≠ other.toNat := fun e => hne (UInt8.toNat_inj.mp e.symm)
      rw [List.getElem?_set_ne (by omega)]
  · have hne : other ≠ keycode := fun e => hfirst (e ▸ h.1)
    simp only [if_neg hfirst, if_neg hne]

/-- A keycode with a row types the symbol it is bound to, and the others type what they did. -/
theorem unshifted_bind {m : KeyboardMapping} {keycode : UInt8} (h : m.Has keycode)
    (keysym : UInt32) (other : UInt8) :
    (m.bind keycode keysym).unshifted other
      = if other = keycode then keysym else m.unshifted other := by
  rw [unshifted, symbols_bind h]
  split <;> rfl

/-- The length to which all rows of a reply are padded. -/
def width (m : KeyboardMapping) : Nat := min 255 ((m.rows.map List.length).foldl max 0)

/-- A row of a given length, cut off or padded. -/
def padRow (width : Nat) (row : List UInt32) : List UInt32 :=
  row.take width ++ List.replicate (width - row.length) 0

/-- What a reader receives who asks for a number of keycodes from the first on: the symbols of each
keycode, and how many there are for one. -/
def reply (m : KeyboardMapping) (count : Nat) : UInt8 × List UInt32 :=
  (UInt8.ofNat m.width, (m.rows.take count).flatMap (padRow m.width))

end KeyboardMapping

end RemoteDesktop
