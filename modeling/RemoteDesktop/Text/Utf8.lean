/-!
# Where UTF-8 goes wrong

A byte string that is not UTF-8 has a first flaw: the longest prefix that is UTF-8, followed either by
bytes that no continuation can mend or by the beginning of a character that the end cuts off.
-/

namespace RemoteDesktop.Text.Utf8

/-- The first flaw of a byte string. -/
structure Flaw where
  /-- The number of bytes before the flaw. -/
  start : Nat
  /-- The number of bytes that cannot be part of a character, or `none` if the end came too soon. -/
  length : Option Nat
  deriving DecidableEq, Repr

/-- The wording of a flaw. -/
def Flaw.message (flaw : Flaw) : String :=
  match flaw.length with
  | some n => s!"invalid utf-8 sequence of {n} bytes from index {flaw.start}"
  | none => s!"incomplete utf-8 byte sequence from index {flaw.start}"

/-- A byte that continues a character. -/
def isContinuation (b : UInt8) : Bool := 0x80 ≤ b && b ≤ 0xBF

/-- The second bytes allowed after a given first byte of a longer character, and how many further
bytes there are. -/
def secondByte? (first : UInt8) : Option (UInt8 × UInt8 × Nat) :=
  if 0xC2 ≤ first && first ≤ 0xDF then some (0x80, 0xBF, 0)
  else if first = 0xE0 then some (0xA0, 0xBF, 1)
  else if first = 0xED then some (0x80, 0x9F, 1)
  else if 0xE1 ≤ first && first ≤ 0xEF then some (0x80, 0xBF, 1)
  else if first = 0xF0 then some (0x90, 0xBF, 2)
  else if 0xF1 ≤ first && first ≤ 0xF3 then some (0x80, 0xBF, 2)
  else if first = 0xF4 then some (0x80, 0x8F, 2)
  else none

/-- What is wrong with the `needed` continuation bytes expected after `seen` bytes of a character. -/
def tailFlaw (seen : Nat) : (needed : Nat) → List UInt8 → Option (Option Nat)
  | 0, _ => none
  | _ + 1, [] => some none
  | needed + 1, b :: rest =>
    if isContinuation b then tailFlaw (seen + 1) needed rest else some (some seen)

/-- What is wrong with the first character of a byte string, or else its length. -/
def firstCharacter (first : UInt8) (rest : List UInt8) : Except (Option Nat) Nat :=
  if first < 0x80 then .ok 1
  else
    match secondByte? first with
    | none => .error (some 1)
    | some (low, high, further) =>
      match rest with
      | [] => .error none
      | second :: tail =>
        if low ≤ second && second ≤ high then
          match tailFlaw 2 further tail with
          | none => .ok (2 + further)
          | some length => .error length
        else .error (some 1)

/-- The first flaw of the bytes after the first `start`, if there is one. -/
def flawFrom (start : Nat) : List UInt8 → Option Flaw
  | [] => none
  | first :: rest =>
    match firstCharacter first rest with
    | .error length => some ⟨start, length⟩
    | .ok n => flawFrom (start + n) (rest.drop (n - 1))
termination_by bytes => bytes.length
decreasing_by simp only [List.length_drop, List.length_cons]; omega

/-- The first flaw of a byte string, if there is one. -/
def flaw? (bytes : ByteArray) : Option Flaw := flawFrom 0 bytes.toList

end RemoteDesktop.Text.Utf8
