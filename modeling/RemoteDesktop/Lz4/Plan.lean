import RemoteDesktop.Lz4.Block

/-!
# Plans of LZ4 blocks

A plan divides a byte string into sequences: each takes some bytes as they are and then some that
repeat earlier ones. What remains after the last sequence is taken as it is. A plan carries no bytes of
its own; `Plan.write` takes them from the string.
-/

namespace RemoteDesktop.Lz4

/-- Some bytes as they are, then some that repeat those `offset` places before. -/
structure Sequence where
  literals : Nat
  offset : Nat
  length : Nat
  deriving DecidableEq, Repr

/-- The sequences of a string, in order. -/
abbrev Plan := List Sequence

namespace Plan

/-- The half token of a length. -/
def half (length : Nat) : UInt8 := UInt8.ofNat (min length 15)

/-- Append a number as bytes that add up to it, all but the last of them 255. -/
def writeMore (out : ByteArray) (more : Nat) : ByteArray :=
  (Nat.repeat (·.push 255) (more / 255) out).push (UInt8.ofNat (more % 255))

/-- Append what a half token does not hold of a length. -/
def writeLength (out : ByteArray) (length : Nat) : ByteArray :=
  if 15 ≤ length then writeMore out (length - 15) else out

/-- Append a token, and the literals it announces. -/
def writeLiterals (input : ByteArray) (pos literals : Nat) (low : UInt8) (out : ByteArray) :
    ByteArray :=
  let out := writeLength (out.push (half literals <<< 4 ||| low)) literals
  out ++ input.extract pos (pos + literals)

/-- Append the sequences of a plan for the bytes of `input` from `pos` on. -/
def writeFrom (input : ByteArray) : (pos : Nat) → Plan → ByteArray → ByteArray
  | pos, [], out => writeLiterals input pos (input.size - pos) 0 out
  | pos, s :: plan, out =>
    let more := s.length - minimumRepeat
    let out := writeLiterals input pos s.literals (half more) out
    let out := (out.push (UInt8.ofNat (s.offset % 256))).push (UInt8.ofNat (s.offset / 256))
    writeFrom input (pos + s.literals + s.length) plan (writeLength out more)

/-- The length of `input`, and the block that a plan makes of it. -/
def write (input : ByteArray) (plan : Plan) : ByteArray :=
  writeFrom input 0 plan (Bytes.ofList (Bytes.leBytes 4 input.size))

end Plan

end RemoteDesktop.Lz4
