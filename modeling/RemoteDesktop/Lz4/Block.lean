import RemoteDesktop.Bytes

/-!
# LZ4 blocks

A block is a row of sequences. A sequence starts with a token, whose two halves hold the number of
literal bytes and the number of repeated bytes less four; a half of 15 goes on in further bytes, up to
the first that is not 255. Then come the literals, and two bytes that say how far back the repeated
bytes lie. The last sequence ends after its literals.

A packed string is a block after the length of what it unpacks to, in four bytes.
-/

namespace RemoteDesktop.Lz4

/-- Why a block cannot be unpacked. -/
inductive BlockError where
  /-- The block ends inside a sequence. -/
  | endOfInput
  /-- A sequence announces more literals than the block holds. -/
  | missingLiterals
  /-- The block unpacks to more than was announced. -/
  | outputTooSmall (announced needed : Nat)
  /-- Bytes cannot be repeated from where they are to go. -/
  | zeroOffset
  /-- A repetition starts before the first byte. -/
  | offsetBeyondOutput
  deriving DecidableEq, Repr

/-- The wording of a block error. -/
def BlockError.message : BlockError → String
  | endOfInput => "expected another byte, found none"
  | missingLiterals => "literal is out of bounds of the input"
  | outputTooSmall announced needed =>
    s!"provided output is too small for the decompressed data, actual {announced}, expected {needed}"
  | zeroOffset => "0 is not a valid match offset"
  | offsetBeyondOutput => "the offset to copy is not contained in the decompressed buffer"

/-- The fewest bytes that a repetition has. -/
def minimumRepeat : Nat := 4

/-- The rest of a length that goes on at `pos`, added to `total`, and the position after it. -/
def readMore (block : ByteArray) (pos total : Nat) :
    Except BlockError (Nat × { after : Nat // pos ≤ after }) :=
  if h : pos < block.size then
    let more := block[pos]
    if more = 255 then
      match readMore block (pos + 1) (total + 255) with
      | .error e => .error e
      | .ok (total, ⟨after, ha⟩) => .ok (total, ⟨after, by omega⟩)
    else .ok (total + more.toNat, ⟨pos + 1, by omega⟩)
  else .error .endOfInput
termination_by block.size - pos

/-- The length whose half token is `half` and that goes on at `pos`, if it does. -/
def readLength (block : ByteArray) (half : UInt8) (pos : Nat) :
    Except BlockError (Nat × { after : Nat // pos ≤ after }) :=
  if half = 15 then readMore block pos 15 else .ok (half.toNat, ⟨pos, Nat.le_refl _⟩)

/-- Append `length` bytes, each of them the byte `offset` places before it. -/
def repeatBytes (out : ByteArray) (offset : Nat) : (length : Nat) → ByteArray
  | 0 => out
  | length + 1 =>
    repeatBytes (out.push (Bytes.byteAt out (out.size - offset))) offset length

/-- Unpack the sequences from `pos` on, to at most `capacity` bytes. -/
def unpackFrom (block : ByteArray) (capacity pos : Nat) (out : ByteArray) :
    Except BlockError ByteArray :=
  if h : pos < block.size then
    let token := block[pos]
    match readLength block (token >>> 4) (pos + 1) with
    | .error e => .error e
    | .ok (literals, ⟨start, hs⟩) =>
      if block.size < start + literals then .error .missingLiterals
      else if capacity < out.size + literals then
        .error (.outputTooSmall capacity (out.size + literals))
      else
        let out := out ++ block.extract start (start + literals)
        let next := start + literals
        if block.size ≤ next then .ok out
        else if block.size < next + 2 then .error .endOfInput
        else
          let offset := Bytes.leNat [Bytes.byteAt block next, Bytes.byteAt block (next + 1)]
          if offset = 0 then .error .zeroOffset
          else
            match readLength block (token &&& 15) (next + 2) with
            | .error e => .error e
            | .ok (more, ⟨after, ha⟩) =>
              let length := minimumRepeat + more
              if capacity < out.size + length then
                .error (.outputTooSmall capacity (out.size + length))
              else if out.size < offset then .error .offsetBeyondOutput
              else unpackFrom block capacity after (repeatBytes out offset length)
  else .error .endOfInput
termination_by block.size - pos
decreasing_by omega

/-- The length announced in front of a block. -/
def announcedLength (packed : ByteArray) : Nat := Bytes.leNat ((packed.extract 0 4).toList)

/-- Unpack a block that follows the announced length. -/
def unpack (packed : ByteArray) : Except BlockError ByteArray :=
  if packed.size < 4 then .error .endOfInput
  else unpackFrom (packed.extract 4 packed.size) (announcedLength packed) 0 ByteArray.empty

end RemoteDesktop.Lz4
