import RemoteDesktop.Lz4.Plan

/-!
# Finding repetitions

The matcher walks over a byte string and keeps a table of the places where it last met a group of
bytes, by a hash of the group. A place whose first bytes agree with those at hand starts a repetition,
which is then extended both ways as far as it goes. After many misses in a row the walk takes longer
steps. The last bytes of a string are never part of a repetition.
-/

namespace RemoteDesktop.Lz4

namespace Matcher

/-- The number of places in the table. -/
def tableSize : Nat := 4096

/-- The farthest a repetition reaches back. -/
def maxOffset : Nat := 65535

/-- The bytes at the end of a string that are always taken as they are: one more than a block needs. -/
def tail : Nat := 6

/-- The bytes at the end of a string at which no repetition starts. -/
def quietTail : Nat := 12

/-- The fewest bytes that are searched for repetitions. -/
def minimumInput : Nat := 13

/-- The number that `count` bytes from `pos` on write, least significant byte first. -/
def groupAt (input : ByteArray) (pos : Nat) : (count : Nat) → UInt64
  | 0 => 0
  | count + 1 =>
    (Bytes.byteAt input pos).toUInt64 ||| (groupAt input (pos + 1) count <<< 8)

/-- The place in the table of the group at `pos`. Groups of a short string have four bytes, of a long
one five. -/
def hash (input : ByteArray) (pos : Nat) : Nat :=
  if input.size < 65535 then
    (((groupAt input pos 4).toUInt32 * 2654435761) >>> 20).toNat
  else
    (((groupAt input pos 5 <<< 24) * 889523592379) >>> 52).toNat

/-- The number of bytes before `pos` and `earlier` that agree, at most `most`. -/
def agreeBefore (input : ByteArray) (earlier pos : Nat) : (most : Nat) → Nat
  | 0 => 0
  | most + 1 =>
    if 0 < earlier ∧ Bytes.byteAt input (earlier - 1) = Bytes.byteAt input (pos - 1) then
      1 + agreeBefore input (earlier - 1) (pos - 1) most
    else 0

/-- The number of bytes from `pos` and `earlier` on that agree, at most `most`, added to `count`. -/
def agreeAfter (input : ByteArray) (earlier pos count : Nat) : (most : Nat) → Nat
  | 0 => count
  | most + 1 =>
    if Bytes.byteAt input earlier = Bytes.byteAt input pos then
      agreeAfter input (earlier + 1) (pos + 1) (count + 1) most
    else count

/-- Walk on from `pos` to a place whose first four bytes stand at an earlier one, and give both places.
`misses` starts at 32; a step is a 32nd of it. -/
def search (input : ByteArray) (table : Array Nat) (pos misses : Nat) :
    Option (Nat × Nat) × Array Nat :=
  if h : pos + quietTail ≤ input.size then
    let place := hash input pos
    let earlier := table.getD place 0
    let table := table.setIfInBounds place pos
    if pos ≤ earlier + maxOffset ∧ groupAt input earlier 4 = groupAt input pos 4 then
      (some (earlier, pos), table)
    else search input table (pos + max 1 (misses / 32)) (misses + 1)
  else (none, table)
termination_by input.size - pos
decreasing_by simp only [quietTail] at h; omega

/-- The sequences from `start` on, of which the bytes before `pos` are known to be literals. The fuel
bounds the number of sequences. -/
def sequencesFrom (input : ByteArray) : (fuel : Nat) → (table : Array Nat) → (start pos : Nat) → Plan
  | 0, _, _, _ => []
  | fuel + 1, table, start, pos =>
    match search input table pos 32 with
    | (none, _) => []
    | (some (earlier, found), table) =>
      let back := agreeBefore input earlier found (found - start)
      let more := agreeAfter input (earlier + minimumRepeat) (found + minimumRepeat) 0
        (input.size - tail - (found + minimumRepeat))
      let stop := found + minimumRepeat + more
      let table := table.setIfInBounds (hash input (stop - 2)) (stop - 2)
      ⟨found - back - start, found - earlier, back + minimumRepeat + more⟩
        :: sequencesFrom input fuel table stop stop

end Matcher

/-- The sequences that the matcher finds. -/
def plan (input : ByteArray) : Plan :=
  if input.size < Matcher.minimumInput then []
  else Matcher.sequencesFrom input input.size (Array.replicate Matcher.tableSize 0) 0 1

/-- Pack a string: its length, and a block that unpacks to it. -/
def pack (input : ByteArray) : ByteArray := (plan input).write input

end RemoteDesktop.Lz4
