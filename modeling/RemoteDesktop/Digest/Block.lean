import RemoteDesktop.Bytes

/-!
# Block digests

The digests of this library cut a message into blocks of 64 bytes and mix one block after the other into
a few words. Before that the message is padded: one bit, as many zeros as the last block needs, and the
length of the message in bits, in eight bytes.
-/

namespace RemoteDesktop.Digest

/-- A word turned left by `n` bits. -/
def rotateLeft (w : UInt32) (n : UInt32) : UInt32 := (w <<< n) ||| (w >>> (32 - n))

/-- A word turned right by `n` bits. -/
def rotateRight (w : UInt32) (n : UInt32) : UInt32 := (w >>> n) ||| (w <<< (32 - n))

/-- The padding of a message of `length` bytes, its bit length written by `lengthBytes`. -/
def padding (lengthBytes : Nat → List UInt8) (length : Nat) : List UInt8 :=
  0x80 :: List.replicate ((119 - length % 64) % 64) 0 ++ lengthBytes (8 * length)

/-- Cut a list into pieces of `n + 1` items; the last may be shorter. -/
def chunks {α : Type} (n : Nat) (items : List α) : List (List α) :=
  match items with
  | [] => []
  | item :: rest => (item :: rest.take n) :: chunks n (rest.drop n)
termination_by items.length
decreasing_by simp only [List.length_drop, List.length_cons]; omega

/-- The blocks of a padded message, each as sixteen words read by `word`. -/
def blocks (word : List UInt8 → UInt32) (message : List UInt8) : List (Array UInt32) :=
  (chunks 63 message).map fun block => ((chunks 3 block).map word).toArray

end RemoteDesktop.Digest
