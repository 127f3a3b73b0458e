import RemoteDesktop.Digest.Block

/-!
# SHA-256

The digest of a message in 32 bytes, and a keyed digest built from it. Words are read and written most
significant byte first.
-/

namespace RemoteDesktop.Digest.Sha256

/-- The words before the first block. -/
def initial : Array UInt32 :=
  #[0x6a09e667, 0xbb67ae85, 0x3c6ef372, 0xa54ff53a, 0x510e527f, 0x9b05688c, 0x1f83d9ab, 0x5be0cd19]

/-- The constants of the 64 steps. -/
def constants : List UInt32 :=
  [ 0x428a2f98, 0x71374491, 0xb5c0fbcf, 0xe9b5dba5, 0x3956c25b, 0x59f111f1, 0x923f82a4, 0xab1c5ed5,
    0xd807aa98, 0x12835b01, 0x243185be, 0x550c7dc3, 0x72be5d74, 0x80deb1fe, 0x9bdc06a7, 0xc19bf174,
    0xe49b69c1, 0xefbe4786, 0x0fc19dc6, 0x240ca1cc, 0x2de92c6f, 0x4a7484aa, 0x5cb0a9dc, 0x76f988da,
    0x983e5152, 0xa831c66d, 0xb00327c8, 0xbf597fc7, 0xc6e00bf3, 0xd5a79147, 0x06ca6351, 0x14292967,
    0x27b70a85, 0x2e1b2138, 0x4d2c6dfc, 0x53380d13, 0x650a7354, 0x766a0abb, 0x81c2c92e, 0x92722c85,
    0xa2bfe8a1, 0xa81a664b, 0xc24b8b70, 0xc76c51a3, 0xd192e819, 0xd6990624, 0xf40e3585, 0x106aa070,
    0x19a4c116, 0x1e376c08, 0x2748774c, 0x34b0bcb5, 0x391c0cb3, 0x4ed8aa4a, 0x5b9cca4f, 0x682e6ff3,
    0x748f82ee, 0x78a5636f, 0x84c87814, 0x8cc70208, 0x90befffa, 0xa4506ceb, 0xbef9a3f7, 0xc67178f2 ]

/-- The sixteen words of a block drawn out to 64. -/
def schedule (block : Array UInt32) : Array UInt32 :=
  (List.range 48).foldl
    (fun words i =>
      let back (n : Nat) : UInt32 := words.getD (16 + i - n) 0
      let s0 := rotateRight (back 15) 7 ^^^ rotateRight (back 15) 18 ^^^ (back 15 >>> 3)
      let s1 := rotateRight (back 2) 17 ^^^ rotateRight (back 2) 19 ^^^ (back 2 >>> 10)
      words.push (back 16 + s0 + back 7 + s1))
    block

/-- One step over the eight words, with a constant and a word of the schedule. -/
def step (s : Array UInt32) (constant word : UInt32) : Array UInt32 :=
  let at_ (i : Nat) : UInt32 := s.getD i 0
  let e := at_ 4
  let a := at_ 0
  let s1 := rotateRight e 6 ^^^ rotateRight e 11 ^^^ rotateRight e 25
  let choice := (e &&& at_ 5) ^^^ (~~~e &&& at_ 6)
  let t1 := at_ 7 + s1 + choice + constant + word
  let s0 := rotateRight a 2 ^^^ rotateRight a 13 ^^^ rotateRight a 22
  let majority := (a &&& at_ 1) ^^^ (a &&& at_ 2) ^^^ (at_ 1 &&& at_ 2)
  #[t1 + (s0 + majority), a, at_ 1, at_ 2, at_ 3 + t1, e, at_ 5, at_ 6]

/-- Mix one block in. -/
def mix (s : Array UInt32) (block : Array UInt32) : Array UInt32 :=
  let mixed := (constants.zip (schedule block).toList).foldl (fun s k => step s k.1 k.2) s
  Array.zipWith (· + ·) s mixed

/-- The digest of a message. -/
def digest (message : List UInt8) : List UInt8 :=
  let padded := message ++ padding (Bytes.beBytes 8) message.length
  let s := (blocks (fun word => UInt32.ofNat (Bytes.beNat word)) padded).foldl mix initial
  s.toList.flatMap fun w => Bytes.beBytes 4 w.toNat

/-- A key filled up to the length of a block; a longer key is replaced by its digest. -/
def blockKey (key : List UInt8) : List UInt8 :=
  let key := if key.length ≤ 64 then key else digest key
  key ++ List.replicate (64 - key.length) 0

/-- The digest of a message under a key. -/
def keyed (key message : List UInt8) : List UInt8 :=
  let key := blockKey key
  digest (key.map (· ^^^ 0x5c) ++ digest (key.map (· ^^^ 0x36) ++ message))

end RemoteDesktop.Digest.Sha256
