import RemoteDesktop.Digest.Block

/-!
# MD4

The digest of a message in sixteen bytes. Each block is mixed in by three rounds of sixteen steps; words
are read and written least significant byte first.
-/

namespace RemoteDesktop.Digest.Md4

/-- The four words a digest is kept in. -/
structure State where
  a : UInt32
  b : UInt32
  c : UInt32
  d : UInt32
  deriving DecidableEq, Repr, Inhabited

/-- The words before the first block. -/
def initial : State := ⟨0x67452301, 0xefcdab89, 0x98badcfe, 0x10325476⟩

/-- One round: how three words are combined, the constant it adds, the order in which it takes the
words of the block, and by how much it turns the sum in each step of four. -/
structure Round where
  combine : UInt32 → UInt32 → UInt32 → UInt32
  constant : UInt32
  order : List Nat
  turns : List UInt32

/-- The three rounds. -/
def rounds : List Round :=
  [ ⟨fun x y z => (x &&& y) ||| (~~~x &&& z), 0,
      [0, 1, 2, 3, 4, 5, 6, 7, 8, 9, 10, 11, 12, 13, 14, 15], [3, 7, 11, 19]⟩,
    ⟨fun x y z => (x &&& y) ||| (x &&& z) ||| (y &&& z), 0x5a827999,
      [0, 4, 8, 12, 1, 5, 9, 13, 2, 6, 10, 14, 3, 7, 11, 15], [3, 5, 9, 13]⟩,
    ⟨fun x y z => x ^^^ y ^^^ z, 0x6ed9eba1,
      [0, 8, 4, 12, 2, 10, 6, 14, 1, 9, 5, 13, 3, 11, 7, 15], [3, 9, 11, 15]⟩ ]

/-- One step: the first word takes up the others and a word of the block, and the words move on by
one place. -/
def step (r : Round) (block : Array UInt32) (s : State) (index : Nat) (turn : UInt32) : State :=
  let sum := s.a + r.combine s.b s.c s.d + block.getD index 0 + r.constant
  ⟨s.d, rotateLeft sum turn, s.b, s.c⟩

/-- Mix one block in. -/
def mix (s : State) (block : Array UInt32) : State :=
  let mixed := rounds.foldl
    (fun s r =>
      (r.order.zip (r.turns ++ r.turns ++ r.turns ++ r.turns)).foldl
        (fun s place => step r block s place.1 place.2) s) s
  ⟨s.a + mixed.a, s.b + mixed.b, s.c + mixed.c, s.d + mixed.d⟩

/-- The digest of a message. -/
def digest (message : List UInt8) : List UInt8 :=
  let padded := message ++ padding (Bytes.leBytes 8) message.length
  let s := (blocks (fun word => UInt32.ofNat (Bytes.leNat word)) padded).foldl mix initial
  [s.a, s.b, s.c, s.d].flatMap fun w => Bytes.leBytes 4 w.toNat

/-- A digest has sixteen bytes. -/
theorem length_digest (message : List UInt8) : (digest message).length = 16 := by
  simp [digest]

end RemoteDesktop.Digest.Md4
