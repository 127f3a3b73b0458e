import RemoteDesktop.Lz4.Matcher
import RemoteDesktop.Update

/-!
# Tile codecs

A tile codec packs the pixels of one tile. It may refuse a tile, and it may keep a state of any kind,
so that refusals can depend on everything it was asked before. The default codec keeps none and packs a
tile as an LZ4 block after its length.
-/

namespace RemoteDesktop

/-- Packs tiles, one after the other, with a state of type `σ`. -/
structure TileCodec (σ : Type) where
  /-- Pack a tile of the given size, or say why not. -/
  encode : Size → ByteArray → σ → Except String ByteArray × σ

namespace TileCodec

/-- The bytes of a tile. -/
def tileLength (size : Size) : Nat := size.width.toNat * size.height.toNat * bytesPerPixel

/-- Pack a tile as a block after its length. -/
def packTile (size : Size) (pixels : ByteArray) : Except String ByteArray :=
  if pixels.size = tileLength size then .ok (Lz4.pack pixels)
  else
    .error s!"tile {size.width}x{size.height} expects {tileLength size} bytes, got {pixels.size}"

/-- The default codec. -/
def lz4 : TileCodec Unit := ⟨fun size pixels state => (packTile size pixels, state)⟩

/-- A tile comes back from the codec whenever the codec packed it, if four bytes can announce its
length. -/
def Faithful {σ : Type} (codec : TileCodec σ) : Prop :=
  ∀ size pixels state data after, pixels.size = tileLength size → tileLength size < 0x1_0000_0000 →
    codec.encode size pixels state = (.ok data, after) → Lz4.unpack data = .ok pixels

end TileCodec

end RemoteDesktop
