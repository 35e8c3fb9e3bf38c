import FramePress.Checksum.XxHash
import FramePress.Zstd.Literals
import FramePress.Zstd.Sequences

/-! # Zstd frames

Compressed data is a row of frames.  A frame has a header, blocks and possibly a checksum; frames of
another kind are to be skipped.

* `FrameHeader.read`: what the header says; no dictionary is known here.
* `readBlocks`: the blocks of a frame: raw, one repeated byte, or compressed.
* `decode`: the output of all frames, at most `limit` bytes.
-/

namespace FramePress
set_option autoImplicit false

namespace Zstd

/-! ## Frame headers -/

def magic : UInt32 := 0xFD2FB528

/-- The first word of a frame to be skipped, up to its last four bits. -/
def skippableMagic : UInt32 := 0x184D2A50

/-- No compressed block is larger than this, before or after decoding its literals. -/
def maxBlockSize : Nat := 128 * 1024

structure FrameHeader where
  /-- The bytes of the header, the first word included. -/
  size : Nat
  contentSize : Option Nat
  windowSize : Nat
  hasChecksum : Bool

/-- A window size with three bits of fraction. -/
def windowOf (x : UInt8) : Nat :=
  let base := 1 <<< (x.toNat / 8 + 10)
  base + base / 8 * (x.toNat % 8)

/-- The header of the frame at position `i`. -/
def FrameHeader.read (b : Bytes) (i : Nat) : Option FrameHeader := do
  let d ← b[i + 4]?
  let d := d.toNat
  let isSingle := d / 32 % 2 = 1
  let windowBytes := if isSingle then 0 else 1
  let dictionaryBytes := #[0, 1, 2, 4].getD (d % 4) 0
  let sizeBytes := if d / 64 = 0 ∧ isSingle then 1 else #[0, 2, 4, 8].getD (d / 64) 0
  let dictionaryAt := i + 5 + windowBytes
  let sizeAt := dictionaryAt + dictionaryBytes
  guard (d / 8 % 2 = 0 ∧ sizeAt + sizeBytes ≤ b.size)
  guard (Bytes.toNatLE (b.extract dictionaryAt sizeAt) = 0)
  guard (isSingle ∨ (b.byteAt (i + 5)).toNat / 8 + 10 ≤ 31)
  let written := Bytes.toNatLE (b.extract sizeAt (sizeAt + sizeBytes))
  let content := if sizeBytes = 2 then written + 256 else written
  return {
    size := 5 + windowBytes + dictionaryBytes + sizeBytes
    contentSize := if sizeBytes = 0 then none else some content
    windowSize := if isSingle then content else windowOf (b.byteAt (i + 5))
    hasChecksum := d / 4 % 2 = 1 }

/-! ## Blocks -/

/-- What a block hands on to the next block of its frame. -/
structure BlockState where
  huffman : Option HuffmanTable
  sequences : SequenceState

def BlockState.initial : BlockState := ⟨none, ⟨none, .initial⟩⟩

/-- The output after a compressed block. -/
def readCompressed (body : Bytes) (maxSize frameStart limit : Nat) (state : BlockState) (out : Bytes) :
    Option (Bytes × BlockState) := do
  guard (body.size ≤ maxSize)
  let literals ← readLiterals body maxSize state.huffman
  let (sequences, sequenceState) ←
    readSequences (body.extract literals.used body.size) state.sequences
  let (out, taken) ← runSequences literals.bytes frameStart limit sequences.toList 0 out
  guard (out.size + (literals.bytes.size - taken) ≤ limit)
  return (out ++ literals.bytes.extract taken literals.bytes.size, ⟨literals.table, sequenceState⟩)

/-- The output after one block of the given kind and size, the state after it, and the position of the
next block; the content of the block is at position `i`. -/
def readBlock (b : Bytes) (maxSize frameStart limit kind size i : Nat) (state : BlockState)
    (out : Bytes) : Option (Bytes × BlockState × Nat) :=
  match kind with
  | 0 => do
    let body ← b.slice? i size
    guard (out.size + size ≤ limit)
    return (out ++ body, state, i + size)
  | 1 => do
    let byte ← b[i]?
    guard (out.size + size ≤ limit)
    return (out ++ Array.replicate size byte, state, i + 1)
  | 2 => do
    let body ← b.slice? i size
    let (out, state) ← readCompressed body maxSize frameStart limit state out
    return (out, state, i + size)
  | _ => none

/-- The output after the blocks from position `i` on, and the position after them.  Each takes at least
three bytes, so as many units of fuel as there are bytes are enough. -/
def readBlocks (b : Bytes) (maxSize frameStart limit : Nat) :
    (fuel i : Nat) → BlockState → (out : Bytes) → Option (Bytes × Nat)
  | 0, _, _, _ => none
  | fuel + 1, i, state, out => do
    guard (i + 3 ≤ b.size)
    let header := b.bitsAt (8 * i) 24
    let (out, state, next) ←
      readBlock b maxSize frameStart limit (header / 2 % 4) (header / 8) (i + 3) state out
    if header % 2 = 1 then return (out, next)
    else readBlocks b maxSize frameStart limit fuel next state out

/-! ## Frames -/

/-- The output after the frame at position `i`, and the position after it. -/
def readFrame (b : Bytes) (limit i : Nat) (out : Bytes) : Option (Bytes × Nat) := do
  guard (b.u32At i = magic ∧ i + 9 ≤ b.size)
  let h ← FrameHeader.read b i
  let start := out.size
  let (out, next) ← readBlocks b (min h.windowSize maxBlockSize) start limit (b.size + 1) (i + h.size)
    .initial out
  guard (h.contentSize.all (· = out.size - start))
  if h.hasChecksum then
    let check ← b.u32At? next
    guard (check = (xxHash64 (out.extract start out.size)).toUInt32)
    return (out, next + 4)
  else return (out, next)

def skipFrame (b : Bytes) (i : Nat) : Option Nat := do
  let size ← b.u32At? (i + 4)
  let next := i + 8 + size.toNat
  guard (next ≤ b.size)
  return next

/-- The output after all frames from position `i` on. -/
def readFrames (b : Bytes) (limit : Nat) : (fuel i : Nat) → (out : Bytes) → Option Bytes
  | 0, _, _ => none
  | fuel + 1, i, out =>
    if i = b.size then some out
    else if b.size < i + 5 then none
    else if b.u32At i &&& 0xFFFFFFF0 = skippableMagic then do
      let next ← skipFrame b i
      readFrames b limit fuel next out
    else do
      let (out, next) ← readFrame b limit i out
      readFrames b limit fuel next out

/-- The output of a row of frames, at most `limit` bytes. -/
def decode (b : Bytes) (limit : Nat) : Option Bytes := readFrames b limit (b.size + 1) 0 #[]

end Zstd
end FramePress
