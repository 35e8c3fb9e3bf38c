import FramePress.Backend
import FramePress.Chunk.Header
import FramePress.Params
import FramePress.Status

/-! # Writing chunks

A source is cut into blocks of one size; each block is shuffled and packed on its own.  A *packed*
chunk is the header, a table with the position of each block, and the blocks, each behind its length;
a block that does not shrink is kept shuffled but unpacked, so that its length equals its raw length.
When the packed chunk would take as much room as header and source, or more than the destination has,
the source is *stored* verbatim after the header instead.  Here a chunk is described as a whole; `Chunk.InPlace`
writes it into a buffer.

* `blockSize`: the raw size of a block; blocks hold whole elements.
* `packBlock`, `packedBytes`, `storedBytes`: one block, and the two kinds of chunk.
* `write`: the chunk for a source, `none` when no chunk fits into the destination.
-/

namespace FramePress
set_option autoImplicit false

namespace Chunk

/-! ## Limits -/

/-- What a chunk may take beyond its source. -/
def maxOverhead : Nat := headerSize

/-- The largest source, so that every size in a header fits a signed 32-bit word. -/
def maxSourceSize : Nat := 0x7fffffff - maxOverhead

/-- The largest element size a header records. -/
def maxTypeSize : Nat := 255

/-- Sources below this size are always stored. -/
def minPackedSource : Nat := 32

/-! ## Geometry -/

/-- The element size in effect: one that no header can record is treated as one byte. -/
def effectiveTypeSize (typeSize : Nat) : Nat := if typeSize > maxTypeSize then 1 else typeSize

def blockLimit (level : Nat) : Nat :=
  if level ≤ 3 then 64 * 1024 else if level ≤ 6 then 128 * 1024 else 256 * 1024

/-- The raw size of a block: at most the limit of the level and the source, at least one byte, and a
multiple of the element size if an element fits at all. -/
def blockSize (level typeSize rawSize : Nat) : Nat :=
  let most := min (blockLimit level) rawSize
  max 1 (if most > typeSize then most - most % typeSize else most)

/-! ## Blocks -/

/-- The stored form of a block: packed if that is shorter, otherwise shuffled only. -/
def packBlock (b : Backend) (level : Nat) (mode : ShuffleMode) (typeSize : Nat) (raw : Bytes) :
    Option Bytes :=
  let shuffled := shuffle mode typeSize raw
  (b.pack level shuffled).map fun packed => if packed.size < raw.size then packed else shuffled

def packBlocks (b : Backend) (level : Nat) (mode : ShuffleMode) (typeSize : Nat) (src : Bytes) :
    Option (List Bytes) :=
  (src.pieces (blockSize level typeSize src.size)).mapM (packBlock b level mode typeSize)

/-- The positions of blocks that follow each other, each behind a four-byte length. -/
def blockStarts (first : Nat) : List Bytes → List Nat
  | [] => []
  | block :: rest => first :: blockStarts (first + 4 + block.size) rest

/-! ## The two kinds of chunk -/

def shuffleFlag : ShuffleMode → UInt8
  | .off => 0
  | .byte => Flag.byteShuffled
  | .bit => Flag.bitShuffled

/-- The size of a packed chunk with the given blocks: each has a table entry and a length. -/
def packedSize (blocks : List Bytes) : Nat :=
  headerSize + 8 * blocks.length + Bytes.total blocks

def packedBytes (header : Header) (blocks : List Bytes) : Bytes :=
  header.toBytes ++
    Bytes.join ((blockStarts (headerSize + 4 * blocks.length) blocks).map fun start =>
      Bytes.ofUInt32 start.toUInt32) ++
    Bytes.join (blocks.map fun block => Bytes.ofUInt32 block.size.toUInt32 ++ block)

def storedBytes (header : Header) (src : Bytes) : Bytes := header.toBytes ++ src

/-- The fields both kinds of chunk share; the flags record only the compressor. -/
def baseHeader (c : Compressor) (typeSize rawSize : Nat) : Header where
  version := formatVersion
  compressorVersion := compressorVersion
  flags := c.formatCode <<< 5
  typeSize := typeSize.toUInt8
  rawSize := rawSize.toUInt32
  blockSize := 0
  chunkSize := 0

/-- The packed chunk of blocks that were cut from a source of `rawSize` bytes. -/
def packed (c : Compressor) (p : Params) (rawSize : Nat) (blocks : List Bytes) : Bytes :=
  let typeSize := effectiveTypeSize p.typeSize
  let base := baseHeader c typeSize rawSize
  packedBytes
    { base with
      flags := base.flags ||| shuffleFlag p.shuffle
      blockSize := (blockSize p.level.toNat typeSize rawSize).toUInt32
      chunkSize := (packedSize blocks).toUInt32 }
    blocks

def stored (c : Compressor) (p : Params) (src : Bytes) : Bytes :=
  let base := baseHeader c (effectiveTypeSize p.typeSize) src.size
  storedBytes
    { base with
      flags := base.flags ||| Flag.stored
      blockSize := src.size.toUInt32
      chunkSize := (headerSize + src.size).toUInt32 }
    src

/-- The stored chunk if the destination has room for it. -/
def stored? (c : Compressor) (p : Params) (src : Bytes) (room : Nat) : Option Bytes :=
  if headerSize + src.size ≤ room then some (stored c p src) else none

/-- Whether a source is worth packing at all. -/
def isPackable (p : Params) (src : Bytes) : Bool := 0 < p.level && minPackedSource ≤ src.size

/-- The chunk for a source and a destination of `room` bytes, once the parameters have been checked. -/
def writeChecked (b : Backend) (c : Compressor) (p : Params) (src : Bytes) (room : Nat) :
    Except Status (Option Bytes) :=
  if isPackable p src then
    match packBlocks b p.level.toNat p.shuffle (effectiveTypeSize p.typeSize) src with
    | none => .error .failure
    | some blocks =>
      if packedSize blocks < headerSize + src.size ∧ packedSize blocks ≤ room then
        .ok (some (packed c p src.size blocks))
      else .ok (stored? c p src room)
  else .ok (stored? c p src room)

/-- The chunk for a source, or `none` if a destination of `room` bytes cannot hold one. -/
def write (bs : Backends) (c : Compressor) (p : Params) (src : Bytes) (room : Nat) :
    Except Status (Option Bytes) :=
  if src.size > maxSourceSize then .error .sourceTooLarge
  else if p.level < 0 ∨ 9 < p.level then .error .badCodecParameter
  else if p.typeSize = 0 then .error .badParameter
  else if room < maxOverhead then .error .noSpace
  else writeChecked (bs c) c p src room

end Chunk
end FramePress
