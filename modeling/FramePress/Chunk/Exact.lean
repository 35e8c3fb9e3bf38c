import FramePress.Chunk.Checked
import FramePress.Chunk.InPlace
import FramePress.Codec.Chunked

/-! # Writing chunks, every number checked

The writer as it computes its numbers.  Sums and products are 64-bit words; sizes and offsets become signed 32-bit
words, the element size and the format code parts of bytes.  A number that does not fit and an access that is out
of range are no refusals, and there is no result.

* `Exact`: the result of the writer or its status, or nothing at all.
* `size?`, `byte?`: a number as it stands in a chunk.
* `blockSize?`, `framedSize?`: the numbers that are computed from parameters and blocks.
* `packBlock`, `placeBlocks?`, `packedInto?`, `packed`, `stored?`, `compress`: the writer.
-/

namespace FramePress.Chunk
set_option autoImplicit false

/-- `none` if a number does not fit or an access is out of range. -/
abbrev Exact (α : Type) := ExceptT Status Option α

namespace Exact

open Bytes
open Checked (word? minus? countOf?)

/-! ## Numbers -/

/-- The largest number in the words of a chunk, whose readers may take them as signed. -/
def maxWord : Nat := 0x7fffffff

/-- A size or an offset, cast to a word. -/
def size? (n : Nat) : Option UInt32 := if n ≤ maxWord then some n.toUInt32 else none

/-- A number, cast to a byte. -/
def byte? (n : Nat) : Option UInt8 := if n < UInt8.size then some n.toUInt8 else none

/-- What is left of `a` when it has been divided into parts of `b`. -/
def rest? (a b : Nat) : Option Nat := if b = 0 then none else some (a % b)

def blockSize? (level typeSize rawSize : Nat) : Option Nat := do
  let most := min (blockLimit level) rawSize
  if most > typeSize then
    let rest ← rest? most typeSize
    let whole ← minus? most rest
    return max 1 whole
  else return max 1 most

/-- The sizes of blocks, each with its length in front, added to `sum`. -/
def framedSize? (sum : Nat) : List Bytes → Option Nat
  | [] => some sum
  | block :: rest => do
    let size ← word? (4 + block.size)
    let next ← word? (sum + size)
    framedSize? next rest

/-! ## Blocks -/

/-- A block is shuffled into a buffer of its own. -/
def packBlock (b : Backend) (level : Nat) (mode : ShuffleMode) (typeSize : Nat) (raw : Bytes) : Exact Bytes := do
  let shuffled ← shuffleInto? mode typeSize raw (Array.replicate raw.size 0)
  match b.pack level shuffled with
  | none => throw .failure
  | some packed => return if packed.size < raw.size then packed else shuffled

/-- The entry of block `i` and what follows it; the blocks go on at `offset`.  The last offset is returned. -/
def placeBlocks? (i offset : Nat) : List Bytes → Bytes → Option (Nat × Bytes)
  | [], dest => some (offset, dest)
  | block :: rest, dest => do
    let before ← word? (4 * i)
    let slot ← word? (headerSize + before)
    let _ ← word? (slot + 4)
    let entry ← size? offset
    let dest ← dest.place? slot (ofUInt32 entry)
    let start ← word? (offset + 4)
    let length ← size? block.size
    let dest ← dest.place? offset (ofUInt32 length)
    let next ← word? (start + block.size)
    let dest ← dest.place? start block
    placeBlocks? (i + 1) next rest dest

/-! ## Chunks -/

def baseHeader? (c : Compressor) (typeSize rawSize : Nat) : Option Header := do
  return {
    version := formatVersion
    compressorVersion := compressorVersion
    flags := ← byte? (c.formatCode.toNat <<< 5)
    typeSize := ← byte? typeSize
    rawSize := ← size? rawSize
    blockSize := 0
    chunkSize := 0 }

/-- The blocks go to `first`; the size that was added up beforehand is the size that is written. -/
def packedInto? (header : Header) (first total : Nat) (blocks : List Bytes) (dest : Bytes) : Option Bytes := do
  let dest ← dest.place? 0 header.toBytes
  let (last, dest) ← placeBlocks? 0 first blocks dest
  if last = total then return dest else none

/-- The size of the packed chunk and the destination with the chunk in it, or `none` if the chunk is not written. -/
def packed (b : Backend) (p : Params) (typeSize : Nat) (base : Header) (src dest : Bytes) :
    Exact (Option (Nat × Bytes)) := do
  let blockSize ← blockSize? p.level.toNat typeSize src.size
  let count ← countOf? src.size blockSize
  let blocks ← (src.pieces blockSize).mapM (packBlock b p.level.toNat p.shuffle typeSize)
  let table ← word? (4 * count)
  let first ← word? (headerSize + table)
  let framed ← framedSize? 0 blocks
  let total ← word? (first + framed)
  let limit ← word? (src.size + headerSize)
  if limit ≤ total ∨ dest.size < total then return none
  else
    let blockSize ← size? blockSize
    let chunkSize ← size? total
    let header :=
      { base with flags := base.flags ||| shuffleFlag p.shuffle, blockSize := blockSize, chunkSize := chunkSize }
    let dest ← packedInto? header first total blocks dest
    return some (total, dest)

/-- Nothing is written if the destination is too small. -/
def stored? (base : Header) (src dest : Bytes) : Option (Nat × Bytes) := do
  let total ← word? (headerSize + src.size)
  if dest.size < total then return (0, dest)
  else
    let blockSize ← size? src.size
    let chunkSize ← size? total
    let header :=
      { base with flags := base.flags ||| Flag.stored, blockSize := blockSize, chunkSize := chunkSize }
    let dest ← storedInto? header src dest
    return (total, dest)

/-- The number of bytes written and the destination, once the parameters have been checked. -/
def compressChecked (b : Backend) (c : Compressor) (p : Params) (src dest : Bytes) : Exact (Nat × Bytes) := do
  let typeSize := effectiveTypeSize p.typeSize
  let base ← baseHeader? c typeSize src.size
  if isPackable p src then
    match ← packed b p typeSize base src dest with
    | some written => return written
    | none => stored? base src dest
  else stored? base src dest

def compress (bs : Backends) (c : Compressor) (p : Params) (src dest : Bytes) : Exact (Nat × Bytes) :=
  if src.size > maxSourceSize then throw .sourceTooLarge
  else if p.level < 0 ∨ 9 < p.level then throw .badCodecParameter
  else if p.typeSize = 0 then throw .badParameter
  else if dest.size < maxOverhead then throw .noSpace
  else compressChecked (bs c) c p src dest

end Exact
end FramePress.Chunk
