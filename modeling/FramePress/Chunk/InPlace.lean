import FramePress.Buffer
import FramePress.Chunk.Writer
import FramePress.Workers

/-! # Chunks, written into a buffer

The chunk is not put together first: header, table and blocks go to their places one after the other.
Behind the chunk the buffer keeps what it held.  Header and buffer are handed on from the attempt at a
packed chunk to that at a stored one, as the first has left them.

* `placeBlocks?`: the loop over the blocks; each adds a table entry, its length and its bytes.
* `packedInto?` and `storedInto?`: the two kinds of chunk.
* `encodeBlocks`: the blocks of a source, which workers may make.
* `Draft`: a header and a buffer; `Draft.pack?` and `Draft.store?`: the two attempts.
* `compressInto?`: the number of bytes written, and the buffer, whether anything has been written or not.
-/

namespace FramePress.Chunk
set_option autoImplicit false

open Bytes

/-- The table goes on at `slot`, the blocks go on at `offset`. -/
def placeBlocks? (slot offset : Nat) : List Bytes → Bytes → Option Bytes
  | [], dest => some dest
  | block :: rest, dest => do
    let dest ← dest.place? slot (ofUInt32 offset.toUInt32)
    let dest ← dest.place? offset (ofUInt32 block.size.toUInt32)
    let dest ← dest.place? (offset + 4) block
    placeBlocks? (slot + 4) (offset + 4 + block.size) rest dest

def packedInto? (header : Header) (blocks : List Bytes) (dest : Bytes) : Option Bytes := do
  let dest ← dest.place? 0 header.toBytes
  placeBlocks? headerSize (headerSize + 4 * blocks.length) blocks dest

def storedInto? (header : Header) (src dest : Bytes) : Option Bytes := do
  let dest ← dest.place? 0 header.toBytes
  dest.place? headerSize src

/-! ## Attempts -/

/-- The stored forms of the blocks of a source. -/
def encodeBlocks (workers : Option Workers) (b : Backend) (level : Nat) (mode : ShuffleMode) (typeSize : Nat)
    (src : Bytes) : Option (List Bytes) :=
  let parts := src.pieces (blockSize level typeSize src.size)
  match workers with
  | some w => w.map (packBlock b level mode typeSize) parts
  | none => parts.mapM (packBlock b level mode typeSize)

/-- A chunk on its way: the header as it is so far, and the buffer. -/
structure Draft where
  header : Header
  dest : Bytes

/-- What becomes of the attempt to write a packed chunk. -/
inductive Attempt
  | failed
  /-- The packed chunk is not small enough, for its source or for the buffer. -/
  | declined
  | written (size : Nat)

/-- The packed chunk of a source, in place. -/
def Draft.pack? (workers : Option Workers) (b : Backend) (p : Params) (typeSize : Nat) (src : Bytes) (d : Draft) :
    Option (Attempt × Draft) :=
  match encodeBlocks workers b p.level.toNat p.shuffle typeSize src with
  | none => some (.failed, d)
  | some blocks =>
    let size := packedSize blocks
    if headerSize + src.size ≤ size ∨ d.dest.size < size then some (.declined, d)
    else
      let header :=
        { d.header with
          flags := d.header.flags ||| shuffleFlag p.shuffle
          blockSize := (blockSize p.level.toNat typeSize src.size).toUInt32
          chunkSize := size.toUInt32 }
      (packedInto? header blocks d.dest).map fun dest => (.written size, ⟨header, dest⟩)

/-- The stored chunk of a source, in place; zero if there is no room for it. -/
def Draft.store? (src : Bytes) (d : Draft) : Option (Nat × Draft) :=
  let size := headerSize + src.size
  if d.dest.size < size then some (0, d)
  else
    let header :=
      { d.header with
        flags := d.header.flags ||| Flag.stored
        blockSize := src.size.toUInt32
        chunkSize := size.toUInt32 }
    (storedInto? header src d.dest).map fun dest => (size, ⟨header, dest⟩)

/-! ## Compressing -/

def compressChecked? (workers : Option Workers) (b : Backend) (c : Compressor) (p : Params) (src dest : Bytes) :
    Option (Except Status Nat × Bytes) := do
  let typeSize := effectiveTypeSize p.typeSize
  let d : Draft := ⟨baseHeader c typeSize src.size, dest⟩
  let (attempt, d) ← if isPackable p src then d.pack? workers b p typeSize src else some (.declined, d)
  match attempt with
  | .failed => return (.error .failure, d.dest)
  | .written size => return (.ok size, d.dest)
  | .declined =>
    let (size, d) ← d.store? src
    return (.ok size, d.dest)

def compressInto? (workers : Option Workers) (bs : Backends) (c : Compressor) (p : Params) (src dest : Bytes) :
    Option (Except Status Nat × Bytes) :=
  if src.size > maxSourceSize then some (.error .sourceTooLarge, dest)
  else if p.level < 0 ∨ 9 < p.level then some (.error .badCodecParameter, dest)
  else if p.typeSize = 0 then some (.error .badParameter, dest)
  else if dest.size < maxOverhead then some (.error .noSpace, dest)
  else compressChecked? workers (bs c) c p src dest

end FramePress.Chunk
