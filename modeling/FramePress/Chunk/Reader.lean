import FramePress.Backend
import FramePress.Chunk.Header
import FramePress.Shuffle

/-! # Reading chunks

* `Header.compressor?`, `Header.shuffleMode`: what the flags say about the blocks.
* `readBlock`: one block, found through its table entry, decoded if it is shorter or longer than its
  raw size, and unshuffled.
* `read`: the raw data of a chunk.  Bytes after the recorded chunk size are not looked at.
-/

namespace FramePress
set_option autoImplicit false

namespace Chunk

/-! ## What the header says about the blocks -/

def Header.isStored (h : Header) : Bool := h.hasFlag Flag.stored

def Header.compressor? (h : Header) : Option Compressor := Compressor.ofFormatCode? h.format

/-- The filter to undo; the bit filter wins if both are recorded. -/
def Header.shuffleMode (h : Header) : ShuffleMode :=
  if h.hasFlag Flag.bitShuffled then .bit
  else if h.hasFlag Flag.byteShuffled then .byte
  else .off

def Header.blockCount (h : Header) : Nat :=
  (h.rawSize.toNat + h.blockSize.toNat - 1) / h.blockSize.toNat

def Header.rawBlockSize (h : Header) (i : Nat) : Nat :=
  min h.blockSize.toNat (h.rawSize.toNat - i * h.blockSize.toNat)

/-! ## Blocks -/

def wordAt (chunk : Bytes) (i : Nat) : Except ChunkError Nat :=
  match chunk.u32At? i with
  | some w => .ok w.toNat
  | none => .error (.offsetOutside i chunk.size)

def storedBlock (chunk : Bytes) (i : Nat) : Except ChunkError Bytes := do
  let start ← wordAt chunk (headerSize + 4 * i)
  let size ← wordAt chunk start
  match chunk.slice? (start + 4) size with
  | some data => .ok data
  | none => .error (.blockOverrun i)

/-- The shuffled form of a block: a stored form of the raw size is that form already. -/
def unpackBlock (bs : Backends) (c : Compressor) (rawSize : Nat) (data : Bytes) :
    Except ChunkError Bytes :=
  if data.size = rawSize then .ok data
  else match (bs c).unpack data rawSize with
    | none => .error (.undecodable c)
    | some out => if out.size = rawSize then .ok out else .error (.wrongLength c out.size rawSize)

def readBlock (bs : Backends) (h : Header) (c : Compressor) (chunk : Bytes) (i : Nat) :
    Except ChunkError Bytes := do
  let data ← storedBlock chunk i
  let shuffled ← unpackBlock bs c (h.rawBlockSize i) data
  return unshuffle h.shuffleMode h.typeSize.toNat shuffled

/-- The raw data of `count` blocks from block `i` on, after the data in `out`. -/
def readBlocks (bs : Backends) (h : Header) (c : Compressor) (chunk : Bytes) :
    (count i : Nat) → (out : Bytes) → Except ChunkError Bytes
  | 0, _, out => .ok out
  | count + 1, i, out => do
    let raw ← readBlock bs h c chunk i
    readBlocks bs h c chunk count (i + 1) (out ++ raw)

/-! ## Chunks -/

def readPacked (bs : Backends) (h : Header) (chunk : Bytes) : Except ChunkError Bytes :=
  match h.compressor? with
  | none => .error (.unknownFormat h.format)
  | some c =>
    if h.blockSize = 0 then .error .zeroBlockSize
    else readBlocks bs h c chunk h.blockCount 0 #[]

def readStored (h : Header) (chunk : Bytes) : Except ChunkError Bytes :=
  match chunk.slice? headerSize h.rawSize.toNat with
  | some body => .ok body
  | none => .error .truncatedStored

def read (bs : Backends) (bytes : Bytes) : Except ChunkError Bytes := do
  let h ← Header.read bytes
  if h.chunkSize.toNat > bytes.size then
    .error (.missingBytes h.chunkSize.toNat bytes.size)
  else
    let chunk := bytes.extract 0 h.chunkSize.toNat
    if h.isStored then readStored h chunk else readPacked bs h chunk

end Chunk
end FramePress
