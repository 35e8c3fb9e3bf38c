import FramePress.Chunk.Reader
import FramePress.Shuffle.InPlace

/-! # Reading chunks, every access checked

The reader as it goes through memory: the header field by field, ranges by their ends, each block unshuffled
into a buffer of its own.  A byte, a range or a number that does not exist is no error of the chunk, and
there is no result.

* `Checked`: the result of the reader or its error, or nothing at all.
* `word?`, `minus?`, `countOf?`: sizes and offsets that are computed from the fields of the chunk.
* `unshuffled?`: a block, written unshuffled over a buffer.
* `header`, `storedBlock`, `block`, `read`: the reader.
-/

namespace FramePress.Chunk
set_option autoImplicit false

/-- `none` if an access is out of range. -/
abbrev Checked (α : Type) := ExceptT ChunkError Option α

namespace Checked

/-! ## Sizes and offsets -/

/-- A sum or a product that fits in 64 bits; what it is made of is not larger. -/
def word? (n : Nat) : Option Nat := if n < UInt64.size then some n else none

def minus? (a b : Nat) : Option Nat := if b ≤ a then some (a - b) else none

/-- How many parts of length `n` there are, the last one possibly shorter. -/
def countOf? (size n : Nat) : Option Nat := if n = 0 then none else some ((size + n - 1) / n)

/-! ## Blocks -/

/-- The word whose four bytes begin at `i`. -/
def wordAt (chunk : Bytes) (i : Nat) : Checked Nat := do
  let _ ← word? (i + 4)
  Chunk.wordAt chunk i

def storedBlock (chunk : Bytes) (i : Nat) : Checked Bytes := do
  let slot ← word? (headerSize + 4 * i)
  let start ← wordAt chunk slot
  let size ← wordAt chunk start
  let _ ← word? (start + 4 + size)
  match chunk.slice? (start + 4) size with
  | some data => return data
  | none => throw (.blockOverrun i)

/-- The two buffers must have the same size. -/
def unshuffled? (mode : ShuffleMode) (typeSize : Nat) (src dest : Bytes) : Option Bytes :=
  if src.size = dest.size then unshuffleInto? mode typeSize src dest else none

def block (bs : Backends) (h : Header) (c : Compressor) (chunk : Bytes) (i : Nat) : Checked Bytes := do
  let data ← storedBlock chunk i
  let before ← word? (i * h.blockSize.toNat)
  let behind ← minus? h.rawSize.toNat before
  let rawSize := min h.blockSize.toNat behind
  let shuffled ← unpackBlock bs c rawSize data
  unshuffled? h.shuffleMode h.typeSize.toNat shuffled (Array.replicate rawSize 0)

/-- The raw data of `count` blocks from block `i` on, after the data in `out`. -/
def blocks (bs : Backends) (h : Header) (c : Compressor) (chunk : Bytes) :
    (count i : Nat) → (out : Bytes) → Checked Bytes
  | 0, _, out => return out
  | count + 1, i, out => do
    let raw ← block bs h c chunk i
    blocks bs h c chunk count (i + 1) (out ++ raw)

/-! ## Chunks -/

def fields? (chunk : Bytes) : Option Header := do
  return {
    version := ← chunk[0]?
    compressorVersion := ← chunk[1]?
    flags := ← chunk[2]?
    typeSize := ← chunk[3]?
    rawSize := ← chunk.u32At? 4
    blockSize := ← chunk.u32At? 8
    chunkSize := ← chunk.u32At? 12 }

/-- All fields are read before the version is looked at. -/
def header (chunk : Bytes) : Checked Header :=
  if chunk.size < headerSize then throw (.shortHeader chunk.size)
  else do
    let h ← fields? chunk
    if h.version ≠ formatVersion then throw (.unknownVersion h.version) else return h

def readPacked (bs : Backends) (h : Header) (chunk : Bytes) : Checked Bytes :=
  match h.compressor? with
  | none => throw (.unknownFormat h.format)
  | some c =>
    if h.blockSize = 0 then throw .zeroBlockSize
    else do
      let count ← countOf? h.rawSize.toNat h.blockSize.toNat
      blocks bs h c chunk count 0 #[]

def readStored (h : Header) (chunk : Bytes) : Checked Bytes := do
  let _ ← word? (headerSize + h.rawSize.toNat)
  Chunk.readStored h chunk

def read (bs : Backends) (bytes : Bytes) : Checked Bytes := do
  let h ← header bytes
  if h.chunkSize.toNat > bytes.size then throw (.missingBytes h.chunkSize.toNat bytes.size)
  else
    let chunk ← bytes.slice? 0 h.chunkSize.toNat
    if h.isStored then readStored h chunk else readPacked bs h chunk

end Checked
end FramePress.Chunk
