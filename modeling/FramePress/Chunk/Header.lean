import FramePress.Bytes
import FramePress.Chunk.Error

/-! # Chunk headers

Every chunk begins with 16 bytes: format version, compressor format version, flags and element size
as one byte each, then three little-endian words, the size of the raw data, the nominal raw size of
a block and the size of the whole chunk.

* `Header`: the seven fields.
* `Header.toBytes` and `Header.read`: the 16 bytes, and the header at the front of a chunk.
* `Flag`: the meaning of the low bits of the flags; the top three hold the compressor's format code.
-/

namespace FramePress
set_option autoImplicit false

namespace Chunk

def headerSize : Nat := 16

/-- The version every chunk begins with. -/
def formatVersion : UInt8 := 2

/-- The version recorded for each compressor's own format. -/
def compressorVersion : UInt8 := 1

namespace Flag

def byteShuffled : UInt8 := 1

/-- The raw data follows the header as it is. -/
def stored : UInt8 := 2

def bitShuffled : UInt8 := 4

end Flag

structure Header where
  version : UInt8
  compressorVersion : UInt8
  flags : UInt8
  typeSize : UInt8
  rawSize : UInt32
  /-- Raw bytes of each block but the last. -/
  blockSize : UInt32
  /-- Bytes of the chunk, this header included. -/
  chunkSize : UInt32
  deriving DecidableEq, Repr

namespace Header

def toBytes (h : Header) : Bytes :=
  #[h.version, h.compressorVersion, h.flags, h.typeSize] ++ Bytes.ofUInt32 h.rawSize ++
    Bytes.ofUInt32 h.blockSize ++ Bytes.ofUInt32 h.chunkSize

def read (chunk : Bytes) : Except ChunkError Header :=
  if chunk.size < headerSize then .error (.shortHeader chunk.size)
  else if chunk.byteAt 0 ≠ formatVersion then .error (.unknownVersion (chunk.byteAt 0))
  else .ok {
    version := chunk.byteAt 0
    compressorVersion := chunk.byteAt 1
    flags := chunk.byteAt 2
    typeSize := chunk.byteAt 3
    rawSize := chunk.u32At 4
    blockSize := chunk.u32At 8
    chunkSize := chunk.u32At 12 }

/-- Whether any of the bits of `mask` is set in the flags. -/
def hasFlag (h : Header) (mask : UInt8) : Bool := h.flags &&& mask != 0

/-- The format code of the compressor, the top three bits of the flags. -/
def format (h : Header) : UInt8 := h.flags >>> 5

end Header
end Chunk
end FramePress
