import FramePress.Compressor

/-! # Why a chunk cannot be read

* `ChunkError`: the first defect the reader meets, and its text.
-/

namespace FramePress
set_option autoImplicit false

inductive ChunkError
  /-- The chunk ends inside its header. -/
  | shortHeader (size : Nat)
  | unknownVersion (version : UInt8)
  /-- The header records more bytes than the chunk has. -/
  | missingBytes (recorded present : Nat)
  | truncatedStored
  | unknownFormat (code : UInt8)
  | zeroBlockSize
  /-- A table entry or a block length lies outside the chunk. -/
  | offsetOutside (offset size : Nat)
  | blockOverrun (index : Nat)
  /-- The backend cannot decode a block. -/
  | undecodable (compressor : Compressor)
  | wrongLength (compressor : Compressor) (got expected : Nat)
  deriving DecidableEq, Repr

def ChunkError.message : ChunkError → String
  | shortHeader n => s!"chunk of {n} bytes is shorter than the 16-byte header"
  | unknownVersion v => s!"unsupported chunk format version {v} (expected 2)"
  | missingBytes r p => s!"chunk header claims {r} bytes but only {p} are present"
  | truncatedStored => "memcpyed chunk is truncated"
  | unknownFormat c => s!"unknown compressor format code {c}"
  | zeroBlockSize => "compressed chunk has a zero block size"
  | offsetOutside o n => s!"offset {o} is outside the {n}-byte chunk"
  | blockOverrun i => s!"block {i} runs past the end of the chunk"
  | undecodable c => s!"{c.name} block cannot be decoded"
  | wrongLength c got want =>
    s!"{c.name} block decompressed to {got} bytes, expected {want}"

end FramePress
