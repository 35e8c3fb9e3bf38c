import FramePress.Chunk.InPlace
import FramePress.Codec

/-! # The chunk codec

* `Platform`: which compressors there are, and which pools of workers can be created.
* `ChunkCodec`: the selected compressor, and the number of threads with a pool of workers for them.
* `ChunkCodec.codec`: the codec that writes chunks with given backends on a given platform.
-/

namespace FramePress
set_option autoImplicit false

structure Platform where
  isAvailable : Compressor → Bool := fun _ => true
  /-- A pool of this many workers, if it can be created. -/
  workers? : (threads : Nat) → Option Workers := fun _ => some .inOrder

structure ChunkCodec where
  compressor : Compressor := .lz4
  threads : Nat := 1
  /-- The workers, if there is more than one thread. -/
  workers : Option Workers := none

namespace ChunkCodec

def maxThreads : Nat := 256

def select (pf : Platform) (s : ChunkCodec) (c : Compressor) : Except Status Unit × ChunkCodec :=
  if pf.isAvailable c then (.ok (), { s with compressor := c }) else (.error .unsupported, s)

/-- A pool is created only when the number of threads changes; if that fails the old one stays. -/
def setThreads (pf : Platform) (s : ChunkCodec) (n : Nat) : Except Status Unit × ChunkCodec :=
  if n = 0 ∨ maxThreads < n then (.error .badParameter, s)
  else if n = s.threads then (.ok (), s)
  else if n = 1 then (.ok (), { s with threads := n, workers := none })
  else
    match pf.workers? n with
    | none => (.error .noThreads, s)
    | some w => (.ok (), { s with threads := n, workers := some w })

/-- Writes the chunk of a source to the front of a destination, if it fits. -/
def compress (bs : Backends) (s : ChunkCodec) (p : Params) (src dest : Bytes) :
    Compression ChunkCodec :=
  match Chunk.compressInto? s.workers bs s.compressor p src dest with
  | some (result, dest) => ⟨result, dest, s⟩
  -- no write goes past the end of the destination
  | none => ⟨.error .failure, dest, s⟩

def codec (bs : Backends) (pf : Platform := {}) : Codec ChunkCodec where
  name := "blosc"
  maxOverhead := Chunk.maxOverhead
  maxThreads := maxThreads
  compressor := ChunkCodec.compressor
  threads := ChunkCodec.threads
  select := select pf
  setThreads := setThreads pf
  compress := compress bs

end ChunkCodec
end FramePress
