import FramePress.Compressor
import FramePress.Params
import FramePress.Status

/-! # Codecs

A codec has a selected compressor and a number of worker threads, which stay in force until they are
changed, and compresses one source at a time.

* `Codec σ`: a codec whose state is a `σ`.  Every call may be refused with a status, and every call may
  change the state, whether it is refused or not.
* `Compression`: what a compression reports, and the destination and the state after it.
-/

namespace FramePress
set_option autoImplicit false

structure Compression (σ : Type) where
  /-- The number of bytes written; zero if the destination was too small. -/
  result : Except Status Nat
  dest : Bytes
  state : σ

structure Codec (σ : Type) where
  name : String
  /-- What a result may take beyond its source. -/
  maxOverhead : Nat
  maxThreads : Nat
  compressor : σ → Compressor
  threads : σ → Nat
  select : σ → Compressor → Except Status Unit × σ
  setThreads : σ → Nat → Except Status Unit × σ
  compress : σ → Params → (src dest : Bytes) → Compression σ

end FramePress
