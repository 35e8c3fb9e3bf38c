import FramePress.Backend
import FramePress.Lz4.Block
import FramePress.Zlib.Stream
import FramePress.Zstd.Encode

/-! # The bundled block compressors

* `Backends.bundled`: LZ4, zlib and zstd.
-/

namespace FramePress
set_option autoImplicit false

def Backends.bundled : Backends
  | .lz4 => ⟨fun _ raw => some (Lz4.encode raw), Lz4.decode⟩
  | .zlib => ⟨fun level raw => some (Zlib.encode level raw), Zlib.decode⟩
  | .zstd => ⟨fun _ raw => some (Zstd.encode raw), Zstd.decode⟩

end FramePress
