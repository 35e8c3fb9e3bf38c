import FramePress.Bytes
import FramePress.Compressor

/-! # Block compressors

* `Backend`: how one block is packed and unpacked.
* `Backends`: one backend for each compressor.  Chunks are written and read over any such family.
* `Backend.Faithful`: a packed block that is shorter than its source unpacks to it.
-/

namespace FramePress
set_option autoImplicit false

structure Backend where
  /-- The packed form of a block at a level from 1 to 9, or `none` if the encoder fails. -/
  pack : (level : Nat) → Bytes → Option Bytes
  /-- The bytes a packed block stands for, or `none` if it cannot be decoded.  The caller expects
  `rawLength` bytes; how many there are is for the caller to check. -/
  unpack : Bytes → (rawLength : Nat) → Option Bytes

abbrev Backends := Compressor → Backend

/-- Every packed block that is shorter than its source unpacks to the source. -/
def Backend.Faithful (b : Backend) : Prop :=
  ∀ level raw packed, b.pack level raw = some packed → packed.size < raw.size →
    b.unpack packed raw.size = some raw

end FramePress
