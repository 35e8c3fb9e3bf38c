import FramePress.Checksum.Adler
import FramePress.Deflate.Encode
import FramePress.Deflate.Inflate

/-! # Zlib streams

Two header bytes, a deflate stream, and the checksum of the raw bytes.

* `encode`: the header depends on the level alone.
* `decode`: the raw bytes, read no further than one byte beyond the expected size.
-/

namespace FramePress
set_option autoImplicit false

namespace Zlib

/-- The header: the method with a window of 32 KiB, and how hard the encoder tried. -/
def headerBytes (level : Nat) : Bytes :=
  if level ≤ 1 then #[0x78, 0x01]
  else if level ≤ 3 then #[0x78, 0x5e]
  else if level ≤ 8 then #[0x78, 0x9c]
  else #[0x78, 0xda]

def checksumBytes (n : Nat) : Bytes :=
  #[(n >>> 24).toUInt8, (n >>> 16).toUInt8, (n >>> 8).toUInt8, n.toUInt8]

def encode (level : Nat) (src : Bytes) : Bytes :=
  headerBytes level ++ Deflate.deflate src ++ checksumBytes (adler32 src)

/-- Whether the header is intact, names the deflate method with an admissible window, and asks for no
dictionary. -/
def isHeader (method flags : UInt8) : Bool :=
  (256 * method.toNat + flags.toNat) % 31 = 0 && flags &&& 0x20 = 0 && method &&& 0x0f = 8 &&
    method >>> 4 ≤ 7

/-- The raw bytes of a stream.  If there are more than `rawLength`, only one more is read, and nothing
is checked after it; bytes after the checksum are ignored. -/
def decode (b : Bytes) (rawLength : Nat) : Option Bytes := do
  guard (2 ≤ b.size && isHeader (b.byteAt 0) (b.byteAt 1))
  match ← Deflate.inflate b 16 (rawLength + 1) with
  | .full out => return out
  | .ended out pos =>
    let check ← b.slice? ((pos + 7) / 8) 4
    guard (check = checksumBytes (adler32 out))
    return out

end Zlib
end FramePress
