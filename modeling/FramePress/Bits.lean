import FramePress.Bytes

/-! # Bits of a byte string

A byte string is also a row of bits, the least significant bit of each byte first.

* `bitCount`, `bitsAt`: how many bits there are, and the number that some of them form.
* `readBits`: a checked read that also gives the next position.
* `BitWriter`: bits put one after the other.
-/

namespace FramePress
set_option autoImplicit false

namespace Bytes

def bitCount (b : Bytes) : Nat := 8 * b.size

/-- The number formed by the `n` bits from position `pos` on, the first one the least significant;
bits after the end are zero.  At most 57 bits can be read at once. -/
def bitsAt (b : Bytes) (pos n : Nat) : Nat :=
  ((b.u64At (pos / 8)).toNat >>> (pos % 8)) % (1 <<< n)

/-- The number formed by the next `n` bits and the position after them, if they are all present. -/
def readBits (b : Bytes) (pos n : Nat) : Option (Nat × Nat) :=
  if pos + n ≤ b.bitCount then some (b.bitsAt pos n, pos + n) else none

end Bytes

/-- Bytes that are complete and the bits of the one that is not. -/
structure BitWriter where
  done : Bytes := #[]
  pending : Nat := 0
  pendingBits : Nat := 0

namespace BitWriter

/-- Moves whole bytes out of the pending bits. -/
def flush (w : BitWriter) : BitWriter :=
  if 8 ≤ w.pendingBits then
    flush ⟨w.done.push w.pending.toUInt8, w.pending / 256, w.pendingBits - 8⟩
  else w
termination_by w.pendingBits

/-- Appends the low `n` bits of `value`, the least significant first. -/
def put (w : BitWriter) (value n : Nat) : BitWriter :=
  flush { w with
    pending := w.pending + (value % (1 <<< n)) <<< w.pendingBits
    pendingBits := w.pendingBits + n }

/-- All bytes; zero bits fill up the last one. -/
def toBytes (w : BitWriter) : Bytes :=
  if w.pendingBits = 0 then w.done else w.done.push w.pending.toUInt8

end BitWriter
end FramePress
