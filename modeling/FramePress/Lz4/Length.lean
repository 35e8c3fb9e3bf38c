import FramePress.Bytes

/-! # Lengths in LZ4 blocks

A length is split between a four-bit field and the bytes after it: the field holds up to 15, where 15
says that more follows; then come bytes of 255 and a last byte below 255, all to be added.

* `field` and `extra`: the two parts of a length.
* `readExtra`: the value of the bytes, and the position after them.
-/

namespace FramePress
set_option autoImplicit false

namespace Lz4

/-- The largest value of a length field; it announces further bytes. -/
def fieldMax : Nat := 15

/-- The part of a length that fits into its field. -/
def field (n : Nat) : Nat := min n fieldMax

/-- `n` as bytes of 255 and a last byte below 255. -/
def extraBytes (n : Nat) : Bytes := Array.replicate (n / 255) 255 |>.push (n % 255).toUInt8

/-- The part of a length that follows its field. -/
def extra (n : Nat) : Bytes := if n < fieldMax then #[] else extraBytes (n - fieldMax)

/-- `sum` plus the bytes from position `i` on, up to the first one below 255. -/
def readExtra (b : Bytes) (i sum : Nat) : Option (Nat × Nat) :=
  if h : i < b.size then
    if b[i] = 255 then readExtra b (i + 1) (sum + 255)
    else some (sum + b[i].toNat, i + 1)
  else none
termination_by b.size - i

/-- The length with the given field whose further bytes, if any, are at position `i`. -/
def readLength (b : Bytes) (i fieldValue : Nat) : Option (Nat × Nat) :=
  if fieldValue < fieldMax then some (fieldValue, i) else readExtra b i fieldMax

end Lz4
end FramePress
