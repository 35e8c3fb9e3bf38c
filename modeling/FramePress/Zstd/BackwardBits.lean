import FramePress.Bits

/-! # Bits read backwards

Entropy-coded parts of a zstd block are written forwards and read from the end.  The highest set bit of
the last byte marks the end; the bits below it are the content.

* `BackwardBits`: a byte string and how many of its bits are still unread.
* `read?`: the next bits, most significant first; `peek` pads them with zeros.
-/

namespace FramePress
set_option autoImplicit false

namespace Zstd

structure BackwardBits where
  bytes : Bytes
  /-- The number of unread bits; they are the lowest ones. -/
  left : Nat

namespace BackwardBits

/-- The content of a byte string, if its last byte has the end mark. -/
def ofBytes? (b : Bytes) : Option BackwardBits :=
  match b.back? with
  | none => none
  | some last => if last = 0 then none else some ⟨b, 8 * (b.size - 1) + last.toNat.log2⟩

/-- The number formed by the next `n` bits, and the bits after them. -/
def read? (s : BackwardBits) (n : Nat) : Option (Nat × BackwardBits) :=
  if n ≤ s.left then some (s.bytes.bitsAt (s.left - n) n, { s with left := s.left - n }) else none

/-- The number formed by the next `n` bits; bits after the end are zero. -/
def peek (s : BackwardBits) (n : Nat) : Nat :=
  if n ≤ s.left then s.bytes.bitsAt (s.left - n) n
  else s.bytes.bitsAt 0 s.left <<< (n - s.left)

def isDone (s : BackwardBits) : Bool := s.left = 0

end BackwardBits
end Zstd
end FramePress
