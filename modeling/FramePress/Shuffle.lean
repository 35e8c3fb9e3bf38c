import FramePress.Bytes

/-! # Shuffle filters

A filter regroups the bytes or the bits of a block by their significance inside an element, so that
blocks of similar numbers become blocks of long runs.  Only whole elements take part, in bit mode
only whole groups of eight elements; the bytes after them stay where they are.

* `ShuffleMode`: which filter is used, and its code in control messages.
* `transposed rows cols`: where the byte at a position of a transposed `rows × cols` table comes from.
* `shuffle` and `unshuffle`: a filter and its inverse.  Both are gathers: each byte of the result is
  computed from the source alone.
-/

namespace FramePress
set_option autoImplicit false

/-- The filter applied to a block before it is compressed. -/
inductive ShuffleMode
  | off
  /-- Bytes of equal significance are grouped. -/
  | byte
  /-- Bits of equal significance are grouped. -/
  | bit
  deriving DecidableEq, Inhabited, Repr

namespace ShuffleMode

def all : List ShuffleMode := [off, byte, bit]

/-- The number that selects the mode in a control message. -/
def code : ShuffleMode → Nat
  | off => 0
  | byte => 1
  | bit => 2

def ofCode? (n : Int) : Option ShuffleMode := all.find? fun m => n = m.code

end ShuffleMode

namespace Shuffle

/-! ## Bits of a byte -/

/-- Bit `i` of a byte, bit 0 the least significant. -/
@[inline] def bitOf (x : UInt8) (i : Nat) : Bool := x.toNat.testBit i

/-- The byte whose bit `i` is `f i`. -/
@[inline] def ofBits (f : Nat → Bool) : UInt8 :=
  (f 0).toUInt8 ||| ((f 1).toUInt8 <<< 1) ||| ((f 2).toUInt8 <<< 2) ||| ((f 3).toUInt8 <<< 3) |||
    ((f 4).toUInt8 <<< 4) ||| ((f 5).toUInt8 <<< 5) ||| ((f 6).toUInt8 <<< 6) |||
    ((f 7).toUInt8 <<< 7)

/-! ## Byte mode -/

/-- A table of `cols` rows of `rows` entries, read column by column: the place in the table of
entry `i`.  `transposed rows cols` and `transposed cols rows` undo each other. -/
@[inline] def transposed (rows cols i : Nat) : Nat := i % cols * rows + i / cols

/-- The source with its first `rows * cols` bytes transposed. -/
def transpose (rows cols : Nat) (src : Bytes) : Bytes :=
  Array.ofFn fun i : Fin src.size =>
    if i < rows * cols then src.byteAt (transposed rows cols i) else src[i]

/-! ## Bit mode -/

/-- Byte `i` of the bit-shuffled body, for elements of `size` bytes in `groups` groups of eight.
Its row `i / groups` gives the byte of the element and the bit of that byte, its column the group. -/
@[inline] def planeByte (size groups : Nat) (src : Bytes) (i : Nat) : UInt8 :=
  let row := i / groups
  let k := i % groups
  ofBits fun j => bitOf (src.byteAt ((8 * k + j) * size + row / 8)) (row % 8)

/-- Byte `i` of the body restored from its bit planes. -/
@[inline] def elementByte (size groups : Nat) (src : Bytes) (i : Nat) : UInt8 :=
  let e := i / size
  let b := i % size
  ofBits fun j => bitOf (src.byteAt ((8 * b + j) * groups + e / 8)) (e % 8)

/-- The source with the first `8 * groups * size` bytes split into bit planes. -/
def splitPlanes (size groups : Nat) (src : Bytes) : Bytes :=
  Array.ofFn fun i : Fin src.size =>
    if i < 8 * groups * size then planeByte size groups src i else src[i]

/-- The source with the first `8 * groups * size` bytes restored from bit planes. -/
def mergePlanes (size groups : Nat) (src : Bytes) : Bytes :=
  Array.ofFn fun i : Fin src.size =>
    if i < 8 * groups * size then elementByte size groups src i else src[i]

end Shuffle

/-! ## The filters -/

/-- The block with its elements of `typeSize` bytes regrouped; an element size of zero counts as one. -/
def shuffle (mode : ShuffleMode) (typeSize : Nat) (src : Bytes) : Bytes :=
  let size := max typeSize 1
  match mode with
  | .off => src
  | .byte => Shuffle.transpose size (src.size / size) src
  | .bit => Shuffle.splitPlanes size (src.size / size / 8) src

/-- The block that `shuffle` regrouped into `src`. -/
def unshuffle (mode : ShuffleMode) (typeSize : Nat) (src : Bytes) : Bytes :=
  let size := max typeSize 1
  match mode with
  | .off => src
  | .byte => Shuffle.transpose (src.size / size) size src
  | .bit => Shuffle.mergePlanes size (src.size / size / 8) src

end FramePress
