import FramePress.Lz.Range

/-! # Symbols of the deflate format

Literals and lengths share one alphabet: 0 to 255 are bytes, 256 ends a block, 257 to 285 are copy
lengths.  Offsets have an alphabet of 30 symbols.  A length or offset symbol stands for a range; extra
bits say which member is meant.

* `lengthRanges`, `offsetRanges`, `rangeOf`: the ranges, and the one that contains a number.
* `fixedLengths`, `fixedOffsets`: the code lengths of blocks without a code of their own.
-/

namespace FramePress
set_option autoImplicit false

namespace Deflate

def endOfBlock : Nat := 256

def firstLengthSymbol : Nat := 257

/-- Copy lengths from 3 to 257; the last symbol is for 258 alone. -/
def lengthRanges : Array Lz.Range :=
  (Lz.rangesFrom 3 [0, 0, 0, 0, 0, 0, 0, 0, 1, 1, 1, 1, 2, 2, 2, 2, 3, 3, 3, 3, 4, 4, 4, 4, 5, 5, 5, 5]
    ++ [({ first := 258, extraBits := 0 } : Lz.Range)]).toArray

/-- Offsets from 1 to 32768. -/
def offsetRanges : Array Lz.Range :=
  (Lz.rangesFrom 1 [0, 0, 0, 0, 1, 1, 2, 2, 3, 3, 4, 4, 5, 5, 6, 6, 7, 7, 8, 8, 9, 9, 10, 10, 11, 11, 12, 12,
    13, 13]).toArray

def maxLength : Nat := 258

def minLength : Nat := 3

/-- How far back a copy may reach. -/
def window : Nat := 32768

/-- The index of the last range that does not begin after `n`. -/
def rangeOf (ranges : Array Lz.Range) (n : Nat) : Nat :=
  (ranges.toList.filter fun r => r.first ≤ n).length - 1

def fixedLengths : Array Nat :=
  Array.replicate 144 8 ++ Array.replicate 112 9 ++ Array.replicate 24 7 ++ Array.replicate 8 8

def fixedOffsets : Array Nat := Array.replicate 32 5

/-- The order in which the lengths of the code for code lengths are written. -/
def lengthCodeOrder : List Nat :=
  [16, 17, 18, 0, 8, 7, 9, 6, 10, 5, 11, 4, 12, 3, 13, 2, 14, 1, 15]

end Deflate
end FramePress
