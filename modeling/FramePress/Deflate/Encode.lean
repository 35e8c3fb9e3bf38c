import FramePress.Deflate.Code
import FramePress.Deflate.Symbols
import FramePress.Lz.Search

/-! # Writing deflate streams

* `splitLength`: a long copy as copies of admissible lengths.
* `deflate`: a copy plan as one block with the fixed code.
-/

namespace FramePress
set_option autoImplicit false

namespace Deflate

def fixedLengthWords : Array (Nat × Nat) := Code.words fixedLengths

def fixedOffsetWords : Array (Nat × Nat) := Code.words fixedOffsets

/-- The first part of a copy that is too long; what is left is not too short. -/
def firstPart (n : Nat) : Nat := min maxLength (n - minLength)

/-- A copy length as a row of lengths from 3 to 258 with the same sum. -/
def splitLength (n : Nat) : List Nat :=
  if n ≤ maxLength then [n] else firstPart n :: splitLength (n - firstPart n)
termination_by n
decreasing_by simp only [firstPart, maxLength, minLength] at *; omega

def putWord (words : Array (Nat × Nat)) (w : BitWriter) (symbol : Nat) : BitWriter :=
  let (word, bits) := words.getD symbol (0, 0)
  w.put word bits

/-- Appends the symbol of a number's range and the extra bits. -/
def putInRange (words : Array (Nat × Nat)) (firstSymbol : Nat) (ranges : Array Lz.Range) (w : BitWriter)
    (n : Nat) : BitWriter :=
  let k := rangeOf ranges n
  let range := ranges.getD k ⟨n, 0⟩
  (putWord words w (firstSymbol + k)).put (n - range.first) range.extraBits

def putCopy (offset : Nat) (w : BitWriter) (length : Nat) : BitWriter :=
  putInRange fixedOffsetWords 0 offsetRanges
    (putInRange fixedLengthWords firstLengthSymbol lengthRanges w length) offset

def putLiterals (src : Bytes) (start stop : Nat) (w : BitWriter) : BitWriter :=
  (src.extract start stop).foldl (fun w x => putWord fixedLengthWords w x.toNat) w

def putSequence (src : Bytes) (w : BitWriter) (s : Lz.Sequence) : BitWriter :=
  (splitLength s.length).foldl (putCopy s.offset)
    (putLiterals src s.literalStart (s.literalStart + s.literalLength) w)

/-- The stream of a source: one last block with the fixed code. -/
def deflate (src : Bytes) : Bytes :=
  let plan := Lz.plan src window
  let w := (({} : BitWriter).put 1 1).put 1 2
  let w := plan.sequences.foldl (putSequence src) w
  let w := putLiterals src plan.tailStart src.size w
  (putWord fixedLengthWords w endOfBlock).toBytes

end Deflate
end FramePress
