import FramePress.Deflate.Code
import FramePress.Deflate.Symbols
import FramePress.Lz.Plan

/-! # Reading deflate streams

A stream is a row of blocks, each stored, or coded with the fixed code, or with a code of its own.
Reading stops as soon as the output has reached a limit, whatever follows.

* `Outcome`: the limit has been reached, or the stream has ended at a position.
* `readCodes`: the codes of a block that brings its own.
* `inflate`: the output of a stream.
-/

namespace FramePress
set_option autoImplicit false

namespace Deflate

inductive Outcome
  /-- The output has as many bytes as were asked for. -/
  | full (out : Bytes)
  /-- The stream, or the block, ends before position `pos`. -/
  | ended (out : Bytes) (pos : Nat)

/-! ## Stored blocks -/

/-- A stored block: the bits up to the next byte are skipped, then come a length, its complement and
the bytes. -/
def readStored (b : Bytes) (limit pos : Nat) (out : Bytes) : Option Outcome := do
  let i := (pos + 7) / 8
  guard (i + 4 ≤ b.size)
  let length := b.u16At i
  guard (length + b.u16At (i + 2) = 65535)
  let i := i + 4
  if limit ≤ out.size + min length (b.size - i) then
    return .full (out ++ b.extract i (i + (limit - out.size)))
  let body ← b.slice? i length
  return .ended (out ++ body) (8 * (i + length))

/-! ## Coded blocks -/

def readInRange (b : Bytes) (range : Lz.Range) (pos : Nat) : Option (Nat × Nat) := do
  let (extra, pos) ← b.readBits pos range.extraBits
  return (range.first + extra, pos)

def readCopy (b : Bytes) (offsets : Code) (symbol pos : Nat) : Option (Nat × Nat × Nat) := do
  let lengthRange ← lengthRanges[symbol - firstLengthSymbol]?
  let (length, pos) ← readInRange b lengthRange pos
  let (offsetSymbol, pos) ← offsets.next? b pos
  let offsetRange ← offsetRanges[offsetSymbol]?
  let (offset, pos) ← readInRange b offsetRange pos
  return (length, offset, pos)

/-- The symbols of a block up to its end.  Each takes at least one bit, so as many units of fuel as
there are bits are enough. -/
def readSymbols (b : Bytes) (lengths offsets : Code) (limit : Nat) :
    (fuel pos : Nat) → (out : Bytes) → Option Outcome
  | 0, _, _ => none
  | fuel + 1, pos, out =>
    if limit ≤ out.size then some (.full out)
    else match lengths.next? b pos with
      | none => none
      | some (symbol, pos) =>
        if symbol < endOfBlock then
          readSymbols b lengths offsets limit fuel pos (out.push symbol.toUInt8)
        else if symbol = endOfBlock then some (.ended out pos)
        else match readCopy b offsets symbol pos with
          | none => none
          | some (length, offset, pos) =>
            if out.size < offset then none
            else
              readSymbols b lengths offsets limit fuel pos
                (Lz.copyBack out offset (min length (limit - out.size)))

/-! ## Codes -/

/-- Code lengths: `total` of them are wanted; symbols 16 to 18 stand for repetitions. -/
def readLengths (b : Bytes) (code : Code) (total : Nat) :
    (fuel pos : Nat) → (lengths : Array Nat) → Option (Array Nat × Nat)
  | 0, _, _ => none
  | fuel + 1, pos, lengths =>
    if lengths.size = total then some (lengths, pos)
    else if total < lengths.size then none
    else match code.next? b pos with
      | none => none
      | some (symbol, pos) =>
        if symbol < 16 then readLengths b code total fuel pos (lengths.push symbol)
        else
          let repeated := if symbol = 16 then lengths.back? else some 0
          let bits := if symbol = 16 then 2 else if symbol = 17 then 3 else 7
          let least := if symbol = 18 then 11 else 3
          match repeated, b.readBits pos bits with
          | some length, some (more, pos) =>
            readLengths b code total fuel pos (lengths ++ Array.replicate (least + more) length)
          | _, _ => none

/-- The lengths of the code for code lengths: three bits each, in their own order. -/
def readLengthCode (b : Bytes) : (order : List Nat) → (pos : Nat) → (lengths : Array Nat) →
    Option (Array Nat × Nat)
  | [], pos, lengths => some (lengths, pos)
  | symbol :: order, pos, lengths =>
    match b.readBits pos 3 with
    | none => none
    | some (n, pos) => readLengthCode b order pos (lengths.setIfInBounds symbol n)

/-- A code may be incomplete only if it has at most one word. -/
def isUsable (c : Code) : Bool := c.isComplete || c.size ≤ 1

/-- The codes for lengths and for offsets at the front of a block, and the position after them. -/
def readCodes (b : Bytes) (pos : Nat) : Option (Code × Code × Nat) := do
  let (lengthCount, pos) ← b.readBits pos 5
  let (offsetCount, pos) ← b.readBits pos 5
  let (orderCount, pos) ← b.readBits pos 4
  let lengthCount := lengthCount + 257
  let offsetCount := offsetCount + 1
  guard (lengthCount ≤ 286 ∧ offsetCount ≤ 30)
  let (lengths, pos) ← readLengthCode b (lengthCodeOrder.take (orderCount + 4)) pos (Array.replicate 19 0)
  let code := Code.ofLengths lengths
  guard code.isComplete
  let total := lengthCount + offsetCount
  let (all, pos) ← readLengths b code total (total + 1) pos #[]
  let lengthCode := Code.ofLengths (all.extract 0 lengthCount)
  let offsetCode := Code.ofLengths (all.extract lengthCount total)
  guard (isUsable lengthCode && isUsable offsetCode)
  return (lengthCode, offsetCode, pos)

/-! ## Streams -/

def readBlock (b : Bytes) (limit kind pos : Nat) (out : Bytes) : Option Outcome :=
  match kind with
  | 0 => readStored b limit pos out
  | 1 => readSymbols b (Code.ofLengths fixedLengths) (Code.ofLengths fixedOffsets) limit
      (b.bitCount + 1) pos out
  | 2 => do
    let (lengths, offsets, pos) ← readCodes b pos
    readSymbols b lengths offsets limit (b.bitCount + 1) pos out
  | _ => none

/-- The blocks from a position on.  Each takes at least three bits, so as many units of fuel as there
are bits are enough. -/
def readBlocks (b : Bytes) (limit : Nat) : (fuel pos : Nat) → (out : Bytes) → Option Outcome
  | 0, _, _ => none
  | fuel + 1, pos, out => do
    let (last, pos) ← b.readBits pos 1
    let (kind, pos) ← b.readBits pos 2
    match ← readBlock b limit kind pos out with
    | .full out => return .full out
    | .ended out pos =>
      if limit ≤ out.size then return .full out
      else if last = 1 then return .ended out pos
      else readBlocks b limit fuel pos out

/-- The output of the stream that begins at bit `pos`, up to `limit` bytes of it. -/
def inflate (b : Bytes) (pos limit : Nat) : Option Outcome := readBlocks b limit (b.bitCount + 1) pos #[]

end Deflate
end FramePress
