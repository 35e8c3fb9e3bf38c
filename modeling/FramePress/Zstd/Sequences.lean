import FramePress.Lz.Plan
import FramePress.Lz.Range
import FramePress.Zstd.StateTable

/-! # The sequences of a block

After its literals a compressed block has sequences: take so many literals, then copy so many bytes from
so far back.  Literal lengths, copy lengths and offsets are coded with one state table each; offsets may
refer to the last three.

* `Alphabet`: what the symbols of one of the three codes mean.
* `Tables`: the three tables in force.
* `Recent`: the last three offsets, and how an offset value selects or replaces them.
* `readSequences`: the sequences of a block.
* `runSequences`: what they add to the output.
-/

namespace FramePress
set_option autoImplicit false

namespace Zstd

/-! ## The three codes -/

/-- The symbols of a code: the largest, the most bits a state may have, the table used by default. -/
structure Alphabet where
  maxSymbol : Nat
  maxLog : Nat
  standard : StateTable

def literalLengths : Alphabet :=
  ⟨35, 9, .ofCounts 6 #[4, 3, 2, 2, 2, 2, 2, 2, 2, 2, 2, 2, 2, 1, 1, 1, 2, 2, 2, 2, 2, 2, 2, 2, 2, 3, 2, 1,
    1, 1, 1, 1, -1, -1, -1, -1]⟩

def copyLengths : Alphabet :=
  ⟨52, 9, .ofCounts 6 (#[1, 4, 3, 2, 2, 2, 2, 2, 2] ++ Array.replicate 37 1 ++ Array.replicate 7 (-1))⟩

def offsets : Alphabet :=
  ⟨31, 8, .ofCounts 5 #[1, 1, 1, 1, 1, 1, 2, 2, 2, 1, 1, 1, 1, 1, 1, 1, 1, 1, 1, 1, 1, 1, 1, 1, -1, -1, -1,
    -1, -1]⟩

/-- Literal lengths from 0 on. -/
def literalRanges : Array Lz.Range :=
  (Lz.rangesFrom 0 (List.replicate 16 0 ++ [1, 1, 1, 1, 2, 2, 3, 3, 4, 6, 7, 8, 9, 10, 11, 12, 13, 14, 15,
    16])).toArray

/-- Copy lengths from 3 on. -/
def copyRanges : Array Lz.Range :=
  (Lz.rangesFrom 3 (List.replicate 32 0 ++ [1, 1, 1, 1, 2, 2, 3, 3, 4, 4, 5, 7, 8, 9, 10, 11, 12, 13, 14, 15,
    16])).toArray

/-- The tables in force, once a block has had sequences. -/
structure Tables where
  literalLengths : StateTable
  offsets : StateTable
  copyLengths : StateTable

/-- The table of one code and the bytes its description takes: the default one, one for a single symbol,
one described here, or the one in force before. -/
def readCodeTable (a : Alphabet) (kind : Nat) (b : Bytes) (known : Option StateTable) :
    Option (StateTable × Nat) :=
  match kind with
  | 0 => some (a.standard, 0)
  | 1 => do
    let symbol ← b[0]?
    guard (symbol.toNat ≤ a.maxSymbol)
    return (.single symbol.toNat, 1)
  | 2 => readTable b a.maxSymbol a.maxLog
  | _ => known.map fun t => (t, 0)

/-! ## Offsets -/

/-- The offsets of the last three copies, the latest first. -/
structure Recent where
  first : Nat
  second : Nat
  third : Nat
  deriving DecidableEq, Repr

def Recent.initial : Recent := ⟨1, 4, 8⟩

/-- The offset that a value stands for, and the recent offsets after it.  Values above three are new
offsets; the others choose a recent one, the next older one after a sequence without literals. -/
def Recent.choose (r : Recent) (value literalLength : Nat) : Nat × Recent :=
  if 3 < value then (value - 3, ⟨value - 3, r.first, r.second⟩)
  else match if literalLength = 0 then value + 1 else value with
    | 1 => (r.first, r)
    | 2 => (r.second, ⟨r.second, r.first, r.third⟩)
    | 3 => (r.third, ⟨r.third, r.first, r.second⟩)
    | _ => (r.first - 1, ⟨r.first - 1, r.first, r.second⟩)

/-! ## Reading -/

/-- One sequence; the offset is zero if the block is corrupt. -/
structure Sequence where
  literalLength : Nat
  offset : Nat
  copyLength : Nat
  deriving DecidableEq, Repr

/-- The number of sequences and the number of bytes that tell it. -/
def readCount? (b : Bytes) : Option (Nat × Nat) := do
  let first ← b[0]?
  if first.toNat < 128 then return (first.toNat, 1)
  else if first.toNat < 255 then
    let second ← b[1]?
    return (256 * (first.toNat - 128) + second.toNat, 2)
  else
    guard (3 ≤ b.size)
    return (b.u16At 1 + 0x7f00, 3)

/-- The three tables of a block, and the number of bytes before the coded sequences. -/
def readTables (b : Bytes) (known : Option Tables) : Option (Tables × Nat) := do
  let kinds ← b[0]?
  guard (kinds.toNat % 4 = 0)
  let kinds := kinds.toNat
  let rest := b.extract 1 b.size
  let (l, n) ← readCodeTable literalLengths (kinds / 64) rest (known.map (·.literalLengths))
  let rest := rest.extract n rest.size
  let (o, m) ← readCodeTable offsets (kinds / 16 % 4) rest (known.map (·.offsets))
  let rest := rest.extract m rest.size
  let (c, k) ← readCodeTable copyLengths (kinds / 4 % 4) rest (known.map (·.copyLengths))
  return (⟨l, o, c⟩, 1 + n + m + k)

def readInRange (range : Lz.Range) (s : BackwardBits) : Option (Nat × BackwardBits) :=
  (s.read? range.extraBits).map fun (n, s) => (range.first + n, s)

structure Walk where
  literalLength : Nat
  offset : Nat
  copyLength : Nat

def Walk.next? (w : Walk) (t : Tables) (s : BackwardBits) : Option (Walk × BackwardBits) := do
  let (l, s) ← t.literalLengths.next? w.literalLength s
  let (c, s) ← t.copyLengths.next? w.copyLength s
  let (o, s) ← t.offsets.next? w.offset s
  return (⟨l, o, c⟩, s)

def readSequence (t : Tables) (w : Walk) (r : Recent) (s : BackwardBits) :
    Option (Sequence × Recent × BackwardBits) := do
  let offsetCode := (t.offsets.state w.offset).symbol
  let (extra, s) ← s.read? offsetCode
  let copyRange ← copyRanges[(t.copyLengths.state w.copyLength).symbol]?
  let (copyLength, s) ← readInRange copyRange s
  let literalRange ← literalRanges[(t.literalLengths.state w.literalLength).symbol]?
  let (literalLength, s) ← readInRange literalRange s
  let (offset, r) := r.choose ((1 <<< offsetCode) + extra) literalLength
  return (⟨literalLength, offset, copyLength⟩, r, s)

/-- `n + 1` sequences; no successor is chosen after the last one, and no bits may be left. -/
def walkSequences (t : Tables) :
    (n : Nat) → Walk → Recent → BackwardBits → (done : Array Sequence) → Option (Array Sequence × Recent)
  | 0, w, r, s, done => do
    let (q, r, s) ← readSequence t w r s
    guard s.isDone
    return (done.push q, r)
  | n + 1, w, r, s, done =>
    match readSequence t w r s with
    | none => none
    | some (q, r, s) =>
      match w.next? t s with
      | none => none
      | some (w, s) => walkSequences t n w r s (done.push q)

/-- What the sequences of a block change for the next ones. -/
structure SequenceState where
  tables : Option Tables
  recent : Recent

/-- The sequences of a block, which take up all of `b`. -/
def readSequences (b : Bytes) (state : SequenceState) : Option (Array Sequence × SequenceState) := do
  let (count, used) ← readCount? b
  match count with
  | 0 =>
    guard (used = b.size)
    return (#[], state)
  | n + 1 =>
    let b := b.extract used b.size
    let (tables, used) ← readTables b state.tables
    let s ← BackwardBits.ofBytes? (b.extract used b.size)
    let (l, s) ← tables.literalLengths.start? s
    let (o, s) ← tables.offsets.start? s
    let (c, s) ← tables.copyLengths.start? s
    let (sequences, recent) ← walkSequences tables n ⟨l, o, c⟩ state.recent s #[]
    return (sequences, ⟨some tables, recent⟩)

/-! ## Running -/

/-- The output after the sequences from index `i` on, and how many literals they have taken.  Copies
do not reach before `frameStart`, and the output does not grow beyond `limit`. -/
def runSequences (literals : Bytes) (frameStart limit : Nat) :
    List Sequence → (taken : Nat) → (out : Bytes) → Option (Bytes × Nat)
  | [], taken, out => some (out, taken)
  | q :: rest, taken, out =>
    if literals.size < taken + q.literalLength then none
    else if limit < out.size + q.literalLength + q.copyLength then none
    else
      let out := out ++ literals.extract taken (taken + q.literalLength)
      if q.offset = 0 ∨ out.size < frameStart + q.offset then none
      else
        runSequences literals frameStart limit rest (taken + q.literalLength)
          (Lz.copyBack out q.offset q.copyLength)

end Zstd
end FramePress
