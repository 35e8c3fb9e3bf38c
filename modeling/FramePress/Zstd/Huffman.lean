import FramePress.Zstd.StateTable

/-! # Huffman-coded literals

A Huffman code gives each byte a weight: a weight one higher means a word one bit shorter.  The last
weight is not written down, for it follows from the others.

* `readWeights`: the weights as a block describes them, two to a byte or through a state table.
* `HuffmanTable.ofWeights?`: for every possible row of bits the byte whose word it begins with.
* `readStream`, `readStreams`: literals in one stream, or in four.
-/

namespace FramePress
set_option autoImplicit false

namespace Zstd

/-- For each row of `log` bits a byte and the length of its word. -/
structure HuffmanTable where
  log : Nat
  words : Array (UInt8 × Nat)
  deriving Repr

/-! ## Weights -/

def maxHuffmanLog : Nat := 12

/-- `n` weights of four bits each, the first one in the high half of the first byte. -/
def nibbleWeights (b : Bytes) (n : Nat) : Array Nat :=
  (Array.range n).map fun i =>
    let x := (b.byteAt (1 + i / 2)).toNat
    if i % 2 = 0 then x / 16 else x % 16

/-- Weights from two walks through one table that take turns.  When the bits run out, the last word is
the other walk's. -/
def walkWeights (t : StateTable) :
    (fuel here there : Nat) → BackwardBits → (out : Array Nat) → Option (Array Nat)
  | 0, _, _, _, _ => none
  | fuel + 1, here, there, s, out =>
    if 253 < out.size then none
    else
      let out := out.push (t.state here).symbol
      match t.next? here s with
      | none => some (out.push (t.state there).symbol)
      | some (here, s) => walkWeights t fuel there here s out

/-- Weights behind the description of a state table. -/
def codedWeights (b : Bytes) : Option (Array Nat) := do
  let (table, used) ← readTable b 255 6
  let s ← BackwardBits.ofBytes? (b.extract used b.size)
  let (first, s) ← table.start? s
  let (second, s) ← table.start? s
  walkWeights table 256 first second s #[]

/-- The written weights, and the number of bytes they take. -/
def readWeights (b : Bytes) : Option (Array Nat × Nat) := do
  let first ← b[0]?
  let kind := first.toNat
  if 128 ≤ kind then
    let count := kind - 127
    let used := 1 + (count + 1) / 2
    guard (used ≤ b.size)
    return (nibbleWeights b count, used)
  else
    let body ← b.slice? 1 kind
    let weights ← codedWeights body
    return (weights, 1 + kind)

/-! ## Tables -/

/-- How many rows of bits begin with a word of a weight. -/
def share (weight : Nat) : Nat := if weight = 0 then 0 else 1 <<< (weight - 1)

/-- The words of a weight, for the symbols in order. -/
def wordsOfWeight (log : Nat) (weights : Array Nat) (weight : Nat) : List (UInt8 × Nat) :=
  (List.range weights.size).flatMap fun s =>
    if weights.getD s 0 = weight then
      List.replicate (share weight) (s.toUInt8, log + 1 - weight)
    else []

namespace HuffmanTable

/-- The table for the written weights: the missing weight fills the shares up to a power of two. -/
def ofWeights? (written : Array Nat) : Option HuffmanTable := do
  let total := written.foldl (fun n weight => n + share weight) 0
  guard (0 < total ∧ written.all (· ≤ maxHuffmanLog))
  let log := total.log2 + 1
  let rest := (1 <<< log) - total
  guard (log ≤ maxHuffmanLog ∧ rest = 1 <<< rest.log2)
  let weights := written.push (rest.log2 + 1)
  let longest := weights.count 1
  guard (2 ≤ longest ∧ longest % 2 = 0)
  return ⟨log, ((List.range log).flatMap fun w => wordsOfWeight log weights (w + 1)).toArray⟩

def next? (t : HuffmanTable) (s : BackwardBits) : Option (UInt8 × BackwardBits) :=
  let (byte, length) := t.words.getD (s.peek t.log) (0, 0)
  (s.read? length).map fun (_, s) => (byte, s)

end HuffmanTable

/-- The table at the front of a byte string, and the number of bytes it takes. -/
def readHuffmanTable (b : Bytes) : Option (HuffmanTable × Nat) := do
  let (weights, used) ← readWeights b
  let table ← HuffmanTable.ofWeights? weights
  return (table, used)

/-! ## Streams -/

def readBytes (t : HuffmanTable) : (n : Nat) → BackwardBits → (out : Bytes) → Option (Bytes × BackwardBits)
  | 0, s, out => some (out, s)
  | n + 1, s, out =>
    match t.next? s with
    | none => none
    | some (byte, s) => readBytes t n s (out.push byte)

/-- A stream of `n` bytes that takes up all of `b`. -/
def readStream (t : HuffmanTable) (b : Bytes) (n : Nat) : Option Bytes := do
  let s ← BackwardBits.ofBytes? b
  let (out, s) ← readBytes t n s #[]
  guard s.isDone
  return out

/-- Four streams behind the sizes of the first three; each but the last holds a quarter, rounded up. -/
def readStreams (t : HuffmanTable) (b : Bytes) (n : Nat) : Option Bytes := do
  guard (10 ≤ b.size ∧ 6 ≤ n)
  let size1 := b.u16At 0
  let size2 := b.u16At 2
  let size3 := b.u16At 4
  let part := (n + 3) / 4
  guard (6 + size1 + size2 + size3 ≤ b.size ∧ 3 * part ≤ n)
  let stop1 := 6 + size1
  let stop2 := stop1 + size2
  let stop3 := stop2 + size3
  let out1 ← readStream t (b.extract 6 stop1) part
  let out2 ← readStream t (b.extract stop1 stop2) part
  let out3 ← readStream t (b.extract stop2 stop3) part
  let out4 ← readStream t (b.extract stop3 b.size) (n - 3 * part)
  return out1 ++ out2 ++ out3 ++ out4

end Zstd
end FramePress
