import FramePress.Bits

/-! # Canonical codes

A code gives each symbol a word of up to 15 bits.  It is determined by the lengths of the words:
shorter words come first, among words of one length smaller symbols come first.

* `Code.ofLengths`: how many words there are of each length, and the symbols in the order of the words.
* `Code.weight`: the share of all words of 15 bits that begin with a word of the code.
* `Code.next?`: the symbol at a position of the bits.
* `Code.words`: the word of each symbol, for writing.
-/

namespace FramePress
set_option autoImplicit false

namespace Deflate

def maxWord : Nat := 15

structure Code where
  counts : Array Nat
  symbols : Array Nat
  deriving DecidableEq, Repr

namespace Code

/-- The symbols whose word has `n` bits, in order. -/
def symbolsOf (lengths : Array Nat) (n : Nat) : List Nat :=
  (List.range lengths.size).filter fun s => lengths.getD s 0 = n

/-- The code with a word of the given length for each symbol; length 0 means no word. -/
def ofLengths (lengths : Array Nat) : Code where
  counts := lengths.foldl (fun c n => c.modify n (· + 1)) (Array.replicate (maxWord + 1) 0)
  symbols := ((List.range maxWord).flatMap fun n => symbolsOf lengths (n + 1)).toArray

def size (c : Code) : Nat := c.symbols.size

/-- The number of words of 15 bits that begin with a word of the code; 32768 if the code is complete. -/
def weight (c : Code) : Nat :=
  (List.range maxWord).foldl (fun w n => w + c.counts.getD (n + 1) 0 <<< (maxWord - (n + 1))) 0

def isComplete (c : Code) : Bool := c.weight = 1 <<< maxWord

/-- The symbol whose word is at the position: `word` has been read, `first` is the first word of its
length, and `index` is that word's place among all; up to `left` bits may follow. -/
def scan (c : Code) (b : Bytes) : (left pos length word first index : Nat) → Option (Nat × Nat)
  | 0, _, _, _, _, _ => none
  | left + 1, pos, length, word, first, index =>
    if pos < b.bitCount then
      let word := 2 * word + b.bitsAt pos 1
      let first := 2 * first
      let count := c.counts.getD (length + 1) 0
      if word < first + count then some (c.symbols.getD (index + (word - first)) 0, pos + 1)
      else scan c b left (pos + 1) (length + 1) word (first + count) (index + count)
    else none

/-- The next symbol and the position after its word. -/
def next? (c : Code) (b : Bytes) (pos : Nat) : Option (Nat × Nat) := c.scan b maxWord pos 0 0 0 0

/-- The bits of a word in the opposite order. -/
def reversed (word : Nat) : (bits : Nat) → Nat
  | 0 => 0
  | bits + 1 => (word % 2) <<< bits + reversed (word / 2) bits

/-- The words of the symbols of each length, most significant bit first, from `first` on. -/
def wordsFrom (lengths : Array Nat) : (left length first : Nat) → List (Nat × Nat × Nat)
  | 0, _, _ => []
  | left + 1, length, first =>
    let here := symbolsOf lengths length
    (here.zipIdx.map fun (s, k) => (s, first + k, length)) ++
      wordsFrom lengths left (length + 1) (2 * (first + here.length))

/-- The word of each symbol as it is written, first bit least significant, with its length. -/
def words (lengths : Array Nat) : Array (Nat × Nat) :=
  (wordsFrom lengths maxWord 1 0).foldl
    (fun table (s, word, length) => table.setIfInBounds s (reversed word length, length))
    (Array.replicate lengths.size (0, 0))

end Code
end Deflate
end FramePress
