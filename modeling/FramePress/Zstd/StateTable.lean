import FramePress.Zstd.BackwardBits

/-! # State tables

Symbols are coded by a walk through the states of a table: a state stands for a symbol, and the next
bits choose its successor.  A table is determined by how often each symbol occurs in it.

* `StateTable`: for each state its symbol and where the next bits lead.
* `StateTable.ofCounts`: the table with the given occurrences.
* `readCounts`: the occurrences as a block describes them.
-/

namespace FramePress
set_option autoImplicit false

namespace Zstd

structure State where
  symbol : Nat
  /-- The number of bits that choose the successor. -/
  bits : Nat
  /-- The successor if those bits are zero. -/
  base : Nat
  deriving Inhabited, Repr

structure StateTable where
  log : Nat
  states : Array State
  deriving Repr

namespace StateTable

/-- A table with one state, for a symbol that needs no bits. -/
def single (symbol : Nat) : StateTable := ⟨0, #[⟨symbol, 0, 0⟩]⟩

def state (t : StateTable) (i : Nat) : State := t.states.getD i ⟨0, 0, 0⟩

def start? (t : StateTable) (s : BackwardBits) : Option (Nat × BackwardBits) := s.read? t.log

def next? (t : StateTable) (i : Nat) (s : BackwardBits) : Option (Nat × BackwardBits) :=
  (s.read? (t.state i).bits).map fun (n, s) => ((t.state i).base + n, s)

/-! ## Building -/

/-- Symbols that occur less than once: they get one state each, from the last state downwards. -/
def rareSymbols (counts : Array Int) : List Nat :=
  (List.range counts.size).filter fun s => counts.getD s 0 = -1

/-- The symbols that occur in the table, each as often as it occurs. -/
def commonSymbols (counts : Array Int) : List Nat :=
  (List.range counts.size).flatMap fun s => List.replicate (counts.getD s 0).toNat s

/-- The order in which states are given to the symbols that occur. -/
def spread (log rare : Nat) : List Nat :=
  let size := 1 <<< log
  ((List.range size).map fun i => i * (size / 2 + size / 8 + 3) % size).filter (· < size - rare)

def symbolsOf (log : Nat) (counts : Array Int) : Array Nat :=
  let size := 1 <<< log
  let rare := rareSymbols counts
  let table := rare.zipIdx.foldl (fun t (s, k) => t.setIfInBounds (size - 1 - k) s)
    (Array.replicate size 0)
  ((spread log rare.length).zip (commonSymbols counts)).foldl (fun t (i, s) => t.setIfInBounds i s) table

/-- The states of the symbols in the order of the table; `next` holds the number of each symbol's next
state.  Those of one symbol are numbered from its count on, and the number fixes how many bits follow. -/
def numbered (log : Nat) (symbols : Array Nat) (next : Array Nat) : Array State :=
  (symbols.foldl (fun (acc : Array State × Array Nat) s =>
    let n := acc.2.getD s 1
    let bits := log - n.log2
    (acc.1.push ⟨s, bits, (n <<< bits) - (1 <<< log)⟩, acc.2.setIfInBounds s (n + 1))) (#[], next)).1

/-- The table in which each symbol occurs as often as given; -1 stands for less than once. -/
def ofCounts (log : Nat) (counts : Array Int) : StateTable :=
  ⟨log, numbered log (symbolsOf log counts) (counts.map Int.natAbs)⟩

end StateTable

/-! ## Reading the occurrences -/

/-- The length of a run of zero counts: groups of two bits, each group of three is followed by another. -/
def readZeros (b : Bytes) (pos count : Nat) : Nat × Nat :=
  if pos < b.bitCount then
    let group := b.bitsAt pos 2
    if group = 3 then readZeros b (pos + 2) (count + 3) else (count + group, pos + 2)
  else (count, pos + 2)
termination_by b.bitCount - pos

/-- One count when `remaining - 1` states are still to be given: small values save a bit. -/
def readCount (b : Bytes) (remaining pos : Nat) : Int × Nat :=
  let bits := remaining.log2
  let half := 1 <<< bits
  let saving := 2 * half - 1 - remaining
  let value := b.bitsAt pos (bits + 1)
  if value % half < saving then ((value % half : Nat) - 1, pos + bits)
  else if value < half then ((value : Nat) - 1, pos + bits + 1)
  else ((value - saving : Nat) - 1, pos + bits + 1)

/-- The counts of the symbols that are left; each step gives one symbol at least. -/
def readCountsFrom (b : Bytes) (maxSymbol : Nat) :
    (fuel remaining pos : Nat) → (counts : Array Int) → Option (Array Int × Nat)
  | 0, _, _, _ => none
  | fuel + 1, remaining, pos, counts =>
    if remaining ≤ 1 then some (counts, pos)
    else if maxSymbol < counts.size then none
    else
      let (count, pos) := readCount b remaining pos
      let (zeros, pos) := if count = 0 then readZeros b pos 0 else (0, pos)
      readCountsFrom b maxSymbol fuel (remaining - count.natAbs) pos
        (counts.push count ++ Array.replicate zeros 0)

/-- The table described at the front of a byte string, for symbols up to `maxSymbol` and at most
`2 ^ maxLog` states, and the number of bytes the description takes. -/
def readTable (b : Bytes) (maxSymbol maxLog : Nat) : Option (StateTable × Nat) := do
  let log := b.bitsAt 0 4 + 5
  guard (0 < b.size ∧ log ≤ maxLog)
  let (counts, pos) ← readCountsFrom b maxSymbol (maxSymbol + 2) ((1 <<< log) + 1) 4 #[]
  let used := (pos + 7) / 8
  guard (used ≤ b.size ∧ counts.size ≤ maxSymbol + 1)
  return (StateTable.ofCounts log counts, used)

end Zstd
end FramePress
