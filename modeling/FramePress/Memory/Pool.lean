import FramePress.Memory.Block

/-! # Pools

A pool hands out blocks and takes them back.  It prefers a free block of the right size, then any free
block, which it resizes, and only creates a block when none is free.

* `Pool`: a name, the free blocks in order, and four counters.  Counters are numbers: no process lives long
  enough for the 64-bit words that hold them to wrap around.
* `Pool.acquire`: a block of a given size.  The pool after a refused request is computed like any other.
* `Pool.release`: any block may be given to any pool.
-/

namespace FramePress
set_option autoImplicit false

structure Pool where
  name : String := ""
  free : List Block := []
  /-- Blocks created by this pool. -/
  total : Nat := 0
  /-- Requests served with a free block. -/
  hits : Nat := 0
  /-- Requests served with a new block. -/
  misses : Nat := 0
  /-- Free blocks that had to be resized. -/
  resizes : Nat := 0
  deriving DecidableEq, Repr

namespace Pool

/-! ## The free list -/

/-- The place of the block to use: the first one of the right size, or else the last one. -/
def choose? (free : List Block) (capacity : Nat) : Option Nat :=
  match free.findIdx? fun b => b.size = capacity with
  | some i => some i
  | none => if free.isEmpty then none else some (free.length - 1)

/-- The block at a place, and the free list without it: the last block takes its place. -/
def takeOut? (free : List Block) (i : Nat) : Option (Block × List Block) := do
  let b ← free[i]?
  let last ← free.getLast?
  return (b, (free.set i last).dropLast)

/-! ## Operations -/

/-- A block of the given capacity.  `next` is the index of the next new block; the result is the block
or an error, the pool, and the next index after that. -/
def acquire (grants : Grants) (p : Pool) (next capacity : Nat) :
    Except AllocationError Block × Pool × Nat :=
  match (choose? p.free capacity).bind (takeOut? p.free) with
  | some (b, rest) =>
    if b.size = capacity then (.ok b, { p with free := rest, hits := p.hits + 1 }, next)
    else
      match b.resize grants capacity with
      | .error e => (.error e, { p with free := rest ++ [b] }, next)
      | .ok b =>
        (.ok b, { p with free := rest, hits := p.hits + 1, resizes := p.resizes + 1 }, next)
  | none =>
    match Block.create grants next capacity with
    | .error e => (.error e, p, next)
    | .ok b => (.ok b, { p with misses := p.misses + 1, total := p.total + 1 }, next + 1)

def release (p : Pool) (b : Block) : Pool := { p with free := p.free ++ [b] }

/-! ## Figures -/

def freeBytes (p : Pool) : Nat := p.free.foldr (fun b n => b.size + n) 0

end Pool

/-- The share of hits in percent; zero before the first request. -/
def hitRate (hits misses : UInt64) : Float :=
  let total := hits.toFloat + misses.toFloat
  if total == 0 then 0 else hits.toFloat / total * 100

end FramePress
