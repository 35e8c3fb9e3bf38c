import FramePress.Memory.Pool

/-! # Heaps

* `Heap`: all pools of a process, and the index of the next new block, which is the same for all.  Like the
  counters of pools it is a number, and does not wrap around.
* `Heap.acquire`, `Heap.release`, `Heap.create`: the operations of pools and blocks on a heap.
-/

namespace FramePress
set_option autoImplicit false

/-- The place of a pool in its heap. -/
abbrev PoolId := Nat

structure Heap where
  pools : List Pool := []
  next : Nat := 0
  deriving DecidableEq, Repr

namespace Heap

def pool (h : Heap) (id : PoolId) : Pool := h.pools.getD id {}

def addPool (h : Heap) (name : String) : PoolId × Heap :=
  (h.pools.length, { h with pools := h.pools ++ [{ name := name }] })

def acquire (grants : Grants) (h : Heap) (id : PoolId) (capacity : Nat) :
    Except AllocationError Block × Heap :=
  let (result, p, next) := (h.pool id).acquire grants h.next capacity
  (result, ⟨h.pools.set id p, next⟩)

def release (h : Heap) (id : PoolId) (b : Block) : Heap :=
  { h with pools := h.pools.set id ((h.pool id).release b) }

def create (grants : Grants) (h : Heap) (capacity : Nat) : Except AllocationError Block × Heap :=
  match Block.create grants h.next capacity with
  | .error e => (.error e, h)
  | .ok b => (.ok b, { h with next := h.next + 1 })

end Heap
end FramePress
