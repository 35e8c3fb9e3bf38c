import FramePress.Bytes

/-! # Blocks

A block is a buffer with an identity.  It keeps its identity when it is resized.

* `AllocationError`, `Grants`: buffers are asked for by size, and any request may be refused.
* `Block.create`, `Block.resize`, `Block.write`: what can be done with a block.  A refused request
  leaves no trace, for a new buffer is allocated before the old one is given up.
-/

namespace FramePress
set_option autoImplicit false

structure AllocationError where
  requested : Nat
  deriving DecidableEq, Repr

def AllocationError.message (e : AllocationError) : String :=
  s!"failed to allocate {e.requested} bytes"

/-- Which sizes the allocator grants. -/
abbrev Grants := Nat → Bool

def zeroed (grants : Grants) (size : Nat) : Except AllocationError Bytes :=
  if grants size then .ok (Array.replicate size 0) else .error ⟨size⟩

structure Block where
  index : Nat
  bytes : Bytes
  deriving DecidableEq, Repr

namespace Block

def size (b : Block) : Nat := b.bytes.size

def create (grants : Grants) (index capacity : Nat) : Except AllocationError Block :=
  (zeroed grants capacity).map fun bytes => ⟨index, bytes⟩

/-- The block with another capacity; unless it has that capacity already, its content becomes zero. -/
def resize (grants : Grants) (b : Block) (capacity : Nat) : Except AllocationError Block :=
  if b.size = capacity then .ok b
  else (zeroed grants capacity).map fun bytes => { b with bytes := bytes }

/-- The block with `src` at its front; a block that is too small grows to the size of `src`. -/
def write (grants : Grants) (b : Block) (src : Bytes) : Except AllocationError Block :=
  (if b.size < src.size then b.resize grants src.size else .ok b).map fun b =>
    { b with bytes := b.bytes.overlay src }

end Block
end FramePress
