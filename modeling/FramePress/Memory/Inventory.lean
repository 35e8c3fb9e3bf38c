import FramePress.Dictionary
import FramePress.Memory.Frame

/-! # Inventories

An inventory is all the memory a process works with: pools under names, and single blocks and frames in
slots.  Blocks move between slots, frames and free lists, and can be forgotten.

* `Inventory`: the state.  A pool whose name is given to a new pool lives on for the frames that use it.
* `Inventory.Op` and `Inventory.step`: what can be done, and its effect under an allocator.
* `Inventory.run`: several operations, each with its own allocator.
-/

namespace FramePress
set_option autoImplicit false

structure Inventory where
  heap : Heap := {}
  names : Dictionary PoolId := []
  /-- Blocks that neither a frame nor a free list holds. -/
  blocks : Dictionary Block := []
  frames : Dictionary Frame := []

namespace Inventory

inductive Op
  | newPool (pool : String)
  | newBlock (slot : String) (capacity : Nat)
  | acquire (pool slot : String) (capacity : Nat)
  | write (slot : String) (src : Bytes)
  | read (slot : String)
  | release (pool slot : String)
  | forget (slot : String)
  /-- A buffer that is no block and does not stay. -/
  | scratch (capacity : Nat)
  | newFrame (pool slot dataset : String) (labels : Labels)
  | store (slot : String) (src : Bytes)
  | relabel (slot : String) (labels : Labels)
  | inspect (slot : String)
  | dropFrame (slot : String)

inductive Result
  | done
  | block (b : Block)
  | content (b : Block)
  | buffer (bytes : Bytes)
  | frame (f : Frame)
  | missing
  | failed (e : AllocationError)

/-! ## Effects -/

/-- A block put into a slot; one that was there is forgotten. -/
def putBlock (v : Inventory) (slot : String) : Except AllocationError Block × Heap → Result × Inventory
  | (.error e, heap) => (.failed e, { v with heap := heap })
  | (.ok b, heap) => (.block b, { v with heap := heap, blocks := v.blocks.insert slot b })

def putFrame (v : Inventory) (slot : String) (f : Frame) : Result × Inventory :=
  (.frame f, { v with frames := v.frames.insert slot f })

/-- The heap after the frame in a slot, if any, has been dropped. -/
def heapWithout (v : Inventory) (slot : String) : Heap :=
  match v.frames.find? slot with
  | none => v.heap
  | some f => f.drop v.heap

def acquire (grants : Grants) (v : Inventory) (pool slot : String) (capacity : Nat) :
    Result × Inventory :=
  match v.names.find? pool with
  | none => (.missing, v)
  | some id => v.putBlock slot (v.heap.acquire grants id capacity)

def write (grants : Grants) (v : Inventory) (slot : String) (src : Bytes) : Result × Inventory :=
  match v.blocks.find? slot with
  | none => (.missing, v)
  | some b => v.putBlock slot (b.write grants src, v.heap)

def release (v : Inventory) (pool slot : String) : Result × Inventory :=
  match v.names.find? pool, v.blocks.find? slot with
  | some id, some b =>
    (.done, { v with heap := v.heap.release id b, blocks := v.blocks.erase slot })
  | _, _ => (.missing, v)

/-- A frame put into a slot; the one that was there is dropped. -/
def newFrame (v : Inventory) (pool slot dataset : String) (labels : Labels) : Result × Inventory :=
  match v.names.find? pool with
  | none => (.missing, v)
  | some id =>
    let f := Frame.relabel { dataset := dataset, pool := id } labels
    putFrame { v with heap := v.heapWithout slot } slot f

def store (grants : Grants) (v : Inventory) (slot : String) (src : Bytes) : Result × Inventory :=
  match v.frames.find? slot with
  | none => (.missing, v)
  | some f =>
    match f.store grants v.heap src with
    | (.error e, f, heap) => (.failed e, (putFrame { v with heap := heap } slot f).2)
    | (.ok _, f, heap) => putFrame { v with heap := heap } slot f

def dropFrame (v : Inventory) (slot : String) : Result × Inventory :=
  if (v.frames.find? slot).isNone then (.missing, v)
  else (.done, { v with heap := v.heapWithout slot, frames := v.frames.erase slot })

/-! ## Steps -/

def step (grants : Grants) (v : Inventory) : Op → Result × Inventory
  | .newPool pool =>
    let (id, heap) := v.heap.addPool pool
    (.done, { v with heap := heap, names := v.names.insert pool id })
  | .newBlock slot capacity => v.putBlock slot (v.heap.create grants capacity)
  | .acquire pool slot capacity => v.acquire grants pool slot capacity
  | .write slot src => v.write grants slot src
  | .read slot =>
    match v.blocks.find? slot with
    | none => (.missing, v)
    | some b => (.content b, v)
  | .release pool slot => v.release pool slot
  | .forget slot =>
    if (v.blocks.find? slot).isNone then (.missing, v)
    else (.done, { v with blocks := v.blocks.erase slot })
  | .scratch capacity =>
    match zeroed grants capacity with
    | .error e => (.failed e, v)
    | .ok bytes => (.buffer bytes, v)
  | .newFrame pool slot dataset labels => v.newFrame pool slot dataset labels
  | .store slot src => v.store grants slot src
  | .relabel slot labels =>
    match v.frames.find? slot with
    | none => (.missing, v)
    | some f => v.putFrame slot (f.relabel labels)
  | .inspect slot =>
    match v.frames.find? slot with
    | none => (.missing, v)
    | some f => (.frame f, v)
  | .dropFrame slot => v.dropFrame slot

/-- The inventory after some operations, each under its own allocator. -/
def run (v : Inventory) (ops : List (Grants × Op)) : Inventory :=
  ops.foldl (fun v op => (v.step op.1 op.2).2) v

end Inventory
end FramePress
