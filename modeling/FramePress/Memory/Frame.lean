import FramePress.Memory.DataType
import FramePress.Memory.Heap

/-! # Frames

A frame is a payload with labels.  The payload lives in a block that the frame takes from its pool with
the first payload and gives back when the frame is dropped; the block may be larger than the payload.

* `Frame`, `Frame.data`: the frame and its payload.
* `Labels`: some or all of the labels, for changing them.
* `Frame.store`: a new payload in place of the old one; on failure frame and heap are as before.
* `Frame.drop`: the heap after the frame is gone.
-/

namespace FramePress
set_option autoImplicit false

structure Frame where
  dataset : String
  acquisition : String := ""
  number : Nat := 0
  dataType : Option DataType := none
  dimensions : List Nat := []
  block : Option Block := none
  dataSize : Nat := 0
  pool : PoolId
  deriving DecidableEq, Repr

structure Labels where
  acquisition : Option String := none
  number : Option Nat := none
  dataType : Option (Option DataType) := none
  dimensions : Option (List Nat) := none

namespace Frame

def data (f : Frame) : Bytes :=
  match f.block with
  | none => #[]
  | some b => b.bytes.extract 0 f.dataSize

def relabel (f : Frame) (l : Labels) : Frame :=
  { f with
    acquisition := l.acquisition.getD f.acquisition
    number := l.number.getD f.number
    dataType := l.dataType.getD f.dataType
    dimensions := l.dimensions.getD f.dimensions }

/-- A block for a payload of the given size: the frame's own, or one from its pool. -/
def obtain (grants : Grants) (f : Frame) (h : Heap) (size : Nat) :
    Except AllocationError Block × Heap :=
  match f.block with
  | some b => (.ok b, h)
  | none => h.acquire grants f.pool size

def store (grants : Grants) (f : Frame) (h : Heap) (src : Bytes) :
    Except AllocationError Unit × Frame × Heap :=
  match f.obtain grants h src.size with
  | (.error e, h) => (.error e, f, h)
  | (.ok b, h) =>
    match b.write grants src with
    | .error e => (.error e, f, h)
    | .ok b => (.ok (), { f with block := some b, dataSize := src.size }, h)

def drop (f : Frame) (h : Heap) : Heap :=
  match f.block with
  | none => h
  | some b => h.release f.pool b

end Frame
end FramePress
