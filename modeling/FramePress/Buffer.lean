import FramePress.Bytes

/-! # Buffers that are written in place

A write is checked: there is no buffer after a write to a place that the buffer does not have.

* `update?`: one byte, made from the byte that was there.
* `writeEach?`: one byte after the other, in the order of a list.
* `place?`: a range of bytes.
* `copyRest?`: all bytes from some place on, copied from a buffer of the same size.
-/

namespace FramePress.Bytes
set_option autoImplicit false

def update? (dest : Bytes) (i : Nat) (f : UInt8 → UInt8) : Option Bytes :=
  if i < dest.size then some (dest.modify i f) else none

/-- For each cell in turn, its value is combined with the byte at its place. -/
def writeEach? {ι : Type} (dest : Bytes) (cells : List ι) (place : ι → Nat) (value : ι → Option UInt8)
    (combine : UInt8 → UInt8 → UInt8) : Option Bytes :=
  cells.foldlM (fun dest c => do
    let x ← value c
    dest.update? (place c) fun old => combine old x) dest

def place? (dest : Bytes) (start : Nat) (part : Bytes) : Option Bytes :=
  if start + part.size ≤ dest.size then
    some (dest.extract 0 start ++ part ++ dest.extract (start + part.size) dest.size)
  else none

def copyRest? (dest : Bytes) (start : Nat) (src : Bytes) : Option Bytes :=
  if start ≤ src.size ∧ src.size = dest.size then
    some (dest.extract 0 start ++ src.extract start src.size)
  else none

end FramePress.Bytes
