import FramePress.Buffer
import FramePress.Shuffle

/-! # The shuffle filters, written into a buffer

The filters as loops over the bytes, or the bits, of the elements.  What the buffer held before is
overwritten.

* `shuffleInto?` and `unshuffleInto?`: a block, written shuffled or unshuffled over a buffer of its size.
* `elementCells`, `planeCells`, `bitCells`: the order in which bytes and bits are written.
* `moveBytes?`, `packPlanes?`, `unpackPlanes?`: the loops.
-/

namespace FramePress
set_option autoImplicit false

namespace Shuffle

/-! ## Byte mode -/

/-- Byte `b` of element `e` is `(e, b)`. -/
def elementCells (elements size : Nat) : List (Nat × Nat) :=
  (List.range elements).flatMap fun e => (List.range size).map fun b => (e, b)

/-- The place of a byte among the elements. -/
def elementPlace (size : Nat) : Nat × Nat → Nat := fun (e, b) => e * size + b

/-- The place of a byte among the groups of bytes of equal significance. -/
def groupPlace (elements : Nat) : Nat × Nat → Nat := fun (e, b) => b * elements + e

/-- The bytes of whole elements of `size` bytes, moved from one place to another, and the bytes behind. -/
def moveBytes? (size : Nat) (origin place : Nat × Nat → Nat) (src dest : Bytes) : Option Bytes := do
  let elements := src.size / size
  let dest ← dest.writeEach? (elementCells elements size) place (fun c => src[origin c]?) fun _ x => x
  dest.copyRest? (elements * size) src

/-! ## Bit mode -/

/-- Bit `i` of a byte, as a byte with bit `j` or none. -/
def moveBit (x : UInt8) (i j : Nat) : UInt8 := ((x >>> i.toUInt8) &&& 1) <<< j.toUInt8

/-- Byte `k` of the plane of bit `i` of byte `b` is `(b, i, k)`. -/
def planeCells (size groups : Nat) : List (Nat × Nat × Nat) :=
  (List.range size).flatMap fun b => (List.range 8).flatMap fun i => (List.range groups).map fun k => (b, i, k)

/-- Bit `i` of byte `b` of element `j` of group `k` is `(b, i, k, j)`. -/
def bitCells (size groups : Nat) : List (Nat × Nat × Nat × Nat) :=
  (planeCells size groups).flatMap fun (b, i, k) => (List.range 8).map fun j => (b, i, k, j)

def planePlace (groups : Nat) : Nat × Nat × Nat → Nat := fun (b, i, k) => (8 * b + i) * groups + k

/-- The place of the byte that a bit belongs to. -/
def bitPlace (size : Nat) : Nat × Nat × Nat × Nat → Nat := fun (b, _, k, j) => (8 * k + j) * size + b

/-- Bit `i` of byte `b` of the eight elements of group `k`, packed into one byte. -/
def packBits? (size : Nat) (src : Bytes) : Nat × Nat × Nat → Option UInt8 := fun (b, i, k) =>
  (List.range 8).foldlM (fun packed j => do
    let x ← src[bitPlace size (b, i, k, j)]?
    return packed ||| moveBit x i j) 0

/-- A bit of the planes, moved to where it belongs in its byte. -/
def planeBit? (groups : Nat) (src : Bytes) : Nat × Nat × Nat × Nat → Option UInt8 := fun (b, i, k, j) =>
  src[planePlace groups (b, i, k)]?.map fun x => moveBit x j i

/-- The first `8 * groups * size` bytes cleared, and written plane by plane. -/
def packPlanes? (size groups : Nat) (src dest : Bytes) : Option Bytes := do
  let dest ← dest.place? 0 (Array.replicate (8 * groups * size) 0)
  let dest ← dest.writeEach? (planeCells size groups) (planePlace groups) (packBits? size src) fun _ x => x
  dest.copyRest? (8 * groups * size) src

/-- The first `8 * groups * size` bytes cleared, and their bits set plane by plane. -/
def unpackPlanes? (size groups : Nat) (src dest : Bytes) : Option Bytes := do
  let dest ← dest.place? 0 (Array.replicate (8 * groups * size) 0)
  let dest ← dest.writeEach? (bitCells size groups) (bitPlace size) (planeBit? groups src) fun old x => old ||| x
  dest.copyRest? (8 * groups * size) src

end Shuffle

/-! ## The filters -/

open Shuffle

def shuffleInto? (mode : ShuffleMode) (typeSize : Nat) (src dest : Bytes) : Option Bytes :=
  match mode with
  | .off => dest.copyRest? 0 src
  | .byte =>
    if typeSize ≤ 1 then dest.copyRest? 0 src
    else moveBytes? typeSize (elementPlace typeSize) (groupPlace (src.size / typeSize)) src dest
  | .bit =>
    let size := max typeSize 1
    packPlanes? size (src.size / size / 8) src dest

def unshuffleInto? (mode : ShuffleMode) (typeSize : Nat) (src dest : Bytes) : Option Bytes :=
  match mode with
  | .off => dest.copyRest? 0 src
  | .byte =>
    if typeSize ≤ 1 then dest.copyRest? 0 src
    else moveBytes? typeSize (groupPlace (src.size / typeSize)) (elementPlace typeSize) src dest
  | .bit =>
    let size := max typeSize 1
    unpackPlanes? size (src.size / size / 8) src dest

end FramePress
