import FramePress.Zstd.Frame

/-! # Writing zstd frames

* `segments`: a source cut into long runs of one byte and what lies between them.
* `encode`: one frame with a block of repeated bytes for each run and raw blocks for the rest.
-/

namespace FramePress
set_option autoImplicit false

namespace Zstd

/-- Runs below this length are left among the raw bytes. -/
def minRun : Nat := 16

/-- `count` and the number of bytes equal to `x` from position `i` on. -/
def runLength (src : Bytes) (x : UInt8) (i count : Nat) : Nat :=
  if h : i < src.size then
    if src[i] = x then runLength src x (i + 1) (count + 1) else count
  else count
termination_by src.size - i

structure Segment where
  start : Nat
  size : Nat
  isRun : Bool

/-- The segments from position `start` on; up to `i` there has been no long run. -/
def segmentsFrom (src : Bytes) (start i : Nat) (done : Array Segment) : Array Segment :=
  if i < src.size then
    let n := runLength src (src.byteAt i) (i + 1) 0 + 1
    if minRun ≤ n then
      segmentsFrom src (i + n) (i + n) ((done.push ⟨start, i - start, false⟩).push ⟨i, n, true⟩)
    else segmentsFrom src start (i + n) done
  else done.push ⟨start, i - start, false⟩
termination_by src.size - i

/-- The segments of a source, none of them empty or larger than a block. -/
def segments (src : Bytes) : List Segment :=
  (segmentsFrom src 0 0 #[]).toList.flatMap fun s =>
    (List.range ((s.size + maxBlockSize - 1) / maxBlockSize)).map fun k =>
      ⟨s.start + k * maxBlockSize, min maxBlockSize (s.size - k * maxBlockSize), s.isRun⟩

def blockBytes (src : Bytes) (isLast : Bool) (s : Segment) : Bytes :=
  let header := 8 * s.size + (if s.isRun then 2 else 0) + (if isLast then 1 else 0)
  let body := src.extract s.start (s.start + (if s.isRun then 1 else s.size))
  (Bytes.ofUInt32 header.toUInt32).extract 0 3 ++ body

def blocksBytes (src : Bytes) : List Segment → Bytes
  | [] => blockBytes src true ⟨0, 0, false⟩
  | [s] => blockBytes src true s
  | s :: rest => blockBytes src false s ++ blocksBytes src rest

/-- A frame with a four-byte content size that is also its window, and no checksum. -/
def encode (src : Bytes) : Bytes :=
  Bytes.ofUInt32 magic ++ #[0xA0] ++ Bytes.ofUInt32 src.size.toUInt32 ++
    blocksBytes src (segments src)

end Zstd
end FramePress
