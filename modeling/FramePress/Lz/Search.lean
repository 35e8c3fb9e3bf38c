import FramePress.Lz.Plan

/-! # Finding copies

A table with one position for each hash of the next bytes proposes where a copy could begin.  The
longer no copy is found, the larger the steps of the search become.  A copy is at least four bytes
long, does not begin in the last twelve bytes and does not reach into the last six of the block.

* `hashAt`: the slot of a position; large blocks hash five bytes, small ones four.
* `search`: the next position with a usable candidate.
* `plan`: the copy plan of a block, with copies from at most `window` bytes back.
-/

namespace FramePress
set_option autoImplicit false

namespace Lz

/-- The slots of the table of candidates. -/
def slotCount : Nat := 4096

/-- Blocks below this size have no copies. -/
def minSource : Nat := 13

/-- The bytes at the end of a block where no copy begins. -/
def startMargin : Nat := 12

/-- The bytes at the end of a block that no copy reaches. -/
def endMargin : Nat := 6

def minCopy : Nat := 4

def hashAt (src : Bytes) (i : Nat) : Nat :=
  if src.size < 65535 then
    ((src.u32At i * 2654435761) >>> 20).toNat
  else
    (((src.u64At i <<< 24) * 889523592379) >>> 52).toNat

/-- How many of the `length` bytes before position `start + length` remain literals when a copy whose
source ends at `candidate` is extended backwards over equal bytes. -/
def trimLiterals (src : Bytes) (start : Nat) : (length candidate : Nat) → Nat
  | 0, _ => 0
  | length, 0 => length
  | length + 1, candidate + 1 =>
    if src.byteAt (start + length) = src.byteAt candidate then trimLiterals src start length candidate
    else length + 1

/-- `count` and the number of equal bytes from two positions on, the first below `limit`. -/
def commonLength (src : Bytes) (limit here there count : Nat) : Nat :=
  if here < limit then
    if src.byteAt here = src.byteAt there then
      commonLength src limit (here + 1) (there + 1) (count + 1)
    else count
  else count
termination_by limit - here

theorem le_commonLength (src : Bytes) (limit here there count : Nat) :
    count ≤ commonLength src limit here there count := by
  fun_induction commonLength src limit here there count with
  | case1 here there count _ _ ih => omega
  | case2 => omega
  | case3 => omega

/-- A position to copy to, as a distance from where the search began, with its candidate. -/
structure Hit where
  ahead : Nat
  candidate : Nat

/-- The next position from `start + ahead` on with a candidate at most `window` back and with the same
four bytes, and the table after the search; `misses` positions have been tried before. -/
def search (src : Bytes) (window start : Nat) (table : Array Nat) (ahead misses : Nat) :
    Option Hit × Array Nat :=
  let here := start + ahead
  if here + startMargin ≤ src.size then
    let slot := hashAt src here
    let candidate := table.getD slot 0
    let table := table.setIfInBounds slot here
    if here - candidate ≤ window ∧ src.u32At candidate = src.u32At here then
      (some ⟨ahead, candidate⟩, table)
    else
      search src window start table (ahead + (1 + misses / 32)) (misses + 1)
  else (none, table)
termination_by src.size - (start + ahead)
decreasing_by simp only [startMargin] at *; omega

/-- The sequence of a copy found `found` bytes after the literals begin: the copy is extended to both
sides as far as the bytes agree. -/
def sequenceAt (src : Bytes) (literalStart found candidate : Nat) : Sequence :=
  let literals := trimLiterals src literalStart found candidate
  let offset := literalStart + found - candidate
  let next := literalStart + literals + minCopy
  ⟨literalStart, literals, offset,
    commonLength src (src.size - endMargin) next (next - offset) minCopy⟩

theorem minCopy_le_length (src : Bytes) (literalStart found candidate : Nat) :
    minCopy ≤ (sequenceAt src literalStart found candidate).length :=
  le_commonLength ..

/-- The rest of a plan: literals begin at `literalStart`, the search `gap` bytes later. -/
def planFrom (src : Bytes) (window literalStart gap : Nat) (table : Array Nat)
    (done : Array Sequence) : Plan :=
  if literalStart < src.size then
    match search src window (literalStart + gap) table 0 0 with
    | (none, _) => ⟨done, literalStart⟩
    | (some hit, table) =>
      let s := sequenceAt src literalStart (gap + hit.ahead) hit.candidate
      let next := literalStart + s.literalLength + s.length
      let table := table.setIfInBounds (hashAt src (next - 2)) (next - 2)
      planFrom src window next 0 table (done.push s)
  else ⟨done, literalStart⟩
termination_by src.size - literalStart
decreasing_by
  have := minCopy_le_length src literalStart (gap + hit.ahead) hit.candidate
  simp only [minCopy] at this
  omega

def plan (src : Bytes) (window : Nat) : Plan :=
  if src.size < minSource then ⟨#[], 0⟩
  else planFrom src window 0 1 ((Array.replicate slotCount 0).setIfInBounds (hashAt src 0) 0) #[]

end Lz
end FramePress
