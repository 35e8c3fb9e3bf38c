import FramePress.Proofs.Bytes.Parts
import FramePress.Proofs.Chunk.Blocks

/-! # Where a packed chunk puts its blocks

A packed chunk is split before a table entry, and before a block with its length.  What stands there is
then read at the size of the part in front of it.

* `position`: the place of a block; `getElem_blockStarts`: the table records it.
* `size_packedBytes`, `size_storedBytes`: the sizes of the two kinds of chunk.
* `storedBlock_packedBytes`: what the reader finds for block `i` is block `i`.
-/

namespace FramePress.Chunk
set_option autoImplicit false

open Bytes

/-! ## The table -/

theorem length_blockStarts (first : Nat) (blocks : List Bytes) :
    (blockStarts first blocks).length = blocks.length := by
  induction blocks generalizing first with
  | nil => rfl
  | cons block rest ih => rw [blockStarts, List.length_cons, ih, List.length_cons]

theorem getElem_blockStarts {first i : Nat} {blocks : List Bytes}
    (h : i < (blockStarts first blocks).length) :
    (blockStarts first blocks)[i] = first + 4 * i + total (blocks.take i) := by
  induction blocks generalizing first i with
  | nil => exact absurd h (Nat.not_lt_zero i)
  | cons block rest ih =>
    cases i with
    | zero => simp [blockStarts]
    | succ i =>
      simp only [blockStarts, List.getElem_cons_succ, List.take_succ_cons, total_cons]
      rw [ih]
      omega

/-- The place of block `i`, its length in front. -/
def position (blocks : List Bytes) (i : Nat) : Nat :=
  headerSize + 4 * blocks.length + 4 * i + total (blocks.take i)

/-- The table entries of a packed chunk. -/
def tableEntries (blocks : List Bytes) : List Bytes :=
  (blockStarts (headerSize + 4 * blocks.length) blocks).map fun start => ofUInt32 start.toUInt32

/-- The blocks of a packed chunk, each behind its length. -/
def framed (blocks : List Bytes) : List Bytes :=
  blocks.map fun block => ofUInt32 block.size.toUInt32 ++ block

theorem length_tableEntries (blocks : List Bytes) : (tableEntries blocks).length = blocks.length := by
  rw [tableEntries, List.length_map, length_blockStarts]

theorem getElem_tableEntries {blocks : List Bytes} {i : Nat} (h : i < (tableEntries blocks).length) :
    (tableEntries blocks)[i] = ofUInt32 (position blocks i).toUInt32 := by
  simp only [tableEntries, List.getElem_map, getElem_blockStarts, position]

/-- All entries of the table take four bytes. -/
theorem total_tableEntries_take (blocks : List Bytes) (i : Nat) (h : i ≤ blocks.length) :
    total ((tableEntries blocks).take i) = 4 * i := by
  have hfour : ∀ b ∈ (tableEntries blocks).take i, b.size = 4 := by
    intro b hb
    obtain ⟨start, -, rfl⟩ := List.mem_map.mp (List.mem_of_mem_take hb)
    exact size_ofUInt32 _
  rw [total_eq_mul hfour, List.length_take, length_tableEntries, Nat.min_eq_left h]

theorem total_tableEntries (blocks : List Bytes) : total (tableEntries blocks) = 4 * blocks.length := by
  have htake := total_tableEntries_take blocks blocks.length (Nat.le_refl _)
  rwa [← length_tableEntries, List.take_length, length_tableEntries] at htake

theorem total_framed (blocks : List Bytes) :
    total (framed blocks) = 4 * blocks.length + total blocks := by
  induction blocks with
  | nil => rfl
  | cons block rest ih =>
    rw [framed, List.map_cons, total_cons, Array.size_append, size_ofUInt32, List.length_cons,
      total_cons]
    rw [framed] at ih
    omega

/-! ## The whole chunk -/

variable {h : Header} {blocks : List Bytes}

theorem packedBytes_eq : packedBytes h blocks =
    h.toBytes ++ join (tableEntries blocks) ++ join (framed blocks) := rfl

theorem size_packedBytes : (packedBytes h blocks).size = packedSize blocks := by
  rw [packedBytes_eq, Array.size_append, Array.size_append, size_join, size_join, total_tableEntries,
    total_framed, Header.size_toBytes, packedSize]
  omega

@[simp] theorem size_storedBytes (src : Bytes) : (storedBytes h src).size = headerSize + src.size := by
  rw [storedBytes, Array.size_append, Header.size_toBytes]

theorem position_add_le {i : Nat} (hi : i < blocks.length) :
    position blocks i + 4 + blocks[i].size ≤ packedSize blocks := by
  have hsplit : total blocks = total (blocks.take i) + (blocks[i].size + total (blocks.drop (i + 1))) := by
    rw [← size_join, join_eq_split hi, Array.size_append, Array.size_append, size_join, size_join]
  unfold position packedSize
  omega

/-! ## One block -/

/-- The part of a packed chunk in front of block `i` and its length. -/
theorem exists_front {i : Nat} (hi : i < blocks.length) : ∃ front rest : Bytes,
    front.size = position blocks i ∧
      packedBytes h blocks = front ++ (ofUInt32 blocks[i].size.toUInt32 ++ (blocks[i] ++ rest)) := by
  have hframed : i < (framed blocks).length := by
    rw [framed, List.length_map]
    exact hi
  refine ⟨h.toBytes ++ join (tableEntries blocks) ++ join ((framed blocks).take i),
    join ((framed blocks).drop (i + 1)), ?_, ?_⟩
  · have htake : (framed blocks).take i = framed (blocks.take i) := List.map_take.symm
    rw [Array.size_append, Array.size_append, size_join, size_join, total_tableEntries, htake, total_framed,
      Header.size_toBytes, List.length_take, Nat.min_eq_left (Nat.le_of_lt hi), position]
    omega
  · rw [packedBytes_eq, join_eq_split hframed]
    simp only [framed, List.getElem_map, Array.append_assoc]

section Block
variable {i : Nat} (hi : i < blocks.length) (hsize : packedSize blocks < UInt32.size)
include hi hsize

theorem blockStart_packedBytes : blockStart (packedBytes h blocks) i = position blocks i := by
  have hle := position_add_le hi
  have hentry : i < (tableEntries blocks).length := length_tableEntries blocks ▸ hi
  -- split before entry `i`
  have hsplit : packedBytes h blocks = h.toBytes ++ join ((tableEntries blocks).take i) ++
      (ofUInt32 (position blocks i).toUInt32 ++
        (join ((tableEntries blocks).drop (i + 1)) ++ join (framed blocks))) := by
    rw [packedBytes_eq, join_eq_split hentry, getElem_tableEntries]
    simp only [Array.append_assoc]
  have hfront : (h.toBytes ++ join ((tableEntries blocks).take i)).size = 16 + 4 * i := by
    rw [Array.size_append, Header.size_toBytes, size_join, total_tableEntries_take _ _ (Nat.le_of_lt hi)]
    rfl
  unfold blockStart
  rw [hsplit, ← hfront, u32At_middle]
  exact UInt32.toNat_ofNat_of_lt' (Nat.lt_of_le_of_lt (by omega) hsize)

theorem blockLength_packedBytes : blockLength (packedBytes h blocks) i = blocks[i].size := by
  have hle := position_add_le hi
  obtain ⟨front, rest, hfront, hsplit⟩ := exists_front hi (h := h)
  unfold blockLength
  rw [blockStart_packedBytes hi hsize, hsplit, ← hfront, u32At_middle]
  exact UInt32.toNat_ofNat_of_lt' (Nat.lt_of_le_of_lt (by omega) hsize)

theorem blockBytes_packedBytes : blockBytes (packedBytes h blocks) i = blocks[i] := by
  obtain ⟨front, rest, hfront, hsplit⟩ := exists_front hi (h := h)
  unfold blockBytes
  rw [blockStart_packedBytes hi hsize, blockLength_packedBytes hi hsize, hsplit, ← hfront,
    ← Array.append_assoc]
  have hbehind : front.size + 4 = (front ++ ofUInt32 blocks[i].size.toUInt32).size := by
    rw [Array.size_append, size_ofUInt32]
  rw [hbehind]
  exact (slice?_eq_some.mp (slice?_middle _ blocks[i] rest)).2

theorem storedBlock_packedBytes : storedBlock (packedBytes h blocks) i = .ok blocks[i] := by
  have hle := position_add_le hi
  have hwhole : (packedBytes h blocks).extract 0 (packedSize blocks) = packedBytes h blocks := by
    rw [← size_packedBytes (h := h), Array.extract_size]
  rw [← hwhole, storedBlock_eq_ok (Nat.le_of_eq size_packedBytes.symm), blockStart_packedBytes hi hsize,
    blockLength_packedBytes hi hsize, blockBytes_packedBytes hi hsize]
  refine ⟨?_, ?_, hle, rfl⟩
  · have hheader : headerSize = 16 := rfl
    unfold packedSize
    omega
  · omega

end Block

end FramePress.Chunk
