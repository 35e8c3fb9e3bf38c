import FramePress.Backend.Bundled
import FramePress.Proofs.Chunk.Size
import FramePress.Proofs.Chunk.Tiling

/-! # Which kind of chunk is written

A packed chunk is weighed against the stored chunk of the same source, which is 16 bytes larger than the source.
What is packed is therefore smaller than the stored chunk, and need not be smaller than the source.

* `savings`: by how much the blocks of a source shrink; `packedCost_add_savings`: the size of the packed chunk.
* `Chosen`, `chosen_of_write`: when a chunk is packed, how large it is, and when it is smaller than its source.
* `compress_choice`: the same for what a compression leaves in the destination.
-/

namespace FramePress.Chunk
set_option autoImplicit false

variable {bs : Backends} {b : Backend} {c : Compressor} {p : Params} {src chunk : Bytes}

/-! ## What packing saves -/

/-- By how many bytes the blocks of a source shrink together. -/
def savings (b : Backend) (p : Params) (src : Bytes) : Nat :=
  ((rawBlocks p src).map fun raw => raw.size - keptSize b p raw).sum

theorem keptSize_le (b : Backend) (p : Params) (raw : Bytes) : keptSize b p raw ≤ raw.size := by
  unfold keptSize
  split
  · exact Nat.min_le_left _ _
  · exact Nat.le_refl _

theorem sum_kept_add_sum_saved (b : Backend) (p : Params) (raws : List Bytes) :
    (raws.map (keptSize b p)).sum + (raws.map fun raw => raw.size - keptSize b p raw).sum =
      Bytes.total raws := by
  induction raws with
  | nil => rfl
  | cons raw raws ih =>
    have hle := keptSize_le b p raw
    rw [List.map_cons, List.map_cons, List.sum_cons, List.sum_cons, Bytes.total_cons, ← ih]
    omega

/-- The packed chunk takes the source, the header, and eight bytes a block, less what is saved. -/
theorem packedCost_add_savings (b : Backend) (p : Params) (src : Bytes) :
    packedCost b p src + savings b p src = src.size + 16 + 8 * (rawBlocks p src).length := by
  have htotal : Bytes.total (rawBlocks p src) = src.size := by
    rw [← Bytes.size_join, join_rawBlocks]
  have hsum := sum_kept_add_sum_saved b p (rawBlocks p src)
  unfold packedCost savings
  rw [sum_four_add]
  omega

/-! ## The choice -/

/-- How a written chunk compares with its source. -/
structure Chosen (b : Backend) (p : Params) (src chunk : Bytes) : Prop where
  /-- Sources are stored if they are not to be packed, and if packing saves no more than entries and lengths take. -/
  stored_iff : Grammar.IsSet chunk 2 ↔
    p.level = 0 ∨ src.size < 32 ∨ savings b p src ≤ 8 * (rawBlocks p src).length
  stored : Grammar.IsSet chunk 2 → chunk.size = src.size + 16 ∧ chunk.extract 16 chunk.size = src
  packed : ¬ Grammar.IsSet chunk 2 →
    chunk.size + savings b p src = src.size + 16 + 8 * (rawBlocks p src).length
  /-- A packed chunk is smaller than the stored one would be. -/
  lt_stored : ¬ Grammar.IsSet chunk 2 → chunk.size < src.size + 16
  /-- It is smaller than the source only if the header is saved as well. -/
  lt_source_iff : ¬ Grammar.IsSet chunk 2 →
    (chunk.size < src.size ↔ 16 + 8 * (rawBlocks p src).length < savings b p src)

theorem chosen_stored (hsrc : src.size ≤ maxSourceSize)
    (hwhy : p.level = 0 ∨ src.size < 32 ∨ savings b p src ≤ 8 * (rawBlocks p src).length) :
    Chosen b p src (stored c p src) := by
  have hset := isSet_stored c p src
  have hsize : (stored c p src).size = src.size + 16 := by
    rw [size_stored, headerSize, Nat.add_comm]
  exact ⟨iff_of_true hset hwhy, fun _ => ⟨hsize, (storedLayout_stored hsrc).body⟩, fun h => absurd hset h,
    fun h => absurd hset h, fun h => absurd hset h⟩

theorem chosen_packed {blocks : List Bytes} (hlevel : 0 < p.level) (hsrc : 32 ≤ src.size)
    (hblocks : Packs b p src blocks) (hsize : packedSize blocks < headerSize + src.size) :
    Chosen b p src (packed c p src.size blocks) := by
  have hset := not_isSet_packed c p src blocks
  have hcost := packedCost_add_savings b p src
  have hheader : headerSize = 16 := rfl
  rw [← packedSize_eq hblocks, ← size_packed c p src.size blocks] at hcost
  rw [← size_packed c p src.size blocks, hheader] at hsize
  constructor
  · refine iff_of_false hset ?_
    omega
  · exact fun h => absurd h hset
  · exact fun _ => hcost
  · omega
  · omega

theorem chosen_of_write {room : Nat} (h : write bs c p src room = .ok (some chunk)) :
    Chosen (bs c) p src chunk := by
  obtain ⟨hsrc, ⟨hlevel, -⟩, -⟩ := writeChecked_of_write h
  have hchunk := chunkFor?_of_write h
  unfold chunkFor? at hchunk
  by_cases hpackable : isPackable p src = true
  · have hworth : 0 < p.level ∧ 32 ≤ src.size := by
      obtain ⟨hpositive, hlong⟩ := Bool.and_eq_true_iff.mp hpackable
      exact ⟨of_decide_eq_true hpositive, of_decide_eq_true hlong⟩
    rw [if_pos hpackable] at hchunk
    obtain ⟨blocks, hblocks, hkind⟩ := Option.map_eq_some_iff.mp hchunk
    by_cases hsmaller : packedSize blocks < headerSize + src.size
    · rw [if_pos hsmaller] at hkind
      subst hkind
      exact chosen_packed hworth.1 hworth.2 hblocks hsmaller
    · rw [if_neg hsmaller] at hkind
      subst hkind
      have hcost := packedCost_add_savings (bs c) p src
      rw [← packedSize_eq hblocks] at hcost
      rw [headerSize] at hsmaller
      exact chosen_stored hsrc (.inr (.inr (by omega)))
  · rw [if_neg hpackable] at hchunk
    obtain rfl := Option.some.inj hchunk
    have hnot := (isPackable_eq_false_iff hlevel).mp (Bool.eq_false_iff.mpr hpackable)
    exact chosen_stored hsrc (hnot.imp_right .inl)

/-- A compression that succeeds leaves the stored chunk, or a packed one that is smaller than that; how much is
saved decides which, and whether the packed chunk is smaller than the source. -/
theorem compress_choice {bs : Backends} {s : ChunkCodec} {p : Params} {src dest : Bytes} {n : Nat} (hn : 0 < n)
    (hresult : (ChunkCodec.compress bs s p src dest).result = .ok n) :
    let chunk := (ChunkCodec.compress bs s p src dest).dest.extract 0 n
    chunk.size = n ∧ Chosen (bs s.compressor) p src chunk := by
  obtain ⟨chunk, hwrite, hsize, hfront⟩ := written_of_compress hn hresult
  dsimp only
  rw [hfront]
  exact ⟨hsize, chosen_of_write hwrite⟩

/-! ## A chunk that is larger than its source -/

/-- 32 zeros, whose LZ4 form takes twelve bytes. -/
def zeros : Bytes := Array.replicate 32 0

def zerosCompression : Compression ChunkCodec :=
  ChunkCodec.compress Backends.bundled {} ⟨1, .off, 1⟩ zeros (Array.replicate 48 0)

set_option maxRecDepth 100000 in
theorem zerosCompression_eq : zerosCompression = ⟨.ok 36, #[2, 1, 32, 1, 32, 0, 0, 0, 32, 0, 0, 0, 36, 0, 0, 0,
    20, 0, 0, 0, 12, 0, 0, 0, 31, 0, 1, 0, 6, 96, 0, 0, 0, 0, 0, 0, 0, 0, 0, 0, 0, 0, 0, 0, 0, 0, 0, 0], {}⟩ := by
  unfold zerosCompression zeros
  rw [ChunkCodec.compress_eq]
  cbv

/-- Packing saves twenty bytes: more than an entry and a length take, less than would make up for the header. -/
theorem compress_choice_zeros :
    let chunk := zerosCompression.dest.extract 0 36
    0 < 36 ∧ zerosCompression.result = .ok 36 ∧ savings (Backends.bundled .lz4) ⟨1, .off, 1⟩ zeros = 20 ∧
      ¬ Grammar.IsSet chunk 2 ∧ 32 < chunk.size ∧ Chosen (Backends.bundled .lz4) ⟨1, .off, 1⟩ zeros chunk := by
  intro chunk
  have hresult := congrArg Compression.result zerosCompression_eq
  have hsavings : savings (Backends.bundled .lz4) ⟨1, .off, 1⟩ zeros = 20 := by decide +kernel
  obtain ⟨hsize, hchosen⟩ := @compress_choice Backends.bundled {} ⟨1, .off, 1⟩ zeros (Array.replicate 48 0) 36
    (by decide) hresult
  have hpacked : ¬ Grammar.IsSet chunk 2 := by
    unfold chunk
    rw [zerosCompression_eq]
    decide
  have hlarger : 32 < chunk.size := Nat.lt_of_lt_of_eq (by decide) hsize.symm
  exact ⟨by decide, hresult, hsavings, hpacked, hlarger, hchosen⟩

/-- The packed chunk of the zeros is four bytes larger than the zeros. -/
theorem packed_exceeds_source :
    zerosCompression.result = .ok 36 ∧ ¬ Grammar.IsSet (zerosCompression.dest.extract 0 36) 2 ∧
      ¬ 36 < zeros.size := by
  rw [zerosCompression_eq]
  exact ⟨rfl, by decide, by decide⟩

end FramePress.Chunk
