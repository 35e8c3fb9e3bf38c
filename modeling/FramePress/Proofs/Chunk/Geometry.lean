import FramePress.Chunk.Writer
import FramePress.Proofs.Bytes.Parts
import Mathlib.Algebra.Order.Floor.Div
import Mathlib.Order.Bounds.Basic

/-! # Blocks hold whole elements

* `blockSize_pos`, `blockSize_le`, `blockSize_le_blockLimit`: a block has a byte, and is no larger than its source
  and the limit of the level.
* `blockSize_of_le`, `blockSize_of_lt`: a source of one element at most is one block; otherwise a block holds as
  many elements as the level and the source allow.
* `isGreatest_blockSize`, `aligned_blockSize`: no larger multiple of the element size would do, and a boundary
  between blocks is one between elements.
* `WholeElements`, `wholeElements_blockSize`: all that holds of the blocks of a source.
-/

namespace FramePress.Chunk
set_option autoImplicit false

/-! ## Bounds -/

theorem effectiveTypeSize_le (typeSize : Nat) : effectiveTypeSize typeSize ≤ maxTypeSize := by
  unfold effectiveTypeSize
  split
  · exact Nat.one_le_of_lt (by decide : 0 < maxTypeSize)
  · omega

theorem effectiveTypeSize_pos {typeSize : Nat} (h : 0 < typeSize) : 0 < effectiveTypeSize typeSize := by
  unfold effectiveTypeSize
  split <;> omega

/-- 64 KiB, twice as much from level 4 on, and twice again from level 7 on. -/
def bandLimit (level : Nat) : Nat := 64 * 1024 * 2 ^ ((level - 1) / 3)

theorem blockLimit_eq_bandLimit {level : Nat} (h : level ≤ 9) : blockLimit level = bandLimit level := by
  unfold blockLimit bandLimit
  split
  · have hthird : (level - 1) / 3 = 0 := by omega
    rw [hthird, Nat.pow_zero, Nat.mul_one]
  · split
    · have hthird : (level - 1) / 3 = 1 := by omega
      rw [hthird, Nat.pow_one]
    · have hthird : (level - 1) / 3 = 2 := by omega
      rw [hthird]
      decide

theorem maxTypeSize_lt_blockLimit (level : Nat) : maxTypeSize < blockLimit level := by
  unfold blockLimit maxTypeSize
  split
  · omega
  · split <;> omega

theorem blockSize_pos (level typeSize rawSize : Nat) : 0 < blockSize level typeSize rawSize :=
  Nat.lt_of_lt_of_le Nat.one_pos (Nat.le_max_left 1 _)

theorem blockSize_le (level typeSize rawSize : Nat) :
    blockSize level typeSize rawSize ≤ max 1 rawSize := by
  unfold blockSize
  dsimp only
  have hmost : min (blockLimit level) rawSize ≤ rawSize := Nat.min_le_right _ _
  split <;> omega

theorem blockSize_le_blockLimit (level typeSize rawSize : Nat) :
    blockSize level typeSize rawSize ≤ blockLimit level := by
  have hlimit := maxTypeSize_lt_blockLimit level
  have hmost : min (blockLimit level) rawSize ≤ blockLimit level := Nat.min_le_left _ _
  unfold blockSize
  dsimp only
  split <;> omega

/-! ## The size of a block -/

section Size
variable {level typeSize rawSize : Nat}

theorem blockSize_of_le (hmax : typeSize ≤ maxTypeSize) (hraw : 0 < rawSize) (h : rawSize ≤ typeSize) :
    blockSize level typeSize rawSize = rawSize := by
  have hlimit := maxTypeSize_lt_blockLimit level
  have hmost : min (blockLimit level) rawSize = rawSize := Nat.min_eq_right (by omega)
  unfold blockSize
  dsimp only
  rw [hmost, if_neg (by omega)]
  exact Nat.max_eq_right hraw

theorem blockSize_of_lt (htype : 0 < typeSize) (hmax : typeSize ≤ maxTypeSize) (h : typeSize < rawSize) :
    blockSize level typeSize rawSize = min (blockLimit level) rawSize / typeSize * typeSize := by
  have hlimit := maxTypeSize_lt_blockLimit level
  have hmost : typeSize < min (blockLimit level) rawSize := Nat.lt_min.mpr ⟨by omega, h⟩
  have hmod := Nat.mod_lt (min (blockLimit level) rawSize) htype
  unfold blockSize
  dsimp only
  rw [if_pos hmost, Nat.div_mul_self_eq_mod_sub_self]
  omega

theorem isGreatest_blockSize (htype : 0 < typeSize) (hmax : typeSize ≤ maxTypeSize) (h : typeSize < rawSize) :
    IsGreatest {n | n ≤ blockLimit level ∧ n ≤ rawSize ∧ typeSize ∣ n} (blockSize level typeSize rawSize) := by
  rw [blockSize_of_lt htype hmax h]
  have hle := Nat.div_mul_le_self (min (blockLimit level) rawSize) typeSize
  refine ⟨⟨hle.trans (Nat.min_le_left _ _), hle.trans (Nat.min_le_right _ _), Nat.dvd_mul_left _ _⟩, ?_⟩
  rintro n ⟨hlimit, hraw, k, rfl⟩
  rw [Nat.mul_comm] at hlimit hraw ⊢
  have hcount : k ≤ min (blockLimit level) rawSize / typeSize :=
    (Nat.le_div_iff_mul_le htype).mpr (Nat.le_min.mpr ⟨hlimit, hraw⟩)
  exact Nat.mul_le_mul_right typeSize hcount

/-- Where one block of `size` bytes ends and another begins, an element begins. -/
def Aligned (typeSize rawSize size : Nat) : Prop := ∀ i, i * size < rawSize → typeSize ∣ i * size

theorem Aligned.dvd {size : Nat} (h : Aligned typeSize rawSize size) (hlt : size < rawSize) : typeSize ∣ size := by
  have hfirst := h 1 ((Nat.one_mul size).symm ▸ hlt)
  rwa [Nat.one_mul] at hfirst

theorem aligned_blockSize (htype : 0 < typeSize) (hmax : typeSize ≤ maxTypeSize) (hraw : 0 < rawSize) :
    Aligned typeSize rawSize (blockSize level typeSize rawSize) := by
  intro i hi
  rcases Nat.lt_or_ge typeSize rawSize with h | h
  · have hdvd := (@isGreatest_blockSize level typeSize rawSize htype hmax h).1.2.2
    exact Nat.dvd_mul_left_of_dvd hdvd i
  · -- there is one block, which begins where the source does
    rw [blockSize_of_le hmax hraw h] at hi ⊢
    have hzero : i = 0 := by
      refine Nat.eq_zero_of_not_pos fun hpos => ?_
      exact absurd hi (Nat.not_lt_of_le (Nat.le_mul_of_pos_left rawSize hpos))
    rw [hzero, Nat.zero_mul]
    exact Nat.dvd_zero typeSize

/-- Larger blocks would have to be a single one. -/
theorem Aligned.le_blockSize (htype : 0 < typeSize) (hmax : typeSize ≤ maxTypeSize) (hraw : 0 < rawSize) {n : Nat}
    (hlimit : n ≤ blockLimit level) (hle : n ≤ rawSize) (hn : Aligned typeSize rawSize n) :
    n ≤ blockSize level typeSize rawSize ∨ n = rawSize := by
  rcases Nat.lt_or_ge typeSize rawSize with h | h
  · refine (Nat.lt_or_eq_of_le hle).imp_left fun hlt => ?_
    exact (isGreatest_blockSize htype hmax h).2 ⟨hlimit, hle, hn.dvd hlt⟩
  · rw [blockSize_of_le hmax hraw h]
    exact .inl hle

end Size

/-! ## The blocks of a source -/

/-- What it means that a source is cut, as `packBlocks` does it, into blocks of `size` bytes. -/
structure WholeElements (level typeSize : Nat) (src : Bytes) (size : Nat) : Prop where
  pos : 1 ≤ size
  le_source : size ≤ src.size
  le_bandLimit : size ≤ bandLimit level
  count : (src.pieces size).length = src.size ⌈/⌉ size
  nonempty : ∀ block ∈ src.pieces size, block ≠ #[]
  join : Bytes.join (src.pieces size) = src
  full : ∀ block ∈ (src.pieces size).dropLast, block.size = size
  aligned : Aligned typeSize src.size size
  /-- The elements of the blocks, block after block, are those of the source: none is cut in two. -/
  elements : ((src.pieces size).flatMap fun block => block.pieces typeSize) = src.pieces typeSize
  greatest : typeSize < src.size → IsGreatest {n | n ≤ bandLimit level ∧ n ≤ src.size ∧ typeSize ∣ n} size
  /-- Boundaries alone leave one other choice: no boundary at all. -/
  greatest_aligned : ∀ n ≤ bandLimit level, n ≤ src.size → Aligned typeSize src.size n → n ≤ size ∨ n = src.size

theorem WholeElements.unique {level typeSize m n : Nat} {src : Bytes} (hm : WholeElements level typeSize src m)
    (hn : WholeElements level typeSize src n) : m = n := by
  rcases Nat.lt_or_ge typeSize src.size with h | h
  · exact (hm.greatest h).unique (hn.greatest h)
  · -- a smaller block would end before the first element does
    have hwhole {k : Nat} (hk : WholeElements level typeSize src k) : k = src.size := by
      refine Nat.le_antisymm hk.le_source (Nat.le_of_not_lt fun hlt => ?_)
      have hle := Nat.le_of_dvd hk.pos (hk.aligned.dvd hlt)
      omega
    rw [hwhole hm, hwhole hn]

/-- At every level and for every element size that a header records, the blocks of a source hold whole elements. -/
theorem wholeElements_blockSize {level typeSize : Nat} {src : Bytes} (hlevel : level ≤ 9) (htype : 0 < typeSize)
    (hmax : typeSize ≤ 255) (hsrc : 0 < src.size) :
    WholeElements level typeSize src (blockSize level typeSize src.size) := by
  have hpos := blockSize_pos level typeSize src.size
  have hsource := blockSize_le level typeSize src.size
  have hlimit := blockSize_le_blockLimit level typeSize src.size
  have hband := blockLimit_eq_bandLimit hlevel
  have haligned : Aligned typeSize src.size (blockSize level typeSize src.size) :=
    aligned_blockSize htype hmax hsrc
  have hgreatest := @isGreatest_blockSize level typeSize src.size htype hmax
  constructor
  case pos => exact hpos
  case le_source => omega
  case le_bandLimit => exact hband ▸ hlimit
  case count => rw [Bytes.length_pieces, Nat.ceilDiv_eq_add_pred_div]
  case nonempty =>
    rintro block hblock rfl
    exact absurd (Bytes.pos_of_mem_pieces hblock) (Nat.lt_irrefl 0)
  case join => exact Bytes.join_pieces src hpos
  case full => exact fun block hblock => (Bytes.size_of_mem_dropLast_pieces hblock).1
  case aligned => exact haligned
  case elements => exact Bytes.flatMap_pieces hpos haligned
  case greatest => exact hband ▸ hgreatest
  case greatest_aligned =>
    intro n hn hle hboundaries
    exact hboundaries.le_blockSize htype hmax hsrc (hband ▸ hn) hle

/-- Elements of seven bytes do not fill 128 KiB: each of the first two blocks is four bytes smaller. -/
theorem wholeElements_blockSize_sevens :
    5 ≤ 9 ∧ 0 < 7 ∧ 7 ≤ 255 ∧ 0 < (Array.replicate 300000 1 : Bytes).size ∧
      WholeElements 5 7 (Array.replicate 300000 1) (128 * 1024 - 4) := by
  have hsize : (Array.replicate 300000 1 : Bytes).size = 300000 := Array.size_replicate
  have hsrc : 0 < (Array.replicate 300000 1 : Bytes).size := by omega
  have hblock : blockSize 5 7 300000 = 128 * 1024 - 4 := by decide
  have hwhole := @wholeElements_blockSize 5 7 (Array.replicate 300000 1) (by decide) (by decide) (by decide) hsrc
  rw [hsize, hblock] at hwhole
  exact ⟨by decide, by decide, by decide, hsrc, hwhole⟩

end FramePress.Chunk
