import FramePress.Proofs.Chunk.Blocks
import FramePress.Proofs.Shuffle.Inverse

/-! # The grammar of chunks

Which byte strings are chunks, said of their bytes alone, and what those that are hold.  Nothing is
assumed about the positions in the table: blocks may overlap, lie in any order or inside the header.

* `BlockFits`: the three ranges of a block lie inside the chunk, and its content has the right length.
* `WellFormed`: the byte strings that are chunks.
* `content`: what they hold.
* `read_iff_wellFormed`: the reader accepts just these, and returns just that.
-/

namespace FramePress.Chunk.Grammar
set_option autoImplicit false

/-! ## Fields -/

section Fields
variable (b : Bytes)

def rawSize : Nat := (b.u32At 4).toNat

def blockSize : Nat := (b.u32At 8).toNat

def chunkSize : Nat := (b.u32At 12).toNat

/-- Whether a bit of the flags is set. -/
def IsSet (mask : UInt8) : Prop := b.byteAt 2 &&& mask ≠ 0

instance (mask : UInt8) : Decidable (IsSet b mask) := inferInstanceAs (Decidable (_ ≠ _))

def compressor? : Option Compressor :=
  let format := b.byteAt 2 >>> 5
  if format = 1 then some .lz4
  else if format = 3 then some .zlib
  else if format = 4 then some .zstd
  else none

def shuffleMode : ShuffleMode :=
  if IsSet b 4 then .bit else if IsSet b 1 then .byte else .off

def blockCount : Nat := (rawSize b + blockSize b - 1) / blockSize b

/-- The raw length of block `i`. -/
def rawLength (i : Nat) : Nat := min (blockSize b) (rawSize b - i * blockSize b)

end Fields

/-! ## Chunks -/

variable (bs : Backends) (c : Compressor) (b : Bytes)

structure BlockFits (i : Nat) : Prop where
  entry : 16 + 4 * i + 4 ≤ chunkSize b
  length : blockStart b i + 4 ≤ chunkSize b
  body : blockStart b i + 4 + blockLength b i ≤ chunkSize b
  content : blockLength b i = rawLength b i ∨
    ∃ out, (bs c).unpack (blockBytes b i) (rawLength b i) = some out ∧ out.size = rawLength b i

structure WellFormed : Prop where
  header : 16 ≤ b.size
  version : b.byteAt 0 = 2
  complete : chunkSize b ≤ b.size
  kind : (IsSet b 2 ∧ 16 + rawSize b ≤ chunkSize b) ∨
    (¬ IsSet b 2 ∧ ∃ c, compressor? b = some c ∧ 0 < blockSize b ∧
      ∀ i < blockCount b, BlockFits bs c b i)

/-- Block `i` before its filter is undone. -/
def shuffledBlock (i : Nat) : Bytes :=
  if blockLength b i = rawLength b i then blockBytes b i
  else ((bs c).unpack (blockBytes b i) (rawLength b i)).getD #[]

def blockContent (i : Nat) : Bytes :=
  unshuffle (shuffleMode b) (b.byteAt 3).toNat (shuffledBlock bs c b i)

def content : Bytes :=
  if IsSet b 2 then b.extract 16 (16 + rawSize b)
  else match compressor? b with
    | some c => Bytes.join ((List.range (blockCount b)).map (blockContent bs c b))
    | none => #[]

/-! ## The header, read -/

variable {bs c b}

theorem isStored_iff : (Header.ofBytes b).isStored = true ↔ IsSet b 2 := by
  unfold Header.isStored Header.hasFlag IsSet
  exact bne_iff_ne

theorem compressor?_ofBytes : (Header.ofBytes b).compressor? = compressor? b := by
  unfold Header.compressor? Header.format compressor?
  show Compressor.ofFormatCode? (b.byteAt 2 >>> 5) = _
  generalize b.byteAt 2 >>> 5 = format
  simp only [Compressor.ofFormatCode?, Compressor.all, List.find?, Compressor.formatCode, eq_comm]
  by_cases h1 : format = 1
  · simp [h1]
  by_cases h3 : format = 3
  · simp [h3]
  by_cases h4 : format = 4
  · simp [h4]
  simp [h1, h3, h4]

theorem shuffleMode_ofBytes : (Header.ofBytes b).shuffleMode = shuffleMode b := by
  unfold Header.shuffleMode Header.hasFlag shuffleMode IsSet
  simp only [bne_iff_ne]
  rfl

/-! ## The blocks, read -/

theorem size_blockBytes {i : Nat} (h : blockStart b i + 4 + blockLength b i ≤ b.size) :
    (blockBytes b i).size = blockLength b i := by
  unfold blockBytes
  rw [Array.size_extract]
  omega

theorem expands_iff {i : Nat} {out : Bytes} (hsize : (blockBytes b i).size = blockLength b i) :
    Expands bs c (rawLength b i) (blockBytes b i) out ↔
      (blockLength b i = rawLength b i ∨
        ∃ out, (bs c).unpack (blockBytes b i) (rawLength b i) = some out ∧
          out.size = rawLength b i) ∧ shuffledBlock bs c b i = out := by
  unfold Expands shuffledBlock
  rw [hsize]
  by_cases hraw : blockLength b i = rawLength b i
  · simp only [hraw, if_true, true_or, true_and]
    refine ⟨fun h => h.2, fun h => ⟨?_, h⟩⟩
    rw [← h, hsize, hraw]
  · simp only [hraw, if_false, false_or]
    constructor
    · rintro ⟨hout, hunpack⟩
      rw [hunpack]
      exact ⟨⟨out, rfl, hout⟩, rfl⟩
    · rintro ⟨⟨out', hunpack, hout⟩, hget⟩
      rw [hunpack, Option.getD_some] at hget
      subst hget
      exact ⟨hout, hunpack⟩

theorem readBlock_iff_fits {i : Nat} {raw : Bytes} (hchunk : chunkSize b ≤ b.size) :
    readBlock bs (Header.ofBytes b) c (b.extract 0 (chunkSize b)) i = .ok raw ↔
      BlockFits bs c b i ∧ blockContent bs c b i = raw := by
  rw [readBlock_eq_ok, shuffleMode_ofBytes]
  simp only [storedBlock_eq_ok hchunk]
  constructor
  · rintro ⟨_, out, ⟨hentry, hstart, hbody, rfl⟩, hout, hraw⟩
    obtain ⟨hcontent, rfl⟩ := (expands_iff (size_blockBytes (Nat.le_trans hbody hchunk))).mp hout
    exact ⟨⟨hentry, hstart, hbody, hcontent⟩, hraw⟩
  · rintro ⟨⟨hentry, hstart, hbody, hcontent⟩, hraw⟩
    refine ⟨_, shuffledBlock bs c b i, ⟨hentry, hstart, hbody, rfl⟩, ?_, hraw⟩
    exact (expands_iff (size_blockBytes (Nat.le_trans hbody hchunk))).mpr ⟨hcontent, rfl⟩

/-- A block that fits gives as many bytes as its place in the raw data has. -/
theorem size_blockContent {i : Nat} (hchunk : chunkSize b ≤ b.size) (h : BlockFits bs c b i) :
    (blockContent bs c b i).size = rawLength b i := by
  have hsize := size_blockBytes (Nat.le_trans h.body hchunk)
  have hexpands := (expands_iff hsize).mpr ⟨h.content, rfl⟩
  unfold blockContent
  rw [size_unshuffle]
  exact hexpands.1

theorem readPacked_iff {out : Bytes} (hchunk : chunkSize b ≤ b.size) :
    readPacked bs (Header.ofBytes b) (b.extract 0 (chunkSize b)) = .ok out ↔
      ∃ c, compressor? b = some c ∧ 0 < blockSize b ∧ (∀ i < blockCount b, BlockFits bs c b i) ∧
        Bytes.join ((List.range (blockCount b)).map (blockContent bs c b)) = out := by
  rw [readPacked_eq_ok, compressor?_ofBytes]
  refine exists_congr fun c => and_congr_right fun _ => ?_
  have hpos : (Header.ofBytes b).blockSize ≠ 0 ↔ 0 < blockSize b := by
    rw [Nat.pos_iff_ne_zero, ne_eq, ← UInt32.toNat_inj]
    rfl
  rw [hpos]
  refine and_congr_right fun _ => ?_
  rw [readBlocks_eq_ok (blockContent bs c b)
    fun k raw _ _ h => ((readBlock_iff_fits hchunk).mp h).2.symm]
  simp only [readBlock_iff_fits hchunk, Nat.zero_le, Nat.zero_add, forall_const, and_true,
    Array.empty_append, ← List.range_eq_range']
  rfl

/-! ## The reader and the grammar -/

theorem read_eq_ok_iff {out : Bytes} :
    read bs b = .ok out ↔ WellFormed bs b ∧ content bs b = out := by
  rw [read_eq_ok]
  constructor
  · rintro ⟨hsize, hversion, hchunk, hkind⟩
    by_cases hs : IsSet b 2
    · rw [if_pos (isStored_iff.mpr hs), readStored_eq_ok hchunk] at hkind
      refine ⟨⟨hsize, hversion, hchunk, .inl ⟨hs, hkind.1⟩⟩, ?_⟩
      rw [content, if_pos hs]
      exact hkind.2
    · rw [if_neg (mt isStored_iff.mp hs)] at hkind
      obtain ⟨c, hc, hpos, hfits, hout⟩ := (readPacked_iff hchunk).mp hkind
      refine ⟨⟨hsize, hversion, hchunk, .inr ⟨hs, c, hc, hpos, hfits⟩⟩, ?_⟩
      rw [content, if_neg hs, hc]
      exact hout
  · rintro ⟨⟨hsize, hversion, hchunk, hkind⟩, hout⟩
    refine ⟨hsize, hversion, hchunk, ?_⟩
    rcases hkind with ⟨hs, hroom⟩ | ⟨hs, c, hc, hpos, hfits⟩
    · rw [content, if_pos hs] at hout
      rw [if_pos (isStored_iff.mpr hs)]
      exact (readStored_eq_ok hchunk).mpr ⟨hroom, hout⟩
    · rw [content, if_neg hs, hc] at hout
      rw [if_neg (mt isStored_iff.mp hs)]
      exact (readPacked_iff hchunk).mpr ⟨c, hc, hpos, hfits, hout⟩

theorem size_content (h : WellFormed bs b) : (content bs b).size = rawSize b := by
  have hchunk := h.complete
  rcases h.kind with ⟨hs, hroom⟩ | ⟨hs, c, hc, hpos, hfits⟩
  · rw [content, if_pos hs, Array.size_extract]
    omega
  · rw [content, if_neg hs, hc]
    have hcuts : ∀ i < blockCount b,
        (blockContent bs c b i).size = min (blockSize b) (rawSize b - i * blockSize b) :=
      fun i hi => size_blockContent hchunk (hfits i hi)
    -- the blocks have room for all of the raw data, and the last one ends with it
    simp only [Bytes.size_join, Bytes.total_cuts hcuts]
    exact Nat.min_eq_right (Bytes.size_le_count_mul hpos)

/-- A byte string is read exactly if it is well formed, and the result is its content, of the length
that its header gives. -/
theorem read_iff_wellFormed (bs : Backends) (b : Bytes) :
    ((∃ out, read bs b = .ok out) ↔ WellFormed bs b) ∧
      ∀ out, read bs b = .ok out → out = content bs b ∧ out.size = rawSize b := by
  constructor
  · constructor
    · rintro ⟨out, hout⟩
      exact (read_eq_ok_iff.mp hout).1
    · intro h
      exact ⟨content bs b, read_eq_ok_iff.mpr ⟨h, rfl⟩⟩
  · intro out hout
    obtain ⟨h, rfl⟩ := read_eq_ok_iff.mp hout
    exact ⟨rfl, size_content h⟩

end FramePress.Chunk.Grammar
