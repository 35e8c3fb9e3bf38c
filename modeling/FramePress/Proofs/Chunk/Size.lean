import FramePress.Proofs.Chunk.RoundTrip
import Mathlib.Algebra.GroupWithZero.Nat

/-! # The size of a written chunk

The writer takes the smaller of the two kinds of chunk, and nothing if that has no room.

* `keptSize`, `packedCost`, `bestSize`: the size of the smallest chunk, from the encoder's outputs alone.
* `packedSize_eq`: the blocks that are written have the size that was reckoned.
* `IsBest`, `WritesBest`: a chunk of that size is written exactly if there is room for it.
* `size_law`: what the codec reports, and what the header of its chunk says.
-/

namespace FramePress.Chunk
set_option autoImplicit false

/-! ## Sizes from the encoder's outputs -/

section Sizes
variable (b : Backend) (p : Params)

/-- The bytes that are kept of a block: its packed form, or as many as it has. -/
def keptSize (raw : Bytes) : Nat :=
  match encodedBlock b p raw with
  | some packed => min raw.size packed.size
  | none => raw.size

/-- The size of the packed chunk: each block has a table entry, and a length in front of it. -/
def packedCost (src : Bytes) : Nat :=
  16 + 4 * (rawBlocks p src).length + ((rawBlocks p src).map fun raw => 4 + keptSize b p raw).sum

/-- The size of the smallest chunk.  At level 0, and below 32 bytes, there is only the stored one. -/
def bestSize (src : Bytes) : Nat :=
  if p.level = 0 ∨ src.size < 32 then src.size + 16 else min (src.size + 16) (packedCost b p src)

end Sizes

/-! ## Blocks -/

variable {bs : Backends} {b : Backend} {c : Compressor} {p : Params} {src : Bytes} {blocks : List Bytes}

theorem size_of_packBlock {raw block : Bytes}
    (h : packBlock b p.level.toNat p.shuffle (effectiveTypeSize p.typeSize) raw = some block) :
    block.size = keptSize b p raw := by
  obtain ⟨packed, hpack, rfl⟩ := Option.map_eq_some_iff.mp h
  have hencoded : encodedBlock b p raw = some packed := hpack
  unfold keptSize
  rw [hencoded]
  dsimp only
  by_cases hlt : packed.size < raw.size
  · rw [if_pos hlt, Nat.min_eq_right (Nat.le_of_lt hlt)]
  · rw [if_neg hlt, size_shuffle, Nat.min_eq_left (Nat.not_lt.mp hlt)]

theorem total_eq_sum {α : Type} {l : List α} {f : α → Option Bytes} {size : α → Nat} {parts : List Bytes}
    (h : l.mapM f = some parts) (hsize : ∀ a part, f a = some part → part.size = size a) :
    Bytes.total parts = (l.map size).sum := by
  induction l generalizing parts with
  | nil =>
    cases h
    rfl
  | cons a l ih =>
    rw [List.mapM_cons] at h
    obtain ⟨part, hpart, h⟩ := Option.bind_eq_some_iff.mp h
    obtain ⟨rest, hrest, h⟩ := Option.bind_eq_some_iff.mp h
    cases h
    rw [Bytes.total_cons, ih hrest, hsize a part hpart, List.map_cons, List.sum_cons]

theorem sum_four_add {α : Type} (l : List α) (size : α → Nat) :
    (l.map fun a => 4 + size a).sum = 4 * l.length + (l.map size).sum := by
  induction l with
  | nil => rfl
  | cons a l ih =>
    simp only [List.map_cons, List.sum_cons, List.length_cons, ih]
    omega

theorem packedSize_eq (h : Packs b p src blocks) : packedSize blocks = packedCost b p src := by
  have htotal : Bytes.total blocks = ((rawBlocks p src).map (keptSize b p)).sum :=
    total_eq_sum h fun _ _ => size_of_packBlock
  unfold packedSize packedCost
  rw [htotal, sum_four_add, h.length_eq, headerSize]
  omega

/-! ## The chunk that is written -/

theorem isPackable_eq_false_iff (hlevel : 0 ≤ p.level) :
    isPackable p src = false ↔ p.level = 0 ∨ src.size < 32 := by
  unfold isPackable minPackedSource
  simp only [Bool.and_eq_false_iff, decide_eq_false_iff_not]
  omega

theorem bestSize_of_packable (hlevel : 0 ≤ p.level) (h : isPackable p src = true) :
    bestSize b p src = min (src.size + 16) (packedCost b p src) := by
  have hneither : ¬ (p.level = 0 ∨ src.size < 32) := by
    rw [← isPackable_eq_false_iff hlevel, h]
    exact Bool.true_eq_false.mp
  unfold bestSize
  rw [if_neg hneither]

/-- A chunk of the smallest size, with a header that says so. -/
structure IsBest (b : Backend) (p : Params) (src chunk : Bytes) : Prop where
  size : chunk.size = bestSize b p src
  header : ∃ h, Header.read chunk = .ok h ∧ h.chunkSize.toNat = bestSize b p src ∧
    (h.isStored = true ↔ bestSize b p src = src.size + 16)

theorem isBest_stored (hsrc : src.size ≤ maxSourceSize) (hbest : bestSize b p src = src.size + 16) :
    IsBest b p src (stored c p src) := by
  have hsize : (stored c p src).size = bestSize b p src := by
    rw [size_stored, hbest, headerSize, Nat.add_comm]
  refine ⟨hsize, storedHeader c p src.size, Header.read_toBytes rfl src, ?_, ?_⟩
  · rw [hbest, Nat.add_comm]
    exact toNat_sizeWord (Nat.add_le_add_left hsrc _)
  · exact ⟨fun _ => hbest, fun _ => Header.isStored_of_stored rfl⟩

theorem isBest_packed (hsrc : src.size ≤ maxSourceSize) (hbest : bestSize b p src = packedSize blocks)
    (hsize : packedSize blocks < headerSize + src.size) :
    IsBest b p src (packed c p src.size blocks) := by
  refine ⟨(size_packed c p src.size blocks).trans hbest.symm, packedHeader c p src.size blocks, ?_, ?_, ?_⟩
  · rw [packed_eq, packedBytes_eq, Array.append_assoc]
    exact Header.read_toBytes rfl _
  · rw [hbest]
    exact toNat_sizeWord (by omega)
  · rw [Header.isStored_of_packed rfl, hbest]
    refine ⟨fun h => (nomatch h), fun h => ?_⟩
    rw [headerSize] at hsize
    omega

/-- What is written when there is room for the smallest chunk, and when there is not. -/
inductive WritesBest (b : Backend) (p : Params) (src : Bytes) (room : Nat) :
    Except Status (Option Bytes) → Prop
  | chunk (h : bestSize b p src ≤ room) (chunk : Bytes) (hbest : IsBest b p src chunk) :
      WritesBest b p src room (.ok (some chunk))
  | nothing (h : room < bestSize b p src) : WritesBest b p src room (.ok none)

theorem writesBest_stored {room : Nat} (hsrc : src.size ≤ maxSourceSize)
    (hbest : bestSize b p src = src.size + 16) :
    WritesBest b p src room (.ok (stored? c p src room)) := by
  have hheader : headerSize = 16 := rfl
  unfold stored?
  by_cases hroom : headerSize + src.size ≤ room
  · rw [if_pos hroom]
    exact .chunk (by omega) _ (isBest_stored hsrc hbest)
  · rw [if_neg hroom]
    exact .nothing (by omega)

theorem writesBest_writeChecked {r : Nat} (hsrc : src.size ≤ maxSourceSize) (hlevel : 0 ≤ p.level)
    (hencodes : isPackable p src = true → Encodes b p src) :
    WritesBest b p src r (writeChecked b c p src r) := by
  have hheader : headerSize = 16 := rfl
  unfold writeChecked
  by_cases hpackable : isPackable p src = true
  · obtain ⟨blocks, hblocks⟩ := exists_packs (hencodes hpackable)
    have hmin := bestSize_of_packable (b := b) hlevel hpackable
    rw [← packedSize_eq hblocks] at hmin
    unfold Packs at hblocks
    rw [if_pos hpackable, hblocks]
    dsimp only
    by_cases hsmaller : packedSize blocks < headerSize + src.size
    · have hbest : bestSize b p src = packedSize blocks := by omega
      by_cases hroom : packedSize blocks ≤ r
      · rw [if_pos ⟨hsmaller, hroom⟩]
        exact .chunk (by omega) _ (isBest_packed hsrc hbest hsmaller)
      · -- the stored chunk is larger still
        rw [if_neg fun h => hroom h.2, stored?, if_neg (by omega)]
        exact .nothing (by omega)
    · rw [if_neg fun h => hsmaller h.1]
      exact writesBest_stored hsrc (by omega)
  · rw [if_neg hpackable]
    refine writesBest_stored hsrc ?_
    unfold bestSize
    rw [if_pos ((isPackable_eq_false_iff hlevel).mp (Bool.eq_false_iff.mpr hpackable))]

/-! ## The law -/

/-- What a compression reports and leaves in the destination. -/
structure SizeLaw (b : Backend) (p : Params) (src dest : Bytes) (r : Compression ChunkCodec) : Prop where
  /-- The smallest chunk is written if there is room for it, and its header records its size and kind. -/
  fits : bestSize b p src ≤ dest.size → r.result = .ok (bestSize b p src) ∧
    ∃ h, Header.read (r.dest.extract 0 (bestSize b p src)) = .ok h ∧
      h.chunkSize.toNat = bestSize b p src ∧ (h.isStored = true ↔ bestSize b p src = src.size + 16)
  tooLarge : dest.size < bestSize b p src → r.result = .ok 0
  size_dest : r.dest.size = dest.size
  /-- Sixteen bytes more than the source are always enough. -/
  enough : src.size + maxOverhead ≤ dest.size →
    ∃ n, r.result = .ok n ∧ 0 < n ∧ n ≤ src.size + maxOverhead
  /-- Zero is reported only if there is room for neither kind of chunk. -/
  zero : r.result = .ok 0 →
    dest.size < src.size + 16 ∧ (0 < p.level → 32 ≤ src.size → dest.size < packedCost b p src)

theorem bestSize_le (b : Backend) (p : Params) (src : Bytes) : bestSize b p src ≤ src.size + 16 := by
  unfold bestSize
  split
  · exact Nat.le_refl _
  · exact Nat.min_le_left _ _

theorem bestSize_le_packedCost (b : Backend) {p : Params} {src : Bytes} (hlevel : 0 < p.level)
    (hsrc : 32 ≤ src.size) : bestSize b p src ≤ packedCost b p src := by
  unfold bestSize
  rw [if_neg (by omega)]
  exact Nat.min_le_right _ _

theorem bestSize_pos (b : Backend) (p : Params) (src : Bytes) : 0 < bestSize b p src := by
  unfold bestSize packedCost
  split <;> omega

theorem size_law {bs : Backends} {s : ChunkCodec} {p : Params} {src dest : Bytes}
    (hsrc : src.size ≤ maxSourceSize) (hlevel : 0 ≤ p.level ∧ p.level ≤ 9) (htype : 1 ≤ p.typeSize)
    (hdest : 16 ≤ dest.size) (hencodes : isPackable p src = true → Encodes (bs s.compressor) p src) :
    SizeLaw (bs s.compressor) p src dest (ChunkCodec.compress bs s p src dest) := by
  have hwrites := writesBest_writeChecked (c := s.compressor) (r := dest.size) hsrc hlevel.1 hencodes
  rw [← write_eq_writeChecked hlevel htype hsrc hdest] at hwrites
  have hle := bestSize_le (bs s.compressor) p src
  have hpos := bestSize_pos (bs s.compressor) p src
  rw [ChunkCodec.compress_eq]
  generalize write bs s.compressor p src dest.size = written at hwrites
  cases hwrites with
  | chunk hroom chunk hbest =>
    obtain ⟨hsize, hheader⟩ := hbest
    rw [← hsize] at hroom hle hpos
    constructor
    · intro _
      refine ⟨congrArg Except.ok hsize, ?_⟩
      rw [← hsize] at hheader ⊢
      rw [Bytes.extract_overlay]
      exact hheader
    · exact fun h => absurd hroom (Nat.not_le.mpr (hsize ▸ h))
    · exact Bytes.size_overlay hroom
    · exact fun _ => ⟨chunk.size, rfl, hpos, hle⟩
    · intro h
      exact absurd (Except.ok.inj h) (Nat.ne_of_gt hpos)
  | nothing hroom =>
    constructor
    · exact fun h => absurd h (Nat.not_le.mpr hroom)
    · exact fun _ => rfl
    · rfl
    · exact fun h => absurd (Nat.le_trans hle h) (Nat.not_le.mpr hroom)
    · refine fun _ => ⟨by omega, fun h h' => ?_⟩
      exact Nat.lt_of_lt_of_le hroom (bestSize_le_packedCost _ h h')

/-- Header, two table entries, two lengths, 25 bytes for the words and the odd byte. -/
theorem size_law_thirteenWords :
    let p : Params := ⟨5, .byte, 4⟩
    let dest : Bytes := Array.replicate 60 0
    thirteenWords.size ≤ maxSourceSize ∧ (0 ≤ p.level ∧ p.level ≤ 9) ∧ 1 ≤ p.typeSize ∧ 16 ≤ dest.size ∧
      Encodes wordsBackend p thirteenWords ∧ bestSize wordsBackend p thirteenWords = 58 ∧
        SizeLaw wordsBackend p thirteenWords dest
          (ChunkCodec.compress (fun _ => wordsBackend) {} p thirteenWords dest) := by
  intro p dest
  have hsrc : thirteenWords.size ≤ maxSourceSize := by decide
  have hlevel : 0 ≤ p.level ∧ p.level ≤ 9 := by decide
  have hdest : 16 ≤ dest.size := by decide
  have hencodes : Encodes wordsBackend p thirteenWords := fun _ _ => ⟨_, rfl⟩
  have hbest : bestSize wordsBackend p thirteenWords = 58 := by
    unfold p
    cbv
  exact ⟨hsrc, hlevel, by decide, hdest, hencodes, hbest,
    @size_law (fun _ => wordsBackend) {} p thirteenWords dest hsrc hlevel (by decide) hdest fun _ => hencodes⟩

end FramePress.Chunk
