import FramePress.Proofs.Chunk.Geometry
import FramePress.Proofs.Chunk.InPlace
import FramePress.Proofs.Shuffle.Inverse

/-! # Chunks, written and read

* `expands_of_packBlock`: a block that was written is read back, packed or not.
* `read_packed`, `read_stored`: both kinds of chunk give their source.
* `writeChecked_of_write`, `write_cases`: what a call that is not refused has passed, and which chunk it writes.
* `read_of_write`, `read_compress`: that chunk gives its source.
-/

namespace FramePress.Chunk
set_option autoImplicit false

/-! ## Blocks -/

theorem map_getD_range' {α : Type} (l : List α) (d : α) :
    (List.range' 0 l.length).map (fun k => l.getD k d) = l := by
  refine List.ext_getElem (by simp) fun i hi hi' => ?_
  simp [hi']

theorem expands_of_packBlock {bs : Backends} {c : Compressor} (hf : (bs c).Faithful) {level typeSize : Nat}
    {mode : ShuffleMode} {raw block : Bytes} (h : packBlock (bs c) level mode typeSize raw = some block) :
    Expands bs c raw.size block (shuffle mode typeSize raw) := by
  have hsize := size_shuffle mode typeSize raw
  obtain ⟨packed, hpack, hblock⟩ := Option.map_eq_some_iff.mp h
  refine ⟨hsize, ?_⟩
  by_cases hlt : packed.size < raw.size
  · rw [if_pos hlt] at hblock
    subst hblock
    rw [if_neg (Nat.ne_of_lt hlt), ← hsize]
    exact hf _ _ _ hpack (hsize ▸ hlt)
  · rw [if_neg hlt] at hblock
    subst hblock
    rw [if_pos hsize]

/-- The blocks that a source is cut into. -/
def rawBlocks (p : Params) (src : Bytes) : List Bytes :=
  src.pieces (blockSize p.level.toNat (effectiveTypeSize p.typeSize) src.size)

theorem size_getElem_rawBlocks {p : Params} {src : Bytes} {i : Nat} (h : i < (rawBlocks p src).length) :
    (rawBlocks p src)[i].size = min (blockSize p.level.toNat (effectiveTypeSize p.typeSize) src.size)
      (src.size - i * blockSize p.level.toNat (effectiveTypeSize p.typeSize) src.size) :=
  Bytes.size_getElem_pieces src _ i h

theorem join_rawBlocks (p : Params) (src : Bytes) : Bytes.join (rawBlocks p src) = src :=
  Bytes.join_pieces src (blockSize_pos _ _ _)

/-- The stored forms of the blocks of a source. -/
def Packs (b : Backend) (p : Params) (src : Bytes) (blocks : List Bytes) : Prop :=
  packBlocks b p.level.toNat p.shuffle (effectiveTypeSize p.typeSize) src = some blocks

variable {bs : Backends} {c : Compressor} {p : Params} {src : Bytes} {blocks : List Bytes}

theorem Packs.length_eq {b : Backend} (h : Packs b p src blocks) :
    blocks.length = (rawBlocks p src).length := by
  have hlength := congrArg List.length (map_of_mapM h)
  rw [List.length_map, List.length_map] at hlength
  exact hlength.symm

theorem Packs.packBlock {b : Backend} (h : Packs b p src blocks) {i : Nat} (hi : i < blocks.length)
    (hi' : i < (rawBlocks p src).length) :
    packBlock b p.level.toNat p.shuffle (effectiveTypeSize p.typeSize) (rawBlocks p src)[i] =
      some blocks[i] := by
  have hget := congrArg (·[i]?) (map_of_mapM h)
  change ((rawBlocks p src).map _)[i]? = _ at hget
  rw [List.getElem?_map, List.getElem?_map, List.getElem?_eq_getElem hi, List.getElem?_eq_getElem hi'] at hget
  exact Option.some.inj hget

/-! ## Packed chunks -/

/-- The header of a packed chunk. -/
def packedHeader (c : Compressor) (p : Params) (rawSize : Nat) (blocks : List Bytes) : Header where
  version := formatVersion
  compressorVersion := compressorVersion
  flags := packedFlags c p.shuffle
  typeSize := (effectiveTypeSize p.typeSize).toUInt8
  rawSize := rawSize.toUInt32
  blockSize := (blockSize p.level.toNat (effectiveTypeSize p.typeSize) rawSize).toUInt32
  chunkSize := (packedSize blocks).toUInt32

theorem packed_eq (c : Compressor) (p : Params) (rawSize : Nat) (blocks : List Bytes) :
    packed c p rawSize blocks = packedBytes (packedHeader c p rawSize blocks) blocks := rfl

theorem size_packed (c : Compressor) (p : Params) (rawSize : Nat) (blocks : List Bytes) :
    (packed c p rawSize blocks).size = packedSize blocks := size_packedBytes

theorem ofBytes_packed (c : Compressor) (p : Params) (rawSize : Nat) (blocks : List Bytes) :
    Header.ofBytes (packed c p rawSize blocks) = packedHeader c p rawSize blocks := by
  rw [packed_eq, packedBytes_eq, Array.append_assoc]
  exact Header.ofBytes_toBytes _ _

/-- The sizes that headers record fit into their words. -/
theorem toNat_sizeWord {n : Nat} (h : n ≤ headerSize + maxSourceSize) : n.toUInt32.toNat = n :=
  UInt32.toNat_ofNat_of_lt' (Nat.lt_of_le_of_lt h (by decide))

section Packed
variable (hsrc : src.size ≤ maxSourceSize)
include hsrc

/-- The header of a packed chunk records the size of the chunk. -/
theorem recordedSize_packed (c : Compressor) (p : Params) (hsize : packedSize blocks < headerSize + src.size) :
    ((packed c p src.size blocks).u32At 12).toNat = (packed c p src.size blocks).size := by
  have hword : (packed c p src.size blocks).u32At 12 = (packedSize blocks).toUInt32 :=
    congrArg Header.chunkSize (ofBytes_packed c p src.size blocks)
  rw [hword, size_packed]
  exact toNat_sizeWord (by omega)

theorem toNat_blockSize (c : Compressor) (p : Params) (blocks : List Bytes) :
    (packedHeader c p src.size blocks).blockSize.toNat =
      blockSize p.level.toNat (effectiveTypeSize p.typeSize) src.size := by
  refine toNat_sizeWord (Nat.le_trans (blockSize_le _ _ _) ?_)
  have hone : 1 ≤ maxSourceSize := by decide
  omega

/-- The raw sizes that the reader computes are those of the raw blocks. -/
theorem rawBlockSize_packedHeader {i : Nat} (hi : i < (rawBlocks p src).length) :
    (packedHeader c p src.size blocks).rawBlockSize i = (rawBlocks p src)[i].size := by
  have hraw : (packedHeader c p src.size blocks).rawSize.toNat = src.size :=
    toNat_sizeWord (Nat.le_trans hsrc (Nat.le_add_left _ _))
  unfold Header.rawBlockSize
  rw [size_getElem_rawBlocks, toNat_blockSize hsrc, hraw]

theorem blockCount_packedHeader :
    (packedHeader c p src.size blocks).blockCount = (rawBlocks p src).length := by
  have hraw : (packedHeader c p src.size blocks).rawSize.toNat = src.size :=
    toNat_sizeWord (Nat.le_trans hsrc (Nat.le_add_left _ _))
  unfold Header.blockCount rawBlocks
  rw [Bytes.length_pieces, toNat_blockSize hsrc, hraw]

variable (hf : (bs c).Faithful) (hblocks : Packs (bs c) p src blocks)
  (hsize : packedSize blocks < headerSize + src.size)
include hf hblocks hsize

theorem readBlock_packed {i : Nat} (hi : i < (rawBlocks p src).length) :
    readBlock bs (packedHeader c p src.size blocks) c (packed c p src.size blocks) i =
      .ok (rawBlocks p src)[i] := by
  have hi' : i < blocks.length := hblocks.length_eq ▸ hi
  have hword : packedSize blocks < UInt32.size := by
    have hlimit : headerSize + maxSourceSize < UInt32.size := by decide
    omega
  have htype : (packedHeader c p src.size blocks).typeSize.toNat = effectiveTypeSize p.typeSize :=
    UInt8.toNat_ofNat_of_lt' (Nat.lt_of_le_of_lt (effectiveTypeSize_le _) (by decide))
  rw [readBlock_eq_ok]
  refine ⟨blocks[i], shuffle p.shuffle (effectiveTypeSize p.typeSize) (rawBlocks p src)[i], ?_, ?_, ?_⟩
  · exact storedBlock_packedBytes hi' hword
  · rw [rawBlockSize_packedHeader hsrc hi]
    exact expands_of_packBlock hf (hblocks.packBlock hi' hi)
  · rw [Header.shuffleMode_of_packed rfl, htype, unshuffle_shuffle]

theorem readPacked_packed :
    readPacked bs (packedHeader c p src.size blocks) (packed c p src.size blocks) = .ok src := by
  have hpos := blockSize_pos p.level.toNat (effectiveTypeSize p.typeSize) src.size
  rw [readPacked_eq_ok]
  refine ⟨c, Header.compressor?_of_packed rfl, ?_, ?_⟩
  · intro hzero
    rw [← toNat_blockSize hsrc c p blocks, hzero] at hpos
    exact Nat.lt_irrefl 0 hpos
  · have hread (k : Nat) (hk : k < (rawBlocks p src).length) :
        readBlock bs (packedHeader c p src.size blocks) c (packed c p src.size blocks) k =
          .ok ((rawBlocks p src).getD k #[]) := by
      rw [readBlock_packed hsrc hf hblocks hsize hk, List.getD_eq_getElem?_getD,
        List.getElem?_eq_getElem hk, Option.getD_some]
    rw [blockCount_packedHeader hsrc, readBlocks_of_forall fun k _ hk => hread k (by omega),
      map_getD_range', join_rawBlocks, Array.empty_append]

theorem read_packed : read bs (packed c p src.size blocks) = .ok src := by
  have hchunk := recordedSize_packed hsrc c p hsize
  rw [read_eq_ok]
  refine ⟨?_, ?_, Nat.le_of_eq hchunk, ?_⟩
  · rw [size_packed, packedSize, headerSize]
    omega
  · exact congrArg Header.version (ofBytes_packed c p src.size blocks)
  dsimp only
  rw [ofBytes_packed, Header.isStored_of_packed rfl, hchunk, Array.extract_size, if_neg Bool.false_ne_true]
  exact readPacked_packed hsrc hf hblocks hsize

end Packed

/-! ## Stored chunks -/

/-- The header of a stored chunk. -/
def storedHeader (c : Compressor) (p : Params) (rawSize : Nat) : Header where
  version := formatVersion
  compressorVersion := compressorVersion
  flags := storedFlags c
  typeSize := (effectiveTypeSize p.typeSize).toUInt8
  rawSize := rawSize.toUInt32
  blockSize := rawSize.toUInt32
  chunkSize := (headerSize + rawSize).toUInt32

theorem stored_eq (c : Compressor) (p : Params) (src : Bytes) :
    stored c p src = (storedHeader c p src.size).toBytes ++ src := rfl

@[simp] theorem size_stored (c : Compressor) (p : Params) (src : Bytes) :
    (stored c p src).size = headerSize + src.size := size_storedBytes src

theorem ofBytes_stored (c : Compressor) (p : Params) (src : Bytes) :
    Header.ofBytes (stored c p src) = storedHeader c p src.size := Header.ofBytes_toBytes _ _

theorem recordedSize_stored (c : Compressor) (p : Params) (hsrc : src.size ≤ maxSourceSize) :
    ((stored c p src).u32At 12).toNat = (stored c p src).size := by
  have hword : (stored c p src).u32At 12 = (headerSize + src.size).toUInt32 :=
    congrArg Header.chunkSize (ofBytes_stored c p src)
  rw [hword, size_stored]
  exact toNat_sizeWord (Nat.add_le_add_left hsrc _)

theorem read_stored (hsrc : src.size ≤ maxSourceSize) : read bs (stored c p src) = .ok src := by
  have hchunk := recordedSize_stored c p hsrc
  rw [size_stored] at hchunk
  have hraw : (storedHeader c p src.size).rawSize.toNat = src.size :=
    toNat_sizeWord (Nat.le_trans hsrc (Nat.le_add_left _ _))
  rw [read_eq_ok, hchunk]
  refine ⟨?_, ?_, ?_, ?_⟩
  · rw [size_stored]
    exact Nat.le_add_right _ _
  · exact congrArg Header.version (ofBytes_stored c p src)
  · exact Nat.le_of_eq (size_stored c p src).symm
  dsimp only
  rw [ofBytes_stored, Header.isStored_of_stored rfl, if_pos rfl, readStored_eq_ok (by simp), hraw]
  refine ⟨Nat.le_refl _, ?_⟩
  -- the source is what stands behind the header
  have hslice := Bytes.slice?_middle (storedHeader c p src.size).toBytes src #[]
  rw [Array.append_empty, ← stored_eq, Header.size_toBytes, Bytes.slice?_eq_some] at hslice
  exact hslice.2

/-! ## Chunks that were written -/

theorem stored?_eq_some {room : Nat} {chunk : Bytes} :
    stored? c p src room = some chunk ↔ headerSize + src.size ≤ room ∧ stored c p src = chunk := by
  unfold stored?
  by_cases h : headerSize + src.size ≤ room
  · rw [if_pos h, Option.some_inj, and_iff_right h]
  · rw [if_neg h]
    exact ⟨fun h' => (nomatch h'), fun h' => absurd h'.1 h⟩

/-- What is not refused at once has good parameters. -/
theorem writeChecked_of_write {room : Nat} {chunk : Option Bytes} (h : write bs c p src room = .ok chunk) :
    src.size ≤ maxSourceSize ∧ (0 ≤ p.level ∧ p.level ≤ 9) ∧ 0 < p.typeSize ∧ maxOverhead ≤ room ∧
      writeChecked (bs c) c p src room = .ok chunk := by
  unfold write at h
  split at h
  · cases h
  rename_i hsrc
  split at h
  · cases h
  rename_i hlevel
  split at h
  · cases h
  rename_i htype
  split at h
  · cases h
  rename_i hroom
  exact ⟨by omega, by omega, by omega, by omega, h⟩

/-- Which chunk is written, and why. -/
theorem write_cases {room : Nat} {chunk : Bytes} (h : write bs c p src room = .ok (some chunk)) :
    src.size ≤ maxSourceSize ∧
      ((headerSize + src.size ≤ room ∧ stored c p src = chunk) ∨
        ∃ blocks, Packs (bs c) p src blocks ∧ packedSize blocks < headerSize + src.size ∧
          packedSize blocks ≤ room ∧ packed c p src.size blocks = chunk) := by
  obtain ⟨hsrc, -, -, -, h⟩ := writeChecked_of_write h
  refine ⟨hsrc, ?_⟩
  unfold writeChecked at h
  split at h
  · split at h
    · cases h
    · rename_i blocks hblocks
      split at h
      · rename_i hsize
        cases h
        exact .inr ⟨blocks, hblocks, hsize.1, hsize.2, rfl⟩
      · exact .inl (stored?_eq_some.mp (Except.ok.inj h))
  · exact .inl (stored?_eq_some.mp (Except.ok.inj h))

/-- What the encoder makes of a block when its filter has been applied. -/
def encodedBlock (b : Backend) (p : Params) (raw : Bytes) : Option Bytes :=
  b.pack p.level.toNat (shuffle p.shuffle (effectiveTypeSize p.typeSize) raw)

/-- The encoder fails on no block of a source. -/
def Encodes (b : Backend) (p : Params) (src : Bytes) : Prop :=
  ∀ raw ∈ rawBlocks p src, ∃ packed, encodedBlock b p raw = some packed

theorem exists_packs {b : Backend} {p : Params} {src : Bytes} (h : Encodes b p src) :
    ∃ blocks, Packs b p src blocks := by
  refine exists_mapM fun raw hraw => ?_
  obtain ⟨block, hblock⟩ := h raw hraw
  exact ⟨_, Option.map_eq_some_iff.mpr ⟨block, hblock, rfl⟩⟩

/-- With good parameters nothing is refused at once. -/
theorem write_eq_writeChecked {room : Nat} (hlevel : 0 ≤ p.level ∧ p.level ≤ 9) (htype : 0 < p.typeSize)
    (hsrc : src.size ≤ maxSourceSize) (hroom : maxOverhead ≤ room) :
    write bs c p src room = writeChecked (bs c) c p src room := by
  unfold write
  rw [if_neg (Nat.not_lt.mpr hsrc), if_neg (by omega), if_neg (by omega), if_neg (Nat.not_lt.mpr hroom)]

/-- With good parameters and room for a stored chunk there is a chunk, unless the encoder fails. -/
theorem exists_write {room : Nat} (hlevel : 0 ≤ p.level ∧ p.level ≤ 9) (htype : 0 < p.typeSize)
    (hsrc : src.size ≤ maxSourceSize) (hroom : headerSize + src.size ≤ room)
    (htotal : 0 < p.level → ∀ raw, ∃ block, (bs c).pack p.level.toNat raw = some block) :
    ∃ chunk, write bs c p src room = .ok (some chunk) := by
  have hstored : stored? c p src room = some (stored c p src) := stored?_eq_some.mpr ⟨hroom, rfl⟩
  have hover : maxOverhead ≤ room := Nat.le_trans (Nat.le_add_right _ _) hroom
  rw [write_eq_writeChecked hlevel htype hsrc hover]
  unfold writeChecked
  by_cases hpackable : isPackable p src = true
  · have hpositive : 0 < p.level := of_decide_eq_true (Bool.and_eq_true_iff.mp hpackable).1
    have hencodes : Encodes (bs c) p src := fun raw _ => htotal hpositive _
    obtain ⟨blocks, hblocks⟩ := exists_packs hencodes
    unfold Packs at hblocks
    rw [if_pos hpackable, hblocks]
    dsimp only
    split
    · exact ⟨_, rfl⟩
    · exact ⟨_, congrArg Except.ok hstored⟩
  · rw [if_neg hpackable]
    exact ⟨_, congrArg Except.ok hstored⟩

theorem read_of_write {room : Nat} {chunk : Bytes} (hf : (bs c).Faithful)
    (h : write bs c p src room = .ok (some chunk)) : read bs chunk = .ok src := by
  obtain ⟨hsrc, ⟨-, rfl⟩ | ⟨blocks, hblocks, hsize, -, rfl⟩⟩ := write_cases h
  · exact read_stored hsrc
  · exact read_packed hsrc hf hblocks hsize

theorem recordedSize_of_write {room : Nat} {chunk : Bytes}
    (h : write bs c p src room = .ok (some chunk)) : (chunk.u32At 12).toNat = chunk.size := by
  obtain ⟨hsrc, ⟨-, rfl⟩ | ⟨blocks, -, hsize, -, rfl⟩⟩ := write_cases h
  · exact recordedSize_stored c p hsrc
  · exact recordedSize_packed hsrc c p hsize

theorem size_of_write {room : Nat} {chunk : Bytes} (h : write bs c p src room = .ok (some chunk)) :
    headerSize ≤ chunk.size ∧ chunk.size ≤ headerSize + src.size ∧ chunk.size ≤ room := by
  obtain ⟨-, ⟨hroom, rfl⟩ | ⟨blocks, -, hsize, hroom, rfl⟩⟩ := write_cases h
  · rw [size_stored]
    exact ⟨Nat.le_add_right _ _, Nat.le_refl _, hroom⟩
  · rw [size_packed]
    refine ⟨?_, Nat.le_of_lt hsize, hroom⟩
    unfold packedSize
    omega

/-- What the codec wrote to the front of a destination is read back as the source.  Of the compressor
only this is used: a block that it made shorter is unpacked to what it was. -/
theorem read_compress {bs : Backends} {s : ChunkCodec} {p : Params} {src dest : Bytes} {n : Nat}
    (hf : (bs s.compressor).Faithful) (hn : 0 < n)
    (hresult : (ChunkCodec.compress bs s p src dest).result = .ok n) :
    read bs ((ChunkCodec.compress bs s p src dest).dest.extract 0 n) = .ok src := by
  obtain ⟨chunk, hwrite, -, hfront⟩ := written_of_compress hn hresult
  rw [hfront]
  exact read_of_write hf hwrite

/-! ## A source of two blocks -/

/-- A backend that knows the packed form of one block; every other block only gets longer. -/
def oneBlock (raw packed : Bytes) : Backend where
  pack _ block := some (if block = raw then packed else #[16] ++ block)
  unpack block _ := if block = packed then some raw else none

theorem oneBlock_faithful (raw packed : Bytes) : (oneBlock raw packed).Faithful := by
  intro level block short hpack hlt
  cases hpack
  dsimp only [oneBlock] at hlt ⊢
  by_cases h : block = raw
  · rw [if_pos h, if_pos rfl, h]
  · rw [if_neg h, Array.size_append] at hlt
    omega

/-- Thirteen words, and the first byte of another. -/
def thirteenWords : Bytes :=
  #[0, 0, 0, 0, 1, 0, 0, 0, 2, 0, 0, 0, 3, 0, 0, 0, 4, 0, 0, 0, 5, 0, 0, 0, 6, 0, 0, 0, 7, 0, 0, 0,
    8, 0, 0, 0, 9, 0, 0, 0, 10, 0, 0, 0, 11, 0, 0, 0, 12, 0, 0, 0, 13]

/-- The words, their bytes grouped, and the LZ4 form of that. -/
def wordsBackend : Backend :=
  oneBlock
    #[0, 1, 2, 3, 4, 5, 6, 7, 8, 9, 10, 11, 12, 0, 0, 0, 0, 0, 0, 0, 0, 0, 0, 0, 0, 0, 0, 0, 0, 0, 0, 0,
      0, 0, 0, 0, 0, 0, 0, 0, 0, 0, 0, 0, 0, 0, 0, 0, 0, 0, 0, 0]
    #[239, 0, 1, 2, 3, 4, 5, 6, 7, 8, 9, 10, 11, 12, 0, 1, 0, 13, 96, 0, 0, 0, 0, 0, 0]

/-- The words are packed and the odd byte is not. -/
theorem compress_thirteenWords :
    ChunkCodec.compress (fun _ => wordsBackend) {} ⟨5, .byte, 4⟩ thirteenWords (Array.replicate 60 0) =
      ⟨.ok 58, #[2, 1, 33, 4, 53, 0, 0, 0, 52, 0, 0, 0, 58, 0, 0, 0, 24, 0, 0, 0, 53, 0, 0, 0,
        25, 0, 0, 0, 239, 0, 1, 2, 3, 4, 5, 6, 7, 8, 9, 10, 11, 12, 0, 1, 0, 13, 96, 0, 0, 0, 0, 0, 0,
        1, 0, 0, 0, 13, 0, 0], {}⟩ := by
  rw [ChunkCodec.compress_eq]
  cbv

/-- The words are read back from a destination too small for a stored chunk. -/
theorem read_compress_thirteenWords :
    let r := ChunkCodec.compress (fun _ => wordsBackend) {} ⟨5, .byte, 4⟩ thirteenWords
      (Array.replicate 60 0)
    wordsBackend.Faithful ∧ 0 < 58 ∧ r.result = .ok 58 ∧
      read (fun _ => wordsBackend) (r.dest.extract 0 58) = .ok thirteenWords := by
  intro r
  have hf : wordsBackend.Faithful := oneBlock_faithful _ _
  have hresult : r.result = .ok 58 := congrArg Compression.result compress_thirteenWords
  exact ⟨hf, by omega, hresult, read_compress hf (by omega) hresult⟩

end FramePress.Chunk
