import FramePress.Proofs.Chunk.Destination
import FramePress.Proofs.Chunk.Grammar
import FramePress.Proofs.Chunk.InPlace

/-! # The layout of a chunk that was written

A chunk is told from its bytes alone: fields, table entries and lengths are read off it.  Nothing here is
assumed of the encoder, which may make a block shorter, longer, or nothing at all.

* `Tiles`: ranges that follow each other, none of them leaving a gap or reaching into the next.
* `Records`, `PackedLayout`, `StoredLayout`: what a header records, and the two kinds of chunk.
* `tiles_packed`: header, table and blocks make up a packed chunk.
* `compress_layout`: every chunk has such a layout, and is written by writes inside the destination.
-/

namespace FramePress.Chunk
set_option autoImplicit false

open Bytes

/-! ## Ranges that follow each other -/

/-- Ranges, each a start and a length, that go from `first` to `last` without gap or overlap. -/
def Tiles : Nat → List (Nat × Nat) → Nat → Prop
  | first, [], last => first = last
  | first, (start, len) :: rest, last => start = first ∧ Tiles (start + len) rest last

theorem tiles_append {first middle last : Nat} {l m : List (Nat × Nat)} (hl : Tiles first l middle)
    (hm : Tiles middle m last) : Tiles first (l ++ m) last := by
  induction l generalizing first with
  | nil =>
    cases hl
    exact hm
  | cons range rest ih =>
    obtain ⟨hstart, hrest⟩ := hl
    exact ⟨hstart, ih hrest⟩

/-- Ranges of which each starts where the one before it ends. -/
theorem tiles_range (start len : Nat → Nat) {count : Nat}
    (h : ∀ i < count, start (i + 1) = start i + len i) :
    Tiles (start 0) ((List.range count).map fun i => (start i, len i)) (start count) := by
  induction count with
  | zero => rfl
  | succ count ih =>
    have hfront := ih fun i hi => h i (Nat.lt_succ_of_lt hi)
    have hlast : Tiles (start count) [(start count, len count)] (start (count + 1)) :=
      ⟨rfl, (h count (Nat.lt_succ_self count)).symm⟩
    rw [List.range_succ, List.map_append]
    exact tiles_append hfront hlast

/-! ## What a chunk says -/

/-- The header, the table entries and the blocks, each with its length in front. -/
def ranges (b : Bytes) : List (Nat × Nat) :=
  (0, 16) :: ((List.range (Grammar.blockCount b)).map fun i => (16 + 4 * i, 4)) ++
    (List.range (Grammar.blockCount b)).map fun i => (blockStart b i, 4 + blockLength b i)

/-- The stored blocks of a chunk. -/
def storedBlocks (b : Bytes) : List Bytes := (List.range (Grammar.blockCount b)).map (blockBytes b)

/-- What the header of a chunk records, of either kind. -/
structure Records (c : Compressor) (p : Params) (src b : Bytes) : Prop where
  version : b.byteAt 0 = 2
  format : b.byteAt 2 >>> 5 = c.formatCode
  /-- An element size that takes more than one byte counts as one. -/
  typeSize : (b.byteAt 3).toNat = if 255 < p.typeSize then 1 else p.typeSize
  rawSize : Grammar.rawSize b = src.size
  chunkSize : Grammar.chunkSize b = b.size

structure PackedLayout (p : Params) (src b : Bytes) : Prop where
  byteFlag : Grammar.IsSet b 1 ↔ p.shuffle = .byte
  bitFlag : Grammar.IsSet b 4 ↔ p.shuffle = .bit
  blockSize : Grammar.blockSize b = Chunk.blockSize p.level.toNat (effectiveTypeSize p.typeSize) src.size
  nonempty : 0 < Grammar.blockCount b
  first : blockStart b 0 = 16 + 4 * Grammar.blockCount b
  next : ∀ i, i + 1 < Grammar.blockCount b → blockStart b (i + 1) = blockStart b i + 4 + blockLength b i
  last : ∀ i, i + 1 = Grammar.blockCount b → blockStart b i + 4 + blockLength b i = b.size
  tiles : Tiles 0 (ranges b) b.size
  length_le : ∀ i < Grammar.blockCount b, blockLength b i ≤ Grammar.rawLength b i
  length_eq_iff : ∀ i < Grammar.blockCount b, blockLength b i = Grammar.rawLength b i ↔
    blockBytes b i = shuffle p.shuffle (b.byteAt 3).toNat
      (src.extract (i * Grammar.blockSize b) ((i + 1) * Grammar.blockSize b))

structure StoredLayout (src b : Bytes) : Prop where
  byteFlag : ¬ Grammar.IsSet b 1
  bitFlag : ¬ Grammar.IsSet b 4
  blockSize : Grammar.blockSize b = src.size
  body : b.extract 16 b.size = src

variable {bs : Backends} {c : Compressor} {p : Params} {src : Bytes} {blocks : List Bytes}

/-! ## Fields of the header -/

theorem typeSize_word (p : Params) :
    (effectiveTypeSize p.typeSize).toUInt8.toNat = if 255 < p.typeSize then 1 else p.typeSize :=
  UInt8.toNat_ofNat_of_lt' (Nat.lt_of_le_of_lt (effectiveTypeSize_le _) (by decide))

theorem isSet_packedFlags {b : Bytes} {mode : ShuffleMode} (hflags : b.byteAt 2 = packedFlags c mode) :
    ¬ Grammar.IsSet b 2 ∧ (Grammar.IsSet b 1 ↔ mode = .byte) ∧ (Grammar.IsSet b 4 ↔ mode = .bit) ∧
      b.byteAt 2 >>> 5 = c.formatCode := by
  unfold Grammar.IsSet
  rw [hflags]
  cases c <;> cases mode <;> decide

theorem isSet_storedFlags {b : Bytes} (hflags : b.byteAt 2 = storedFlags c) :
    Grammar.IsSet b 2 ∧ ¬ Grammar.IsSet b 1 ∧ ¬ Grammar.IsSet b 4 ∧ b.byteAt 2 >>> 5 = c.formatCode := by
  unfold Grammar.IsSet
  rw [hflags]
  cases c <;> decide

theorem isSet_stored (c : Compressor) (p : Params) (src : Bytes) : Grammar.IsSet (stored c p src) 2 :=
  (isSet_storedFlags (congrArg Header.flags (ofBytes_stored c p src))).1

/-! ## Packed chunks -/

theorem position_succ {i : Nat} (hi : i < blocks.length) :
    position blocks (i + 1) = position blocks i + (4 + blocks[i].size) := by
  have htake : total (blocks.take (i + 1)) = total (blocks.take i) + blocks[i].size := by
    rw [List.take_succ_eq_append_getElem hi, total_append, total_cons, total_nil, Nat.add_zero]
  unfold position
  omega

theorem position_length (blocks : List Bytes) : position blocks blocks.length = packedSize blocks := by
  unfold position packedSize
  rw [List.take_length]
  omega

/-- A block is kept as it is exactly if it is as long as its raw form. -/
theorem size_packBlock {b : Backend} {level typeSize : Nat} {mode : ShuffleMode} {raw block : Bytes}
    (h : packBlock b level mode typeSize raw = some block) :
    block.size ≤ raw.size ∧ (block.size = raw.size ↔ block = shuffle mode typeSize raw) := by
  have hsize := size_shuffle mode typeSize raw
  obtain ⟨packed, -, hblock⟩ := Option.map_eq_some_iff.mp h
  by_cases hlt : packed.size < raw.size
  · rw [if_pos hlt] at hblock
    subst hblock
    refine ⟨Nat.le_of_lt hlt, ?_⟩
    constructor
    · intro heq
      omega
    · intro heq
      rw [heq, hsize]
  · rw [if_neg hlt] at hblock
    subst hblock
    exact ⟨Nat.le_of_eq hsize, fun _ => rfl, fun _ => hsize⟩

section Header
variable (c : Compressor) (p : Params) (src : Bytes) (blocks : List Bytes)

theorem byteAt_packed_flags : (packed c p src.size blocks).byteAt 2 = packedFlags c p.shuffle :=
  congrArg Header.flags (ofBytes_packed c p src.size blocks)

theorem not_isSet_packed : ¬ Grammar.IsSet (packed c p src.size blocks) 2 :=
  (isSet_packedFlags (byteAt_packed_flags c p src blocks)).1

theorem byteAt_packed_typeSize :
    (packed c p src.size blocks).byteAt 3 = (effectiveTypeSize p.typeSize).toUInt8 :=
  congrArg Header.typeSize (ofBytes_packed c p src.size blocks)

theorem toNat_typeSize_packed :
    ((packed c p src.size blocks).byteAt 3).toNat = effectiveTypeSize p.typeSize :=
  (congrArg UInt8.toNat (byteAt_packed_typeSize c p src blocks)).trans (typeSize_word p)

variable {src} (hsrc : src.size ≤ maxSourceSize)
include hsrc

theorem rawSize_packed : Grammar.rawSize (packed c p src.size blocks) = src.size := by
  have hword := congrArg Header.rawSize (ofBytes_packed c p src.size blocks)
  exact (congrArg UInt32.toNat hword).trans (toNat_sizeWord (Nat.le_trans hsrc (Nat.le_add_left _ _)))

theorem blockSize_packed : Grammar.blockSize (packed c p src.size blocks) =
    blockSize p.level.toNat (effectiveTypeSize p.typeSize) src.size := by
  have hword := congrArg Header.blockSize (ofBytes_packed c p src.size blocks)
  exact (congrArg UInt32.toNat hword).trans (toNat_blockSize hsrc c p blocks)

theorem rawLength_packed {i : Nat} (hi : i < (rawBlocks p src).length) :
    Grammar.rawLength (packed c p src.size blocks) i = (rawBlocks p src)[i].size := by
  unfold Grammar.rawLength
  rw [rawSize_packed c p blocks hsrc, blockSize_packed c p blocks hsrc, size_getElem_rawBlocks]

end Header

section Packed
variable (hsrc : src.size ≤ maxSourceSize) (hblocks : Packs (bs c) p src blocks)
  (hsize : packedSize blocks < headerSize + src.size)

include hsrc hblocks in
theorem blockCount_packed : Grammar.blockCount (packed c p src.size blocks) = blocks.length := by
  unfold Grammar.blockCount
  rw [rawSize_packed c p blocks hsrc, blockSize_packed c p blocks hsrc, hblocks.length_eq]
  exact (length_pieces _ _).symm

include hsrc hsize in
theorem packedSize_lt : packedSize blocks < UInt32.size := by
  have hlimit : headerSize + maxSourceSize < UInt32.size := by decide
  omega

include hblocks hsize in
theorem length_pos : 0 < blocks.length := by
  refine Nat.pos_of_ne_zero ?_
  intro hnone
  -- without a block the source is empty, and the packed chunk is not smaller
  have hraw : (rawBlocks p src).length = 0 := hblocks.length_eq.symm.trans hnone
  have hempty : src = #[] := by
    rw [← join_rawBlocks p src, List.length_eq_zero_iff.mp hraw, join_nil]
  rw [hempty, Array.size_empty] at hsize
  unfold packedSize at hsize
  omega

include hsrc hsize in
theorem records_packed : Records c p src (packed c p src.size blocks) := by
  obtain ⟨-, -, -, hformat⟩ := isSet_packedFlags (byteAt_packed_flags c p src blocks)
  refine ⟨?_, hformat, ?_, rawSize_packed c p blocks hsrc, recordedSize_packed hsrc c p hsize⟩
  · exact congrArg Header.version (ofBytes_packed c p src.size blocks)
  · rw [byteAt_packed_typeSize, typeSize_word]

include hsrc hblocks hsize

theorem storedBlocks_packed : storedBlocks (packed c p src.size blocks) = blocks := by
  have hword := packedSize_lt hsrc hsize
  unfold storedBlocks
  rw [blockCount_packed hsrc hblocks]
  refine List.ext_getElem (by simp) ?_
  intro i hi hi'
  rw [List.getElem_map, List.getElem_range, packed_eq, blockBytes_packedBytes hi' hword]

theorem tiles_packed :
    Tiles 0 (ranges (packed c p src.size blocks)) (packed c p src.size blocks).size := by
  have hword := packedSize_lt hsrc hsize
  have hheader : Tiles 0 [(0, 16)] 16 := ⟨rfl, rfl⟩
  have htable : Tiles 16 ((List.range blocks.length).map fun i => (16 + 4 * i, 4)) (16 + 4 * blocks.length) := by
    have hentries : ∀ i < blocks.length, 16 + 4 * (i + 1) = 16 + 4 * i + 4 := fun i _ => rfl
    exact tiles_range (fun i => 16 + 4 * i) (fun _ => 4) hentries
  have hbodies : Tiles (position blocks 0) ((List.range blocks.length).map fun i =>
      (position blocks i, 4 + blockLength (packed c p src.size blocks) i)) (position blocks blocks.length) := by
    refine tiles_range (position blocks) _ ?_
    intro i hi
    rw [packed_eq, blockLength_packedBytes hi hword, position_succ hi]
  have hstarts : ((List.range blocks.length).map fun i =>
      (blockStart (packed c p src.size blocks) i, 4 + blockLength (packed c p src.size blocks) i)) =
      (List.range blocks.length).map fun i =>
        (position blocks i, 4 + blockLength (packed c p src.size blocks) i) := by
    refine List.map_congr_left ?_
    intro i hi
    rw [packed_eq, blockStart_packedBytes (List.mem_range.mp hi) hword]
  have hfirst : position blocks 0 = 16 + 4 * blocks.length := rfl
  unfold ranges
  rw [blockCount_packed hsrc hblocks, hstarts, size_packed, ← position_length]
  rw [hfirst] at hbodies
  exact tiles_append (tiles_append hheader htable) hbodies

/-- The stored length of a block, compared with its raw length. -/
theorem blockLength_packed {i : Nat} (hi : i < blocks.length) :
    let b := packed c p src.size blocks
    blockLength b i ≤ Grammar.rawLength b i ∧ (blockLength b i = Grammar.rawLength b i ↔
      blockBytes b i = shuffle p.shuffle (b.byteAt 3).toNat
        (src.extract (i * Grammar.blockSize b) ((i + 1) * Grammar.blockSize b))) := by
  intro b
  have hword := packedSize_lt hsrc hsize
  have hraw : i < (rawBlocks p src).length := hblocks.length_eq ▸ hi
  have hlength : blockLength b i = blocks[i].size := blockLength_packedBytes hi hword
  have hbytes : blockBytes b i = blocks[i] := blockBytes_packedBytes hi hword
  have htype : (b.byteAt 3).toNat = effectiveTypeSize p.typeSize := toNat_typeSize_packed c p src blocks
  have hcut : src.extract (i * Grammar.blockSize b) ((i + 1) * Grammar.blockSize b) = (rawBlocks p src)[i] := by
    rw [blockSize_packed c p blocks hsrc]
    exact (getElem_pieces src _ i hraw).symm
  rw [hlength, hbytes, htype, hcut, rawLength_packed c p blocks hsrc hraw]
  exact size_packBlock (hblocks.packBlock hi hraw)

theorem packedLayout_packed : PackedLayout p src (packed c p src.size blocks) := by
  have hword := packedSize_lt hsrc hsize
  have hcount := blockCount_packed hsrc hblocks
  obtain ⟨-, hbyte, hbit, -⟩ := isSet_packedFlags (byteAt_packed_flags c p src blocks)
  have hblockSize := blockSize_packed c p blocks hsrc
  have hstart : ∀ i < blocks.length, blockStart (packed c p src.size blocks) i = position blocks i :=
    fun i hi => blockStart_packedBytes hi hword
  have hlength : ∀ (i : Nat) (hi : i < blocks.length),
      blockLength (packed c p src.size blocks) i = blocks[i].size :=
    fun i hi => blockLength_packedBytes hi hword
  refine ⟨hbyte, hbit, hblockSize, ?_, ?_, ?_, ?_, tiles_packed hsrc hblocks hsize, ?_, ?_⟩
  · rw [hcount]
    exact length_pos hblocks hsize
  · rw [hcount, hstart 0 (length_pos hblocks hsize)]
    rfl
  · intro i hi
    rw [hcount] at hi
    have hi' : i < blocks.length := by omega
    rw [hstart _ hi, hstart i hi', hlength i hi', position_succ hi']
    omega
  · intro i hi
    rw [hcount] at hi
    have hi' : i < blocks.length := by omega
    rw [hstart i hi', hlength i hi', Nat.add_assoc, ← position_succ hi', hi, position_length, size_packed]
  · intro i hi
    exact (blockLength_packed hsrc hblocks hsize (hcount ▸ hi)).1
  · intro i hi
    exact (blockLength_packed hsrc hblocks hsize (hcount ▸ hi)).2

theorem packedInto?_packed {dest : Bytes} (hroom : packedSize blocks ≤ dest.size) :
    packedInto? (Header.ofBytes (packed c p src.size blocks)) (storedBlocks (packed c p src.size blocks)) dest =
      some (dest.overlay (packed c p src.size blocks)) := by
  rw [ofBytes_packed, storedBlocks_packed hsrc hblocks hsize, packedInto?_eq_some hroom, packed_eq]

end Packed

/-! ## Stored chunks -/

section Stored
variable (hsrc : src.size ≤ maxSourceSize)
include hsrc

theorem records_stored : Records c p src (stored c p src) := by
  have hheader := ofBytes_stored c p src
  obtain ⟨-, -, -, hformat⟩ := isSet_storedFlags (congrArg Header.flags hheader)
  refine ⟨congrArg Header.version hheader, hformat, ?_, ?_, recordedSize_stored c p hsrc⟩
  · exact (congrArg UInt8.toNat (congrArg Header.typeSize hheader)).trans (typeSize_word p)
  · have hword := congrArg Header.rawSize hheader
    exact (congrArg UInt32.toNat hword).trans (toNat_sizeWord (Nat.le_trans hsrc (Nat.le_add_left _ _)))

theorem storedLayout_stored : StoredLayout src (stored c p src) := by
  have hheader := ofBytes_stored c p src
  obtain ⟨-, hbyte, hbit, -⟩ := isSet_storedFlags (congrArg Header.flags hheader)
  refine ⟨hbyte, hbit, ?_, ?_⟩
  · have hword := congrArg Header.blockSize hheader
    exact (congrArg UInt32.toNat hword).trans (toNat_sizeWord (Nat.le_trans hsrc (Nat.le_add_left _ _)))
  · have hslice := slice?_middle (storedHeader c p src.size).toBytes src #[]
    rw [Array.append_empty, ← stored_eq, Header.size_toBytes, slice?_eq_some] at hslice
    rw [size_stored]
    exact hslice.2

end Stored

theorem storedInto?_stored {dest : Bytes} (hroom : headerSize + src.size ≤ dest.size) :
    storedInto? (Header.ofBytes (stored c p src)) src dest = some (dest.overlay (stored c p src)) := by
  rw [ofBytes_stored, storedInto?_eq_some hroom]
  rfl

/-! ## Chunks that were written -/

/-- The layout of a chunk, and the writes that put it into a destination. -/
def HasLayout (p : Params) (src chunk dest dest' : Bytes) : Prop :=
  if Grammar.IsSet chunk 2 then
    StoredLayout src chunk ∧ storedInto? (Header.ofBytes chunk) src dest = some dest'
  else PackedLayout p src chunk ∧ packedInto? (Header.ofBytes chunk) (storedBlocks chunk) dest = some dest'

theorem HasLayout.packed {chunk dest dest' : Bytes} (h : HasLayout p src chunk dest dest')
    (hpacked : ¬ Grammar.IsSet chunk 2) :
    PackedLayout p src chunk ∧ packedInto? (Header.ofBytes chunk) (storedBlocks chunk) dest = some dest' := by
  unfold HasLayout at h
  rwa [if_neg hpacked] at h

theorem hasLayout_of_write {chunk dest : Bytes} (h : write bs c p src dest.size = .ok (some chunk)) :
    Records c p src chunk ∧ HasLayout p src chunk dest (dest.overlay chunk) := by
  obtain ⟨hsrc, ⟨hroom, rfl⟩ | ⟨blocks, hblocks, hsize, hroom, rfl⟩⟩ := write_cases h
  · refine ⟨records_stored hsrc, ?_⟩
    unfold HasLayout
    rw [if_pos (isSet_stored c p src)]
    exact ⟨storedLayout_stored hsrc, storedInto?_stored hroom⟩
  · refine ⟨records_packed hsrc hsize, ?_⟩
    unfold HasLayout
    rw [if_neg (not_isSet_packed c p src blocks)]
    exact ⟨packedLayout_packed hsrc hblocks hsize, packedInto?_packed hsrc hblocks hsize hroom⟩

/-- What a compression that succeeds leaves at the front of the destination: as many bytes as it reports, the
header of the parameters, and the layout of a packed or of a stored chunk. -/
theorem compress_layout {bs : Backends} {s : ChunkCodec} {p : Params} {src dest : Bytes} {n : Nat} (hn : 0 < n)
    (hresult : (ChunkCodec.compress bs s p src dest).result = .ok n) :
    let dest' := (ChunkCodec.compress bs s p src dest).dest
    let chunk := dest'.extract 0 n
    n ≤ dest.size ∧ chunk.size = n ∧ Records s.compressor p src chunk ∧ HasLayout p src chunk dest dest' := by
  have hcases := compress_cases bs s p src dest
  generalize ChunkCodec.compress bs s p src dest = r at hcases hresult ⊢
  cases hcases with
  | refused status => cases hresult
  | noRoom =>
    cases hresult
    exact absurd hn (Nat.lt_irrefl 0)
  | written chunk hwrite =>
    cases hresult
    obtain ⟨-, -, hroom⟩ := size_of_write hwrite
    dsimp only
    rw [extract_overlay]
    exact ⟨hroom, rfl, hasLayout_of_write hwrite⟩

/-- The thirteen words and the odd byte: the table goes to 16, the blocks to 24 and 53, and 58 bytes are used. -/
theorem compress_layout_thirteenWords :
    let r := ChunkCodec.compress (fun _ => wordsBackend) {} ⟨5, .byte, 4⟩ thirteenWords (Array.replicate 60 0)
    let chunk := r.dest.extract 0 58
    0 < 58 ∧ r.result = .ok 58 ∧ Records .lz4 ⟨5, .byte, 4⟩ thirteenWords chunk ∧
      PackedLayout ⟨5, .byte, 4⟩ thirteenWords chunk ∧
      ranges chunk = [(0, 16), (16, 4), (20, 4), (24, 29), (53, 5)] ∧
      packedInto? (Header.ofBytes chunk) (storedBlocks chunk) (Array.replicate 60 0) = some r.dest := by
  have hresult := congrArg Compression.result compress_thirteenWords
  have hlayout := @compress_layout (fun _ => wordsBackend) {} ⟨5, .byte, 4⟩ thirteenWords (Array.replicate 60 0) 58
    (by decide) hresult
  rw [compress_thirteenWords] at hlayout ⊢
  intro r chunk
  have hpacked : ¬ Grammar.IsSet chunk 2 := by
    decide
  have hranges : ranges chunk = [(0, 16), (16, 4), (20, 4), (24, 29), (53, 5)] := by
    decide
  obtain ⟨-, -, hrecords, hlayout⟩ := hlayout
  obtain ⟨hpackedLayout, hplaced⟩ := hlayout.packed hpacked
  exact ⟨by decide, rfl, hrecords, hpackedLayout, hranges, hplaced⟩

end FramePress.Chunk
