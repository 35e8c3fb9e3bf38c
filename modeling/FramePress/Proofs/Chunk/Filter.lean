import FramePress.Proofs.Chunk.Checked
import FramePress.Proofs.Chunk.Tiling

/-! # The filter is a layer of its own

The two filter flags have no part in the container: a chunk with the flags cleared is read as before, up to the
filter.  For this the blocks must not lie over the header, where the flags are.

* `Agree`: byte strings that differ in their flags only; `readBlock_eq_map`: what the reader makes of them.
* `readBlocks_eq_mapM`: the blocks of a chunk, read into a list.
* `withoutFilter`, `undoFilter`, `StartsBehindHeader`: the other chunk, what is left to do, and the condition.
* `read_eq_map_read`: reading, split into reading without filter and undoing the filter.
* `filteredSource`, `filter_separates`: the same for any bytes, and for a chunk that was written.
-/

namespace FramePress.Chunk
set_option autoImplicit false

/-! ## Lists of results -/

theorem mapM_eq_map_mapM {ε α β γ : Type} {f : α → Except ε β} {f' : α → Except ε γ} {l : List α} (g : β → γ)
    (h : ∀ a ∈ l, f' a = (f a).map g) : l.mapM f' = (l.mapM f).map (List.map g) := by
  induction l with
  | nil => rfl
  | cons a l ih =>
    rw [List.mapM_cons, List.mapM_cons, h a List.mem_cons_self,
      ih fun a' ha' => h a' (List.mem_cons_of_mem a ha')]
    cases f a with
    | error e => rfl
    | ok b => cases l.mapM f with
      | error e => rfl
      | ok bs => rfl

theorem length_of_mapM {ε α β : Type} {f : α → Except ε β} {l : List α} {r : List β} (h : l.mapM f = .ok r) :
    r.length = l.length := by
  induction l generalizing r with
  | nil =>
    cases h
    rfl
  | cons a l ih =>
    rw [List.mapM_cons] at h
    obtain ⟨b, -, h⟩ := bind_eq_ok.mp h
    obtain ⟨rest, hrest, h⟩ := bind_eq_ok.mp h
    cases h
    rw [List.length_cons, List.length_cons, ih hrest]

theorem getElem_of_mapM {ε α β : Type} {f : α → Except ε β} {l : List α} {r : List β} (h : l.mapM f = .ok r)
    {i : Nat} (hi : i < r.length) (hi' : i < l.length) : f l[i] = .ok r[i] := by
  induction l generalizing r i with
  | nil => exact absurd hi' (Nat.not_lt_zero i)
  | cons a l ih =>
    rw [List.mapM_cons] at h
    obtain ⟨b, hb, h⟩ := bind_eq_ok.mp h
    obtain ⟨rest, hrest, h⟩ := bind_eq_ok.mp h
    cases h
    cases i with
    | zero => exact hb
    | succ i => exact ih hrest (Nat.lt_of_succ_lt_succ hi) (Nat.lt_of_succ_lt_succ hi')

/-! ## Byte strings that differ in their flags -/

/-- The two have one size, and the same bytes, the flags perhaps apart. -/
structure Agree (b b' : Bytes) : Prop where
  size : b'.size = b.size
  byteAt : ∀ i, i ≠ 2 → b'.byteAt i = b.byteAt i

section Agree
variable {bs : Backends} {c : Compressor} {b b' chunk chunk' : Bytes}

theorem Agree.u32At (h : Agree b b') {i : Nat} (hi : 3 ≤ i) : b'.u32At i = b.u32At i := by
  unfold Bytes.u32At
  rw [h.byteAt i (by omega), h.byteAt (i + 1) (by omega), h.byteAt (i + 2) (by omega),
    h.byteAt (i + 3) (by omega)]

theorem Agree.extract (h : Agree b b') {start stop : Nat} (hstart : 3 ≤ start) :
    b'.extract start stop = b.extract start stop := by
  have hsize : (b'.extract start stop).size = (b.extract start stop).size := by
    rw [Array.size_extract, Array.size_extract, h.size]
  refine Bytes.ext_byteAt hsize fun i hi => ?_
  rw [Array.size_extract] at hi
  rw [Bytes.byteAt_extract (by omega), Bytes.byteAt_extract (by omega), h.byteAt (start + i) (by omega)]

theorem Agree.front (h : Agree b b') {n : Nat} (hn : n ≤ b.size) : Agree (b.extract 0 n) (b'.extract 0 n) := by
  have hn' : n ≤ b'.size := h.size.symm ▸ hn
  have hsize := size_front hn
  have hsize' := size_front hn'
  constructor
  · rw [hsize, hsize']
  · intro i hi
    by_cases hlt : i < n
    · rw [Bytes.byteAt_extract (by omega), Bytes.byteAt_extract (by omega), Nat.zero_add, h.byteAt i hi]
    · rw [Bytes.byteAt_of_le (by omega), Bytes.byteAt_of_le (by omega)]

theorem Agree.wordAt (h : Agree chunk chunk') {i : Nat} (hi : 3 ≤ i) : wordAt chunk' i = wordAt chunk i := by
  unfold Chunk.wordAt Bytes.u32At?
  rw [h.size, h.u32At hi]

theorem Agree.slice? (h : Agree chunk chunk') {start len : Nat} (hstart : 3 ≤ start) :
    chunk'.slice? start len = chunk.slice? start len := by
  unfold Bytes.slice?
  rw [h.size, h.extract hstart]

/-- A block whose table entry, if there is one, points behind the header. -/
theorem Agree.storedBlock (h : Agree chunk chunk') {i : Nat}
    (hstart : ∀ start, Chunk.wordAt chunk (headerSize + 4 * i) = .ok start → 16 ≤ start) :
    storedBlock chunk' i = storedBlock chunk i := by
  have hheader : headerSize = 16 := rfl
  unfold Chunk.storedBlock
  rw [h.wordAt (i := headerSize + 4 * i) (by omega)]
  cases hentry : Chunk.wordAt chunk (headerSize + 4 * i) with
  | error e => rfl
  | ok start =>
    have hbehind := hstart start hentry
    show (Chunk.wordAt chunk' start >>= _) = (Chunk.wordAt chunk start >>= _)
    rw [h.wordAt (i := start) (by omega)]
    cases Chunk.wordAt chunk start with
    | error e => rfl
    | ok size =>
      dsimp only [bind, Except.bind]
      rw [h.slice? (by omega)]

/-- The headers have the same sizes, and the second records no filter. -/
structure Unfiltered (h h' : Header) : Prop where
  rawSize : h'.rawSize = h.rawSize
  blockSize : h'.blockSize = h.blockSize
  off : h'.shuffleMode = .off

variable {h h' : Header}

theorem readBlock_eq_map (hagree : Agree chunk chunk') (hheader : Unfiltered h h') {i : Nat}
    (hstart : ∀ start, wordAt chunk (headerSize + 4 * i) = .ok start → 16 ≤ start) :
    readBlock bs h c chunk i =
      (readBlock bs h' c chunk' i).map (unshuffle h.shuffleMode h.typeSize.toNat) := by
  have hraw : h'.rawBlockSize i = h.rawBlockSize i := by
    unfold Header.rawBlockSize
    rw [hheader.rawSize, hheader.blockSize]
  unfold readBlock
  rw [hagree.storedBlock hstart, hraw, hheader.off]
  cases storedBlock chunk i with
  | error e => rfl
  | ok data =>
    show (unpackBlock bs c (h.rawBlockSize i) data >>= _) =
      Except.map _ (unpackBlock bs c (h.rawBlockSize i) data >>= _)
    cases unpackBlock bs c (h.rawBlockSize i) data with
    | error e => rfl
    | ok out => rfl

/-! ## All blocks -/

theorem readBlocks_eq_mapM (bs : Backends) (h : Header) (c : Compressor) (chunk : Bytes) (count i : Nat)
    (out : Bytes) : readBlocks bs h c chunk count i out =
      ((List.range' i count).mapM (readBlock bs h c chunk)).map fun raws => out ++ Bytes.join raws := by
  induction count generalizing i out with
  | zero => exact congrArg Except.ok (Array.append_empty).symm
  | succ count ih =>
    rw [readBlocks, List.range'_succ, List.mapM_cons]
    cases readBlock bs h c chunk i with
    | error e => rfl
    | ok raw =>
      show readBlocks bs h c chunk count (i + 1) (out ++ raw) = _
      rw [ih]
      cases (List.range' (i + 1) count).mapM (readBlock bs h c chunk) with
      | error e => rfl
      | ok raws =>
        show Except.ok (out ++ raw ++ Bytes.join raws) = Except.ok (out ++ Bytes.join (raw :: raws))
        rw [Bytes.join_cons, Array.append_assoc]

theorem size_of_readBlock {i : Nat} {raw : Bytes} (hread : readBlock bs h c chunk i = .ok raw) :
    raw.size = h.rawBlockSize i := by
  obtain ⟨data, out, -, hout, rfl⟩ := readBlock_eq_ok.mp hread
  rw [size_unshuffle]
  exact hout.1

/-- The blocks of a chunk are the pieces of what they make up. -/
theorem pieces_join_of_mapM {raws : List Bytes} (hsize : h.blockSize ≠ 0)
    (hread : (List.range' 0 h.blockCount).mapM (readBlock bs h c chunk) = .ok raws) :
    (Bytes.join raws).pieces h.blockSize.toNat = raws := by
  have hpos : 0 < h.blockSize.toNat := by
    refine Nat.pos_of_ne_zero fun h0 => hsize ?_
    exact UInt32.toNat_inj.mp h0
  have hlength : raws.length = h.blockCount := by
    rw [length_of_mapM hread, List.length_range']
  refine Bytes.pieces_join hpos hlength fun i hi => ?_
  have hi' : i < (List.range' 0 h.blockCount).length := length_of_mapM hread ▸ hi
  have hblock := getElem_of_mapM hread hi hi'
  rw [List.getElem_range', Nat.zero_add, Nat.one_mul] at hblock
  exact size_of_readBlock hblock

theorem readBlocks_eq_map (hagree : Agree chunk chunk') (hheader : Unfiltered h h') (hsize : h.blockSize ≠ 0)
    (hstart : ∀ i < h.blockCount, ∀ start, wordAt chunk (headerSize + 4 * i) = .ok start → 16 ≤ start) :
    readBlocks bs h c chunk h.blockCount 0 #[] = (readBlocks bs h' c chunk' h.blockCount 0 #[]).map fun out =>
      Bytes.join ((out.pieces h.blockSize.toNat).map (unshuffle h.shuffleMode h.typeSize.toNat)) := by
  have hcount : h'.blockCount = h.blockCount := by
    unfold Header.blockCount
    rw [hheader.rawSize, hheader.blockSize]
  have hblocks : ∀ i ∈ List.range' 0 h.blockCount, readBlock bs h c chunk i =
      (readBlock bs h' c chunk' i).map (unshuffle h.shuffleMode h.typeSize.toNat) := by
    intro i hi
    rw [List.mem_range'_1] at hi
    exact readBlock_eq_map hagree hheader (hstart i (by omega))
  rw [readBlocks_eq_mapM, readBlocks_eq_mapM, mapM_eq_map_mapM _ hblocks]
  cases hread : (List.range' 0 h.blockCount).mapM (readBlock bs h' c chunk') with
  | error e => rfl
  | ok raws =>
    have hpieces : (Bytes.join raws).pieces h.blockSize.toNat = raws := by
      rw [← hheader.blockSize] at hsize ⊢
      exact pieces_join_of_mapM hsize (hcount ▸ hread)
    show Except.ok (#[] ++ Bytes.join (raws.map _)) =
      Except.ok (Bytes.join ((Bytes.pieces (#[] ++ Bytes.join raws) _).map _))
    rw [Array.empty_append, Array.empty_append, hpieces]

end Agree

/-! ## The two layers -/

/-- The flags of both filters cleared. -/
def withoutFilter (b : Bytes) : Bytes := b.modify 2 (· &&& 0xfa)

/-- What was read without filter, each block put through the filter that the header of `b` records. -/
def undoFilter (b out : Bytes) : Bytes :=
  if Grammar.IsSet b 2 then out
  else Bytes.join ((out.pieces (Grammar.blockSize b)).map
    (unshuffle (Grammar.shuffleMode b) (b.byteAt 3).toNat))

/-- No entry that the table has points into the header. -/
def StartsBehindHeader (b : Bytes) : Prop :=
  ∀ i < Grammar.blockCount b, 16 + 4 * i + 4 ≤ min (Grammar.chunkSize b) b.size → 16 ≤ blockStart b i

section Layers
variable {bs : Backends} {b : Bytes}

theorem size_withoutFilter (b : Bytes) : (withoutFilter b).size = b.size := Array.size_modify

theorem byteAt_withoutFilter_flags (b : Bytes) : (withoutFilter b).byteAt 2 = b.byteAt 2 &&& 0xfa := by
  by_cases h : 2 < b.size
  · rw [Bytes.byteAt_eq_getElem (size_withoutFilter b ▸ h), Bytes.byteAt_eq_getElem h]
    exact Array.getElem_modify_self _ _
  · rw [Bytes.byteAt_of_le (size_withoutFilter b ▸ Nat.not_lt.mp h), Bytes.byteAt_of_le (Nat.not_lt.mp h)]
    rfl

theorem agree_withoutFilter (b : Bytes) : Agree b (withoutFilter b) := by
  refine ⟨size_withoutFilter b, fun i hi => ?_⟩
  by_cases h : i < b.size
  · rw [Bytes.byteAt_eq_getElem (size_withoutFilter b ▸ h), Bytes.byteAt_eq_getElem h]
    exact Array.getElem_modify_of_ne hi.symm _ _
  · rw [Bytes.byteAt_of_le (size_withoutFilter b ▸ Nat.not_lt.mp h), Bytes.byteAt_of_le (Nat.not_lt.mp h)]

theorem isStored_withoutFilter (b : Bytes) :
    (Header.ofBytes (withoutFilter b)).isStored = (Header.ofBytes b).isStored := by
  show ((withoutFilter b).byteAt 2 &&& 2 != 0) = (b.byteAt 2 &&& 2 != 0)
  rw [byteAt_withoutFilter_flags, UInt8.and_assoc]
  rfl

theorem format_withoutFilter (b : Bytes) :
    (Header.ofBytes (withoutFilter b)).format = (Header.ofBytes b).format := by
  have hformat : ∀ x : BitVec 8, (x &&& 0xfa#8) >>> 5#8 = x >>> 5#8 := by decide
  show (withoutFilter b).byteAt 2 >>> 5 = b.byteAt 2 >>> 5
  rw [byteAt_withoutFilter_flags]
  exact UInt8.toBitVec_inj.mp (hformat (b.byteAt 2).toBitVec)

theorem unfiltered_withoutFilter (b : Bytes) :
    Unfiltered (Header.ofBytes b) (Header.ofBytes (withoutFilter b)) := by
  have hagree := agree_withoutFilter b
  refine ⟨hagree.u32At (by omega), hagree.u32At (by omega), ?_⟩
  have hflag (mask : UInt8) (hmask : 0xfa &&& mask = 0) :
      (Header.ofBytes (withoutFilter b)).hasFlag mask = false := by
    show ((withoutFilter b).byteAt 2 &&& mask != 0) = false
    rw [byteAt_withoutFilter_flags, UInt8.and_assoc, hmask, UInt8.and_zero]
    rfl
  unfold Header.shuffleMode
  rw [hflag Flag.bitShuffled rfl, hflag Flag.byteShuffled rfl]
  rfl

theorem readHeader_withoutFilter (b : Bytes) :
    Header.read (withoutFilter b) = (Header.read b).map fun _ => Header.ofBytes (withoutFilter b) := by
  have hagree := agree_withoutFilter b
  have hversion : (Header.ofBytes (withoutFilter b)).version = (Header.ofBytes b).version :=
    hagree.byteAt 0 (by omega)
  by_cases hsize : headerSize ≤ b.size
  · rw [Header.read_of_le (hagree.size.symm ▸ hsize), Header.read_of_le hsize, hversion]
    split
    · rfl
    · rfl
  · have hshort (b : Bytes) (h : ¬ headerSize ≤ b.size) : Header.read b = .error (.shortHeader b.size) :=
      if_pos (Nat.not_le.mp h)
    rw [hshort _ (hagree.size.symm ▸ hsize), hshort _ hsize, hagree.size]
    rfl

theorem readStored_withoutFilter (hcomplete : Grammar.chunkSize b ≤ b.size) (hset : Grammar.IsSet b 2) :
    readStored (Header.ofBytes b) (b.extract 0 (Grammar.chunkSize b)) =
      (readStored (Header.ofBytes (withoutFilter b)) ((withoutFilter b).extract 0 (Grammar.chunkSize b))).map
        (undoFilter b) := by
  have hagree := (agree_withoutFilter b).front hcomplete
  have hheader : headerSize = 16 := rfl
  unfold readStored undoFilter
  rw [(unfiltered_withoutFilter b).rawSize, hagree.slice? (by omega)]
  cases Bytes.slice? (b.extract 0 (Grammar.chunkSize b)) headerSize (Header.ofBytes b).rawSize.toNat with
  | none => rfl
  | some body =>
    show Except.ok body = Except.ok (if _ then body else _)
    rw [if_pos hset]

theorem readPacked_withoutFilter (hcomplete : Grammar.chunkSize b ≤ b.size) (hset : ¬ Grammar.IsSet b 2)
    (hstarts : StartsBehindHeader b) :
    readPacked bs (Header.ofBytes b) (b.extract 0 (Grammar.chunkSize b)) =
      (readPacked bs (Header.ofBytes (withoutFilter b)) ((withoutFilter b).extract 0 (Grammar.chunkSize b))).map
        (undoFilter b) := by
  have hagree := (agree_withoutFilter b).front hcomplete
  have hunfiltered := unfiltered_withoutFilter b
  have hundo : undoFilter b = fun out => Bytes.join ((out.pieces (Header.ofBytes b).blockSize.toNat).map
      (unshuffle (Header.ofBytes b).shuffleMode (Header.ofBytes b).typeSize.toNat)) := by
    funext out
    unfold undoFilter
    rw [if_neg hset, Grammar.shuffleMode_ofBytes]
    rfl
  have hcount : (Header.ofBytes (withoutFilter b)).blockCount = (Header.ofBytes b).blockCount := by
    unfold Header.blockCount
    rw [hunfiltered.rawSize, hunfiltered.blockSize]
  unfold readPacked Header.compressor?
  rw [format_withoutFilter, hunfiltered.blockSize, hcount, hundo]
  cases Compressor.ofFormatCode? (Header.ofBytes b).format with
  | none => rfl
  | some c =>
    by_cases hzero : (Header.ofBytes b).blockSize = 0
    · dsimp only
      rw [if_pos hzero, if_pos hzero]
      rfl
    · dsimp only
      rw [if_neg hzero, if_neg hzero]
      refine readBlocks_eq_map hagree hunfiltered hzero fun i hi start hentry => ?_
      obtain ⟨hinside, rfl⟩ := (wordAt_eq_ok hcomplete).mp hentry
      exact hstarts i hi (Nat.le_min.mpr ⟨hinside, Nat.le_trans hinside hcomplete⟩)

/-- Reading is reading without filter, with the same errors, and undoing the filter afterwards. -/
theorem read_eq_map_read (h : Grammar.IsSet b 2 ∨ StartsBehindHeader b) :
    read bs b = (read bs (withoutFilter b)).map (undoFilter b) := by
  unfold read
  rw [readHeader_withoutFilter, size_withoutFilter]
  cases hread : Header.read b with
  | error e => rfl
  | ok header =>
    obtain ⟨-, -, rfl⟩ := Header.read_eq_ok.mp hread
    have hchunk : (Header.ofBytes (withoutFilter b)).chunkSize = (Header.ofBytes b).chunkSize :=
      (agree_withoutFilter b).u32At (by omega)
    dsimp only [bind, Except.bind, Except.map]
    rw [hchunk, isStored_withoutFilter]
    by_cases hmissing : (Header.ofBytes b).chunkSize.toNat > b.size
    · rw [if_pos hmissing, if_pos hmissing]
    · have hcomplete : Grammar.chunkSize b ≤ b.size := Nat.not_lt.mp hmissing
      rw [if_neg hmissing, if_neg hmissing]
      by_cases hset : Grammar.IsSet b 2
      · rw [if_pos (Grammar.isStored_iff.mpr hset), if_pos (Grammar.isStored_iff.mpr hset)]
        exact readStored_withoutFilter hcomplete hset
      · rw [if_neg (mt Grammar.isStored_iff.mp hset), if_neg (mt Grammar.isStored_iff.mp hset)]
        exact readPacked_withoutFilter hcomplete hset (h.resolve_left hset)

end Layers

/-! ## Chunks that were written -/

section Written
variable {bs : Backends} {c : Compressor} {p : Params} {src : Bytes} {blocks : List Bytes}

/-- The blocks of a source, shuffled, one after the other.  No compressor has a part in it. -/
def filteredSource (p : Params) (src : Bytes) : Bytes :=
  Bytes.join ((rawBlocks p src).map (shuffle p.shuffle (effectiveTypeSize p.typeSize)))

/-- If undoing a filter piece by piece gives the source, then the pieces were those of the source, shuffled. -/
theorem eq_join_shuffled {mode : ShuffleMode} {typeSize n : Nat} {out : Bytes} (hn : 0 < n)
    (h : Bytes.join ((out.pieces n).map (unshuffle mode typeSize)) = src) :
    out = Bytes.join ((src.pieces n).map (shuffle mode typeSize)) := by
  have hpieces : src.pieces n = (out.pieces n).map (unshuffle mode typeSize) := by
    rw [← h]
    exact Bytes.pieces_map hn fun x => size_unshuffle mode typeSize x
  have hback : ((out.pieces n).map (unshuffle mode typeSize)).map (shuffle mode typeSize) = out.pieces n := by
    rw [List.map_map]
    exact List.map_id'' (fun x => shuffle_unshuffle mode typeSize x) _
  rw [hpieces, hback, Bytes.join_pieces out hn]

theorem startsBehindHeader_packed (hsrc : src.size ≤ maxSourceSize) (hblocks : Packs (bs c) p src blocks)
    (hsize : packedSize blocks < headerSize + src.size) :
    StartsBehindHeader (packed c p src.size blocks) := by
  intro i hi _
  rw [blockCount_packed hsrc hblocks] at hi
  rw [packed_eq, blockStart_packedBytes hi (packedSize_lt hsrc hsize), position, headerSize]
  omega

theorem undoFilter_packed (c : Compressor) (blocks : List Bytes) (hsrc : src.size ≤ maxSourceSize) (out : Bytes) :
    undoFilter (packed c p src.size blocks) out =
      Bytes.join ((out.pieces (blockSize p.level.toNat (effectiveTypeSize p.typeSize) src.size)).map
        (unshuffle p.shuffle (effectiveTypeSize p.typeSize))) := by
  have hmode : Grammar.shuffleMode (packed c p src.size blocks) = p.shuffle := by
    rw [← Grammar.shuffleMode_ofBytes, ofBytes_packed]
    exact Header.shuffleMode_of_packed rfl
  unfold undoFilter
  rw [if_neg (not_isSet_packed c p src blocks), blockSize_packed c p blocks hsrc, hmode,
    toNat_typeSize_packed]

theorem read_withoutFilter_packed (hf : (bs c).Faithful) (hsrc : src.size ≤ maxSourceSize)
    (hblocks : Packs (bs c) p src blocks) (hsize : packedSize blocks < headerSize + src.size) :
    read bs (withoutFilter (packed c p src.size blocks)) = .ok (filteredSource p src) := by
  have hread := read_packed hsrc hf hblocks hsize
  rw [read_eq_map_read (.inr (startsBehindHeader_packed hsrc hblocks hsize))] at hread
  cases hout : read bs (withoutFilter (packed c p src.size blocks)) with
  | error e =>
    rw [hout] at hread
    cases hread
  | ok out =>
    rw [hout] at hread
    have hundo : undoFilter (packed c p src.size blocks) out = src := Except.ok.inj hread
    rw [undoFilter_packed c blocks hsrc] at hundo
    exact congrArg Except.ok (eq_join_shuffled (blockSize_pos _ _ _) hundo)

end Written

/-- A byte string whose blocks do not lie over its header is read like the one with its filter flags cleared,
and the filter is undone on the pieces of the result.  What is read of a packed chunk that way are the shuffled
blocks of its source. -/
theorem filter_separates (bs : Backends) :
    (∀ b, Grammar.IsSet b 2 ∨ StartsBehindHeader b →
      read bs b = (read bs (withoutFilter b)).map (undoFilter b)) ∧
    ∀ (s : ChunkCodec) (p : Params) (src dest : Bytes) (n : Nat), (bs s.compressor).Faithful → 0 < n →
      (ChunkCodec.compress bs s p src dest).result = .ok n →
      let chunk := (ChunkCodec.compress bs s p src dest).dest.extract 0 n
      ¬ Grammar.IsSet chunk 2 → read bs (withoutFilter chunk) = .ok (filteredSource p src) := by
  refine ⟨fun b => read_eq_map_read, fun s p src dest n hf hn hresult => ?_⟩
  obtain ⟨chunk, hwrite, -, hfront⟩ := written_of_compress hn hresult
  dsimp only
  rw [hfront]
  intro hpacked
  obtain ⟨hsrc, ⟨-, rfl⟩ | ⟨blocks, hblocks, hsize, -, rfl⟩⟩ := write_cases hwrite
  · exact absurd (isSet_stored s.compressor p src) hpacked
  · exact read_withoutFilter_packed hf hsrc hblocks hsize

/-- A chunk with both filter flags whose two blocks have a byte in common, and the chunk of the thirteen words. -/
theorem filter_separates_words :
    let b : Bytes := #[2, 1, 37, 2, 20, 0, 0, 0, 16, 0, 0, 0, 38, 0, 0, 0, 24, 0, 0, 0, 30, 0, 0, 0,
      2, 0, 0, 0, 1, 7, 4, 0, 0, 0, 1, 2, 3, 4]
    let r := ChunkCodec.compress (fun _ => wordsBackend) {} ⟨5, .byte, 4⟩ thirteenWords (Array.replicate 60 0)
    let chunk := r.dest.extract 0 58
    StartsBehindHeader b ∧
      read Checked.repeating b = (read Checked.repeating (withoutFilter b)).map (undoFilter b) ∧
      read Checked.repeating (withoutFilter b) = .ok (Array.replicate 16 1 ++ #[1, 2, 3, 4]) ∧
      wordsBackend.Faithful ∧ 0 < 58 ∧ r.result = .ok 58 ∧ ¬ Grammar.IsSet chunk 2 ∧
      read (fun _ => wordsBackend) (withoutFilter chunk) =
        .ok (filteredSource ⟨5, .byte, 4⟩ thirteenWords) := by
  intro b r chunk
  have hstarts : StartsBehindHeader b := by
    unfold StartsBehindHeader
    decide
  have hread : read Checked.repeating (withoutFilter b) = .ok (Array.replicate 16 1 ++ #[1, 2, 3, 4]) := by
    unfold b
    cbv
  have hr : r.result = .ok 58 := congrArg Compression.result compress_thirteenWords
  have hpacked : ¬ Grammar.IsSet chunk 2 := by
    unfold chunk r
    rw [compress_thirteenWords]
    decide
  have hf : wordsBackend.Faithful := oneBlock_faithful _ _
  exact ⟨hstarts, (filter_separates Checked.repeating).1 b (.inr hstarts), hread, hf, by decide, hr, hpacked,
    (filter_separates fun _ => wordsBackend).2 {} ⟨5, .byte, 4⟩ thirteenWords (Array.replicate 60 0) 58 hf
      (by decide) hr hpacked⟩

end FramePress.Chunk
