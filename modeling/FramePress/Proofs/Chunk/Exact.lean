import FramePress.Chunk.Exact
import FramePress.Proofs.Chunk.Checked
import FramePress.Proofs.Chunk.Choice

/-! # No number of the writer is too large

The sizes of blocks are bounded by their source before the packed chunk is weighed against the stored one, which
is enough for 64 bits, but not for the words of a chunk.  Only the chunk that is written has these: it is no larger
than the stored one, which the limit on sources keeps below `2 ^ 31`.

* `size?_eq_some`, `byte?_eq_some`: a cast stands for its number.
* `bound_of_packs`, `sums_of_packs`: the numbers that are computed from any blocks.
* `placeBlocks?_eq_some`, `computes_packed`, `computes_stored`, `computes_compress`: the writer, function by
  function.
* `WordsFit`, `compress_fits`: all calls.
-/

namespace FramePress.Chunk.Exact
set_option autoImplicit false

open Bytes
open Checked (word? minus? countOf? word?_eq_some minus?_eq_some)

/-! ## Numbers -/

/-- The largest word is the size of the largest stored chunk. -/
theorem maxWord_eq : maxWord = headerSize + maxSourceSize := rfl

theorem size?_eq_some {n : Nat} {w : UInt32} : size? n = some w ↔ n ≤ maxWord ∧ w.toNat = n := by
  unfold size?
  by_cases h : n ≤ maxWord
  · have hword : n.toUInt32.toNat = n := toNat_sizeWord h
    rw [if_pos h, and_iff_right h, Option.some_inj, ← UInt32.toNat_inj, hword, eq_comm]
  · rw [if_neg h]
    exact ⟨fun h' => (nomatch h'), fun h' => absurd h'.1 h⟩

theorem size?_of_le {n : Nat} (h : n ≤ maxWord) : size? n = some n.toUInt32 :=
  size?_eq_some.mpr ⟨h, toNat_sizeWord h⟩

theorem byte?_eq_some {n : Nat} {x : UInt8} : byte? n = some x ↔ x.toNat = n := by
  unfold byte?
  by_cases h : n < UInt8.size
  · have hbyte : n.toUInt8.toNat = n := UInt8.toNat_ofNat_of_lt' h
    rw [if_pos h, Option.some_inj, ← UInt8.toNat_inj, hbyte, eq_comm]
  · rw [if_neg h]
    exact ⟨fun h' => (nomatch h'), fun h' => absurd (h' ▸ x.toNat_lt_size) h⟩

/-- One step of a checked computation that succeeds. -/
theorem bind_eq_of_some {α β : Type} {o : Option α} {a : α} {f : α → Option β} {r : Option β} (ho : o = some a)
    (hf : f a = r) : (o >>= f) = r := by
  subst ho
  exact hf

theorem blockSize?_eq_some {level typeSize rawSize : Nat} (htype : 0 < typeSize) :
    blockSize? level typeSize rawSize = some (blockSize level typeSize rawSize) := by
  unfold blockSize? blockSize rest?
  dsimp only
  generalize min (blockLimit level) rawSize = most
  by_cases h : most > typeSize
  · rw [if_pos h, if_pos h]
    refine bind_eq_of_some (if_neg (Nat.ne_of_gt htype)) ?_
    exact bind_eq_of_some (minus?_eq_some (Nat.mod_le _ _)) rfl
  · rw [if_neg h, if_neg h]
    rfl

theorem framedSize?_eq_some {sum : Nat} {blocks : List Bytes}
    (h : sum + 4 * blocks.length + total blocks ≤ headerSize + 8 * UInt32.size) :
    framedSize? sum blocks = some (sum + 4 * blocks.length + total blocks) := by
  induction blocks generalizing sum with
  | nil => rfl
  | cons block rest ih =>
    rw [List.length_cons, total_cons] at h ⊢
    have hsum : sum + (4 + block.size) + 4 * rest.length + total rest =
        sum + 4 * (rest.length + 1) + (block.size + total rest) := by omega
    rw [framedSize?]
    refine bind_eq_of_some (word?_eq_some (by omega)) ?_
    refine bind_eq_of_some (word?_eq_some (by omega)) ?_
    rw [ih (by omega), hsum]

theorem baseHeader?_eq_some (c : Compressor) {typeSize rawSize : Nat} (htype : typeSize ≤ maxTypeSize)
    (hraw : rawSize ≤ maxSourceSize) : baseHeader? c typeSize rawSize = some (baseHeader c typeSize rawSize) := by
  have hflags : byte? (c.formatCode.toNat <<< 5) = some (c.formatCode <<< 5) := by
    cases c <;> rfl
  have htype' : typeSize < UInt8.size := Nat.lt_of_le_of_lt htype (by decide)
  have hbyte : byte? typeSize = some typeSize.toUInt8 := byte?_eq_some.mpr (UInt8.toNat_ofNat_of_lt' htype')
  have hraw' : rawSize ≤ maxWord := Nat.le_trans hraw (Nat.le_add_left _ _)
  unfold baseHeader?
  rw [hflags, hbyte, size?_of_le hraw']
  rfl

/-! ## Blocks -/

/-- What the encoder gives, or its failure. -/
def encoded {α : Type} : Option α → Except Status α
  | none => .error .failure
  | some a => .ok a

theorem encoded_eq_ok {α : Type} {o : Option α} {a : α} : encoded o = .ok a ↔ o = some a := by
  cases o with
  | none => exact ⟨fun h => (nomatch h), fun h => (nomatch h)⟩
  | some a' => rw [encoded, Except.ok.injEq, Option.some_inj]

theorem encoded_bind {α β : Type} (o : Option α) (f : α → Option β) :
    encoded (o >>= f) = encoded o >>= fun a => encoded (f a) := by
  cases o with
  | none => rfl
  | some a => rfl

theorem computes_mapM {α β : Type} {l : List α} {f : α → Exact β} {g : α → Option β}
    (h : ∀ a ∈ l, Computes (f a) (encoded (g a))) : Computes (l.mapM f) (encoded (l.mapM g)) := by
  induction l with
  | nil => rfl
  | cons a l ih =>
    rw [List.mapM_cons, List.mapM_cons, encoded_bind]
    refine (h a List.mem_cons_self).bind fun b _ => ?_
    rw [encoded_bind]
    exact (ih fun a' ha' => h a' (List.mem_cons_of_mem a ha')).bind fun bs _ => rfl

theorem computes_packBlock (b : Backend) (level : Nat) (mode : ShuffleMode) (typeSize : Nat) (raw : Bytes) :
    Computes (packBlock b level mode typeSize raw) (encoded (Chunk.packBlock b level mode typeSize raw)) := by
  have hbuffer : (Array.replicate raw.size (0 : UInt8)).size = raw.size := Array.size_replicate
  refine computes_some_bind (shuffleInto?_eq_some hbuffer mode typeSize) ?_
  unfold Chunk.packBlock
  dsimp only
  cases b.pack level (shuffle mode typeSize raw) with
  | none => exact computes_throw _
  | some packed => rfl

/-- The writes succeed if they do without any check of numbers; the last offset is behind the last block. -/
theorem placeBlocks?_eq_some {i offset : Nat} {blocks : List Bytes} {dest dest' : Bytes}
    (hdest : Chunk.placeBlocks? (headerSize + 4 * i) offset blocks dest = some dest')
    (hslots : headerSize + 4 * (i + blocks.length) ≤ maxWord)
    (hlast : offset + 4 * blocks.length + total blocks ≤ maxWord) :
    placeBlocks? i offset blocks dest = some (offset + 4 * blocks.length + total blocks, dest') := by
  have hwords : maxWord ≤ headerSize + 8 * UInt32.size := by decide
  induction blocks generalizing i offset dest with
  | nil =>
    cases hdest
    rfl
  | cons block rest ih =>
    rw [List.length_cons] at hslots hlast ⊢
    rw [total_cons] at hlast ⊢
    obtain ⟨dest₁, hentry, hdest⟩ := Option.bind_eq_some_iff.mp hdest
    obtain ⟨dest₂, hlength, hdest⟩ := Option.bind_eq_some_iff.mp hdest
    obtain ⟨dest₃, hblock, hdest⟩ := Option.bind_eq_some_iff.mp hdest
    have hsum : offset + 4 + block.size + 4 * rest.length + total rest =
        offset + 4 * (rest.length + 1) + (block.size + total rest) := by omega
    rw [placeBlocks?]
    refine bind_eq_of_some (word?_eq_some (by omega)) ?_
    refine bind_eq_of_some (word?_eq_some (by omega)) ?_
    refine bind_eq_of_some (word?_eq_some (by omega)) ?_
    refine bind_eq_of_some (size?_of_le (by omega)) ?_
    refine bind_eq_of_some hentry ?_
    refine bind_eq_of_some (word?_eq_some (by omega)) ?_
    refine bind_eq_of_some (size?_of_le (by omega)) ?_
    refine bind_eq_of_some hlength ?_
    refine bind_eq_of_some (word?_eq_some (by omega)) ?_
    refine bind_eq_of_some hblock ?_
    rw [ih hdest (by omega) (by omega), hsum]

/-! ## Chunks -/

section Chunks
variable {b : Backend} {c : Compressor} {p : Params} {src dest : Bytes} {blocks : List Bytes}

theorem blockSize_le_maxWord (hsrc : src.size ≤ maxSourceSize) (level typeSize : Nat) :
    blockSize level typeSize src.size ≤ maxWord := by
  have hle := blockSize_le level typeSize src.size
  have hone : 1 ≤ maxSourceSize := by decide
  rw [maxWord_eq]
  omega

theorem packedSize_le_maxWord (hsrc : src.size ≤ maxSourceSize) (hsize : packedSize blocks < headerSize + src.size) :
    packedSize blocks ≤ maxWord := by
  rw [maxWord_eq]
  omega

/-- There are no more blocks than bytes, and packing makes none larger. -/
theorem bound_of_packs (hblocks : Packs b p src blocks) :
    blocks.length ≤ src.size ∧ packedSize blocks ≤ headerSize + 9 * src.size := by
  have hcount : blocks.length ≤ src.size := by
    refine Nat.not_lt.mp fun h => ?_
    rw [hblocks.length_eq, rawBlocks, length_pieces] at h
    have hlt := mul_lt_of_lt_count h
    exact absurd (Nat.le_mul_of_pos_right src.size (pos_of_lt_count h)) (Nat.not_le.mpr hlt)
  have hcost := packedCost_add_savings b p src
  have hheader : headerSize = 16 := rfl
  rw [← packedSize_eq hblocks, ← hblocks.length_eq] at hcost
  exact ⟨hcount, by omega⟩

/-- The sums that are made before the chunk is weighed. -/
theorem sums_of_packs (hsrc : src.size ≤ maxSourceSize) (hblocks : Packs b p src blocks) :
    word? (4 * blocks.length) = some (4 * blocks.length) ∧
      word? (headerSize + 4 * blocks.length) = some (headerSize + 4 * blocks.length) ∧
      framedSize? 0 blocks = some (4 * blocks.length + total blocks) ∧
      word? (headerSize + 4 * blocks.length + (4 * blocks.length + total blocks)) = some (packedSize blocks) ∧
      word? (src.size + headerSize) = some (src.size + headerSize) := by
  obtain ⟨hcount, hsize⟩ := bound_of_packs hblocks
  have hlimit : headerSize + 9 * maxSourceSize ≤ headerSize + 8 * UInt32.size := by decide
  have htotal : headerSize + 4 * blocks.length + (4 * blocks.length + total blocks) = packedSize blocks := by
    unfold packedSize
    omega
  have hframed : framedSize? 0 blocks = some (4 * blocks.length + total blocks) := by
    rw [framedSize?_eq_some (by omega), Nat.zero_add]
  rw [htotal]
  exact ⟨word?_eq_some (by omega), word?_eq_some (by omega), hframed, word?_eq_some (by omega),
    word?_eq_some (by omega)⟩

theorem packedInto?_eq_some {h : Header} (hroom : packedSize blocks ≤ dest.size)
    (hword : packedSize blocks ≤ maxWord) :
    packedInto? h (headerSize + 4 * blocks.length) (packedSize blocks) blocks dest =
      some (dest.overlay (packedBytes h blocks)) := by
  have hsum : headerSize + 4 * blocks.length + 4 * blocks.length + total blocks = packedSize blocks := by
    unfold packedSize
    omega
  have hwhole := Chunk.packedInto?_eq_some (h := h) hroom
  unfold Chunk.packedInto? at hwhole
  obtain ⟨dest', hheader, hplace⟩ := Option.bind_eq_some_iff.mp hwhole
  have hblocks := placeBlocks?_eq_some (i := 0) hplace (by omega) (Nat.le_trans (Nat.le_of_eq hsum) hword)
  refine bind_eq_of_some hheader ?_
  refine bind_eq_of_some hblocks ?_
  exact if_pos hsum

/-- The packed chunk, if it is written. -/
def packed? (b : Backend) (c : Compressor) (p : Params) (src : Bytes) (room : Nat) :
    Except Status (Option Bytes) := do
  let blocks ← encoded (packBlocks b p.level.toNat p.shuffle (effectiveTypeSize p.typeSize) src)
  return if packedSize blocks < headerSize + src.size ∧ packedSize blocks ≤ room then
    some (Chunk.packed c p src.size blocks) else none

theorem writeChecked_eq_packed? {room : Nat} (h : isPackable p src = true) :
    writeChecked b c p src room =
      packed? b c p src room >>= fun chunk => .ok (chunk.or (Chunk.stored? c p src room)) := by
  unfold writeChecked packed?
  rw [if_pos h]
  cases packBlocks b p.level.toNat p.shuffle (effectiveTypeSize p.typeSize) src with
  | none => rfl
  | some blocks =>
    by_cases hworth : packedSize blocks < headerSize + src.size ∧ packedSize blocks ≤ room
    · simp only [hworth, encoded, bind, Except.bind, pure, Except.pure]
      rfl
    · simp only [hworth, encoded, bind, Except.bind, pure, Except.pure]
      rfl

/-- What the writer reports, and the destination with the chunk in it. -/
def written (dest : Bytes) : Option Bytes → Nat × Bytes
  | none => (0, dest)
  | some chunk => (chunk.size, dest.overlay chunk)

variable (hsrc : src.size ≤ maxSourceSize)
include hsrc

theorem computes_packed (htype : 0 < p.typeSize) (dest : Bytes) :
    Computes (packed b p (effectiveTypeSize p.typeSize) (baseHeader c (effectiveTypeSize p.typeSize) src.size) src
      dest) (packed? b c p src dest.size >>= fun chunk => .ok (chunk.map fun chunk => written dest (some chunk))) := by
  have hpos := blockSize_pos p.level.toNat (effectiveTypeSize p.typeSize) src.size
  unfold packed packed?
  rw [bind_assoc]
  refine computes_some_bind (blockSize?_eq_some (effectiveTypeSize_pos htype)) ?_
  refine computes_some_bind (if_neg (Nat.ne_of_gt hpos)) ?_
  have hencode := computes_mapM fun raw (_ : raw ∈ rawBlocks p src) =>
    computes_packBlock b p.level.toNat p.shuffle (effectiveTypeSize p.typeSize) raw
  refine hencode.bind fun blocks hblocks => ?_
  have hpacks : Packs b p src blocks := encoded_eq_ok.mp hblocks
  have hlength := hpacks.length_eq
  rw [rawBlocks, length_pieces] at hlength
  rw [← hlength]
  obtain ⟨htable, hfirst, hframed, htotal, hlimit⟩ := sums_of_packs hsrc hpacks
  refine computes_some_bind htable ?_
  refine computes_some_bind hfirst ?_
  refine computes_some_bind hframed ?_
  refine computes_some_bind htotal ?_
  refine computes_some_bind hlimit ?_
  by_cases hworth : packedSize blocks < headerSize + src.size ∧ packedSize blocks ≤ dest.size
  · -- only here do sizes and offsets become words
    have hword := packedSize_le_maxWord hsrc hworth.1
    have hwritten : written dest (some (Chunk.packed c p src.size blocks)) =
        (packedSize blocks, dest.overlay (Chunk.packed c p src.size blocks)) := by
      rw [written, size_packed]
    rw [if_pos hworth, if_neg (by omega), pure_bind, Option.map_some, hwritten]
    refine computes_some_bind (size?_of_le (blockSize_le_maxWord hsrc _ _)) ?_
    refine computes_some_bind (size?_of_le hword) ?_
    refine computes_some_bind (packedInto?_eq_some hworth.2 hword) ?_
    rfl
  · rw [if_neg hworth, if_pos (by omega)]
    rfl

theorem stored?_eq_some (dest : Bytes) :
    stored? (baseHeader c (effectiveTypeSize p.typeSize) src.size) src dest =
      some (if headerSize + src.size ≤ dest.size then (headerSize + src.size, dest.overlay (Chunk.stored c p src))
        else (0, dest)) := by
  have hlimit : headerSize + maxSourceSize ≤ headerSize + 8 * UInt32.size := by decide
  have htotal : headerSize + src.size ≤ maxWord := Nat.add_le_add_left hsrc _
  have hraw : src.size ≤ maxWord := Nat.le_trans (Nat.le_add_left _ _) htotal
  refine bind_eq_of_some (word?_eq_some (Nat.le_trans (Nat.add_le_add_left hsrc _) hlimit)) ?_
  by_cases hroom : headerSize + src.size ≤ dest.size
  · rw [if_pos hroom, if_neg (Nat.not_lt.mpr hroom)]
    refine bind_eq_of_some (size?_of_le hraw) ?_
    refine bind_eq_of_some (size?_of_le htotal) ?_
    exact bind_eq_of_some (storedInto?_eq_some hroom) rfl
  · rw [if_neg hroom, if_pos (Nat.not_le.mp hroom)]
    rfl

theorem computes_stored (dest : Bytes) :
    Computes (liftM (stored? (baseHeader c (effectiveTypeSize p.typeSize) src.size) src dest))
      (.ok (written dest (Chunk.stored? c p src dest.size)) : Except Status (Nat × Bytes)) := by
  refine computes_some ((stored?_eq_some hsrc dest).trans (congrArg some ?_))
  unfold Chunk.stored?
  by_cases hroom : headerSize + src.size ≤ dest.size
  · rw [if_pos hroom, if_pos hroom, written, size_stored]
  · rw [if_neg hroom, if_neg hroom, written]

theorem computes_compressChecked (htype : 0 < p.typeSize) (dest : Bytes) :
    Computes (compressChecked b c p src dest) ((writeChecked b c p src dest.size).map (written dest)) := by
  refine computes_some_bind (baseHeader?_eq_some c (effectiveTypeSize_le _) hsrc) ?_
  by_cases hpackable : isPackable p src = true
  · have hboth : (writeChecked b c p src dest.size).map (written dest) =
        (packed? b c p src dest.size >>= fun chunk => .ok (chunk.map fun chunk => written dest (some chunk))) >>=
          fun chunk => .ok (chunk.getD (written dest (Chunk.stored? c p src dest.size))) := by
      rw [writeChecked_eq_packed? hpackable]
      cases packed? b c p src dest.size with
      | error status => rfl
      | ok chunk => cases chunk <;> rfl
    rw [if_pos hpackable, hboth]
    refine (computes_packed hsrc htype dest).bind fun chunk _ => ?_
    cases chunk with
    | none => exact computes_stored hsrc dest
    | some chunk => rfl
  · unfold writeChecked
    rw [if_neg hpackable, if_neg hpackable]
    exact computes_stored hsrc dest

end Chunks

/-! ## All calls -/

section Calls
variable {bs : Backends} {c : Compressor} {p : Params} {src chunk : Bytes}

theorem computes_compress (bs : Backends) (c : Compressor) (p : Params) (src dest : Bytes) :
    Computes (compress bs c p src dest) ((write bs c p src dest.size).map (written dest)) := by
  unfold compress write
  simp only [apply_ite (Except.map (written dest))]
  refine Computes.ite (fun _ => computes_throw _) fun hsrc => ?_
  refine Computes.ite (fun _ => computes_throw _) fun _ => ?_
  refine Computes.ite (fun _ => computes_throw _) fun htype => ?_
  refine Computes.ite (fun _ => computes_throw _) fun _ => ?_
  exact computes_compressChecked (Nat.not_lt.mp hsrc) (Nat.pos_of_ne_zero htype) dest

/-- What a chunk records is what it is made of, and no word is negative when it is taken as signed. -/
structure WordsFit (b : Backend) (c : Compressor) (p : Params) (src chunk : Bytes) : Prop where
  records : Records c p src chunk
  rawSize_le : Grammar.rawSize chunk ≤ maxWord
  chunkSize_le : Grammar.chunkSize chunk ≤ maxWord
  blockSize : Grammar.blockSize chunk =
    if Grammar.IsSet chunk 2 then src.size else Chunk.blockSize p.level.toNat (effectiveTypeSize p.typeSize) src.size
  blockSize_le : Grammar.blockSize chunk ≤ maxWord
  /-- The table entries and the lengths of a packed chunk. -/
  blocks : ¬ Grammar.IsSet chunk 2 → ∃ blocks, Packs b p src blocks ∧ Grammar.blockCount chunk = blocks.length ∧
    ∀ (i : Nat) (hi : i < blocks.length), blockStart chunk i = position blocks i ∧
      blockLength chunk i = blocks[i].size ∧ position blocks i + 4 + blocks[i].size ≤ maxWord

theorem wordsFit_of_write {room : Nat} (h : write bs c p src room = .ok (some chunk)) :
    WordsFit (bs c) c p src chunk := by
  obtain ⟨hsrc, ⟨-, rfl⟩ | ⟨blocks, hblocks, hsize, -, rfl⟩⟩ := write_cases h
  · have hrecords := records_stored (c := c) (p := p) hsrc
    have hblockSize := (storedLayout_stored (c := c) (p := p) hsrc).blockSize
    have hset := isSet_stored c p src
    have htotal : headerSize + src.size ≤ maxWord := Nat.add_le_add_left hsrc _
    refine ⟨hrecords, ?_, ?_, ?_, ?_, fun hnot => absurd hset hnot⟩
    · rw [hrecords.rawSize]
      omega
    · rw [hrecords.chunkSize, size_stored]
      exact htotal
    · rw [if_pos hset, hblockSize]
    · rw [hblockSize]
      omega
  · have hrecords := records_packed (c := c) (p := p) hsrc hsize
    have hblockSize := blockSize_packed c p blocks hsrc
    have hset := not_isSet_packed c p src blocks
    have htotal := packedSize_le_maxWord hsrc hsize
    refine ⟨hrecords, ?_, ?_, ?_, ?_, fun _ => ⟨blocks, hblocks, blockCount_packed hsrc hblocks, fun i hi => ?_⟩⟩
    · rw [hrecords.rawSize]
      exact Nat.le_trans hsrc (Nat.le_add_left _ _)
    · rw [hrecords.chunkSize, size_packed]
      exact htotal
    · rw [if_neg hset, hblockSize]
    · rw [hblockSize]
      exact blockSize_le_maxWord hsrc _ _
    · have hword := packedSize_lt hsrc hsize
      have hend := position_add_le hi
      exact ⟨blockStart_packedBytes hi hword, blockLength_packedBytes hi hword, Nat.le_trans hend htotal⟩

/-- Whatever is compressed, every number fits, and every access is in range: the writer that checks them all does
what the writer does that checks none.  What it has written down is exact. -/
theorem compress_fits (bs : Backends) (s : ChunkCodec) (p : Params) (src dest : Bytes) :
    let r := ChunkCodec.compress bs s p src dest
    (compress bs s.compressor p src dest).run = some (r.result.map fun n => (n, r.dest)) ∧
      ∀ n, 0 < n → r.result = .ok n → WordsFit (bs s.compressor) s.compressor p src (r.dest.extract 0 n) := by
  refine ⟨?_, fun n hn hresult => ?_⟩
  · have hwrite : (compress bs s.compressor p src dest).run = _ := computes_compress bs s.compressor p src dest
    rw [hwrite]
    rw [ChunkCodec.compress_eq]
    cases write bs s.compressor p src dest.size with
    | error status => rfl
    | ok chunk => cases chunk <;> rfl
  · obtain ⟨chunk, hwrite, -, hfront⟩ := written_of_compress hn hresult
    rw [hfront]
    exact wordsFit_of_write hwrite

/-- At level 0 a source is stored if there is room for it. -/
theorem compress_level_zero {s : ChunkCodec} {dest : Bytes} (mode : ShuffleMode)
    (hsrc : src.size ≤ maxSourceSize) (hroom : headerSize + src.size ≤ dest.size) :
    (ChunkCodec.compress bs s ⟨0, mode, 1⟩ src dest).result = .ok (headerSize + src.size) := by
  have hnot : isPackable ⟨0, mode, 1⟩ src = false := (isPackable_eq_false_iff (Int.le_refl 0)).mpr (.inl rfl)
  have hlevel : (0 : Int) ≤ 0 ∧ (0 : Int) ≤ 9 := by decide
  have hoverhead : maxOverhead ≤ dest.size := Nat.le_trans (Nat.le_add_right _ _) hroom
  have hwrite : write bs s.compressor ⟨0, mode, 1⟩ src dest.size =
      .ok (some (Chunk.stored s.compressor ⟨0, mode, 1⟩ src)) := by
    rw [write_eq_writeChecked hlevel Nat.one_pos hsrc hoverhead]
    unfold writeChecked Chunk.stored?
    rw [hnot, if_pos hroom]
    rfl
  rw [ChunkCodec.compress_of_write hwrite]
  exact congrArg Except.ok (size_stored _ _ _)

/-- A source of the largest size, stored, whose chunk has the largest size that a word may be; and a packed chunk. -/
theorem compress_fits_largest :
    let p : Params := ⟨0, .off, 1⟩
    let src : Bytes := Array.replicate maxSourceSize 0
    let dest : Bytes := Array.replicate maxWord 0
    let r := ChunkCodec.compress Backends.bundled {} p src dest
    let r' := ChunkCodec.compress (fun _ => wordsBackend) {} ⟨5, .byte, 4⟩ thirteenWords (Array.replicate 60 0)
    0 < maxWord ∧ r.result = .ok maxWord ∧
      (compress Backends.bundled .lz4 p src dest).run = some (.ok (maxWord, r.dest)) ∧
      Grammar.rawSize (r.dest.extract 0 maxWord) = maxSourceSize ∧
      0 < 58 ∧ r'.result = .ok 58 ∧
      WordsFit wordsBackend .lz4 ⟨5, .byte, 4⟩ thirteenWords (r'.dest.extract 0 58) := by
  intro p src dest r r'
  have hsrc : src.size = maxSourceSize := Array.size_replicate
  have hdest : dest.size = maxWord := Array.size_replicate
  -- nothing but the sizes may be looked at
  clear_value src dest
  have hroom : headerSize + src.size ≤ dest.size := by
    rw [hsrc, hdest]
    exact Nat.le_of_eq maxWord_eq.symm
  have hresult : r.result = .ok maxWord := by
    have hstored := @compress_level_zero Backends.bundled src {} dest .off (Nat.le_of_eq hsrc) hroom
    rwa [hsrc, ← maxWord_eq] at hstored
  have hresult' : r'.result = .ok 58 := congrArg Compression.result compress_thirteenWords
  have hpos : 0 < maxWord := by decide
  obtain ⟨hrun, hwords⟩ := compress_fits Backends.bundled {} p src dest
  obtain ⟨-, hwords'⟩ := compress_fits (fun _ => wordsBackend) {} ⟨5, .byte, 4⟩ thirteenWords (Array.replicate 60 0)
  refine ⟨hpos, hresult, ?_, ?_, by decide, hresult', hwords' 58 (by decide) hresult'⟩
  · rw [hresult] at hrun
    exact hrun
  · rw [(hwords maxWord hpos hresult).records.rawSize]
    exact hsrc

end Calls

end FramePress.Chunk.Exact
