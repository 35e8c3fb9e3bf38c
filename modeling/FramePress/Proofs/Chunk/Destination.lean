import FramePress.Proofs.Chunk.RoundTrip

/-! # The destination has no part in the chunk

Parameters and source settle which chunk there is for a source.  The destination only settles whether it is
written: if the packed chunk does not fit, then the stored one, which is larger, does not fit either.

* `chunkFor?`: the chunk for a source, whatever room there is.
* `writeChecked_eq`: it is written if it fits; `write_of_le`: and then wherever there is more room.
* `Contained`, `compress_contained`: the same chunk in every destination, and nothing beside it.
* `backwards`: workers that do the parts in another order.
-/

namespace FramePress.Chunk
set_option autoImplicit false

variable {bs : Backends} {b : Backend} {c : Compressor} {p : Params} {src chunk : Bytes}

/-! ## The chunk for a source -/

/-- The packed chunk if that is worth its while, else the stored one; none if the encoder fails. -/
def chunkFor? (b : Backend) (c : Compressor) (p : Params) (src : Bytes) : Option Bytes :=
  if isPackable p src then
    (packBlocks b p.level.toNat p.shuffle (effectiveTypeSize p.typeSize) src).map fun blocks =>
      if packedSize blocks < headerSize + src.size then packed c p src.size blocks else stored c p src
  else some (stored c p src)

/-- A chunk, if it fits into the room there is. -/
def fitting (room : Nat) (chunk : Bytes) : Option Bytes := if chunk.size ≤ room then some chunk else none

theorem fitting_eq_some {room : Nat} {chunk' : Bytes} :
    fitting room chunk = some chunk' ↔ chunk.size ≤ room ∧ chunk = chunk' := by
  unfold fitting
  by_cases h : chunk.size ≤ room
  · rw [if_pos h, Option.some_inj, and_iff_right h]
  · rw [if_neg h]
    exact ⟨fun h' => (nomatch h'), fun h' => absurd h'.1 h⟩

theorem stored?_eq_fitting (room : Nat) : stored? c p src room = fitting room (stored c p src) := by
  unfold stored? fitting
  rw [size_stored]

theorem writeChecked_eq (b : Backend) (c : Compressor) (p : Params) (src : Bytes) (room : Nat) :
    writeChecked b c p src room =
      match chunkFor? b c p src with
      | none => .error .failure
      | some chunk => .ok (fitting room chunk) := by
  unfold writeChecked chunkFor?
  by_cases hpackable : isPackable p src = true
  · rw [if_pos hpackable, if_pos hpackable]
    cases packBlocks b p.level.toNat p.shuffle (effectiveTypeSize p.typeSize) src with
    | none => rfl
    | some blocks =>
      dsimp only [Option.map_some]
      by_cases hsmaller : packedSize blocks < headerSize + src.size
      · rw [if_pos hsmaller]
        unfold fitting
        rw [size_packed]
        by_cases hroom : packedSize blocks ≤ room
        · rw [if_pos ⟨hsmaller, hroom⟩, if_pos hroom]
        · -- there is even less room for the stored chunk
          have hstored : ¬ headerSize + src.size ≤ room := by omega
          rw [if_neg fun h => hroom h.2, if_neg hroom, stored?, if_neg hstored]
      · rw [if_neg fun h => hsmaller h.1, if_neg hsmaller, stored?_eq_fitting]
  · rw [if_neg hpackable, if_neg hpackable, stored?_eq_fitting]

theorem chunkFor?_of_write {room : Nat} (h : write bs c p src room = .ok (some chunk)) :
    chunkFor? (bs c) c p src = some chunk := by
  obtain ⟨-, -, -, -, hchecked⟩ := writeChecked_of_write h
  rw [writeChecked_eq] at hchecked
  cases hchunk : chunkFor? (bs c) c p src with
  | none =>
    rw [hchunk] at hchecked
    cases hchecked
  | some chunk' =>
    rw [hchunk] at hchecked
    obtain ⟨-, rfl⟩ := fitting_eq_some.mp (Except.ok.inj hchecked)
    rfl

/-- A chunk that is written is written wherever there is more room. -/
theorem write_of_le {room room' : Nat} (h : write bs c p src room = .ok (some chunk)) (hle : room ≤ room') :
    write bs c p src room' = .ok (some chunk) := by
  obtain ⟨hsrc, hlevel, htype, hover, -⟩ := writeChecked_of_write h
  obtain ⟨-, -, hroom⟩ := size_of_write h
  rw [write_eq_writeChecked hlevel htype hsrc (Nat.le_trans hover hle), writeChecked_eq, chunkFor?_of_write h]
  exact congrArg Except.ok (fitting_eq_some.mpr ⟨Nat.le_trans hroom hle, rfl⟩)

/-! ## Compressions -/

variable {s s' : ChunkCodec}

theorem getElem?_overlay {dest front : Bytes} {i : Nat} (hi : front.size ≤ i) :
    (dest.overlay front)[i]? = dest[i]? := by
  unfold Bytes.overlay
  rw [Array.getElem?_append_right hi, Array.getElem?_extract]
  by_cases hdest : i < dest.size
  · rw [if_pos (by omega), Nat.add_sub_cancel' hi]
  · rw [if_neg (by omega), Array.getElem?_eq_none (Nat.not_lt.mp hdest)]

/-- What a compression leaves as it was. -/
structure Contained (s : ChunkCodec) (dest : Bytes) (r : Compression ChunkCodec) : Prop where
  size : r.dest.size = dest.size
  /-- Only as many bytes are written as are reported. -/
  behind : ∀ n, r.result = .ok n → n ≤ dest.size ∧ ∀ i, n ≤ i → r.dest[i]? = dest[i]?
  /-- If there is no chunk, nothing is written at all. -/
  unwritten : (∀ n, r.result = .ok n → n = 0) → r.dest = dest
  compressor : r.state.compressor = s.compressor
  threads : r.state.threads = s.threads
  workers : r.state.workers = s.workers

theorem contained (bs : Backends) (s : ChunkCodec) (p : Params) (src dest : Bytes) :
    Contained s dest (ChunkCodec.compress bs s p src dest) := by
  have hcases := compress_cases bs s p src dest
  generalize ChunkCodec.compress bs s p src dest = r at hcases ⊢
  cases hcases with
  | refused status => exact ⟨rfl, fun n hn => (nomatch hn), fun _ => rfl, rfl, rfl, rfl⟩
  | noRoom =>
    refine ⟨rfl, fun n hn => ?_, fun _ => rfl, rfl, rfl, rfl⟩
    cases hn
    exact ⟨Nat.zero_le _, fun _ _ => rfl⟩
  | written chunk hwrite =>
    obtain ⟨hge, -, hroom⟩ := size_of_write hwrite
    refine ⟨Bytes.size_overlay hroom, fun n hn => ?_, fun hzero => ?_, rfl, rfl, rfl⟩
    · cases hn
      exact ⟨hroom, fun i hi => getElem?_overlay hi⟩
    · have hempty : chunk.size = 0 := hzero chunk.size rfl
      rw [hempty] at hge
      exact absurd hge (by decide)

/-- The writer is not stuck, and what it leaves is what the codec reports. -/
theorem compressInto?_compress (bs : Backends) (s : ChunkCodec) (p : Params) (src dest : Bytes) :
    let r := ChunkCodec.compress bs s p src dest
    compressInto? s.workers bs s.compressor p src dest = some (r.result, r.dest) := by
  unfold ChunkCodec.compress
  rw [compressInto?_eq]

/-- Codecs with one compressor, whatever their threads and workers, write the same chunk into any two
destinations in which they write one, and leave everything else alone. -/
theorem compress_contained (hs : s.compressor = s'.compressor) (p : Params) (src dest dest' : Bytes) :
    let r := ChunkCodec.compress bs s p src dest
    let r' := ChunkCodec.compress bs s' p src dest'
    compressInto? s.workers bs s.compressor p src dest = some (r.result, r.dest) ∧
      compressInto? s'.workers bs s'.compressor p src dest' = some (r'.result, r'.dest) ∧
      (∀ n n', 0 < n → 0 < n' → r.result = .ok n → r'.result = .ok n' →
        n = n' ∧ r.dest.extract 0 n = r'.dest.extract 0 n') ∧
      Contained s dest r ∧ Contained s' dest' r' := by
  refine ⟨compressInto?_compress bs s p src dest, compressInto?_compress bs s' p src dest',
    fun n n' hn hn' hr hr' => ?_, contained bs s p src dest, contained bs s' p src dest'⟩
  obtain ⟨chunk, hwrite, hsize, hfront⟩ := written_of_compress hn hr
  obtain ⟨chunk', hwrite', hsize', hfront'⟩ := written_of_compress hn' hr'
  have hchunk := chunkFor?_of_write hwrite
  have hchunk' := chunkFor?_of_write hwrite'
  rw [← hs, hchunk] at hchunk'
  obtain rfl := Option.some.inj hchunk'
  exact ⟨hsize.symm.trans hsize', hfront.trans hfront'.symm⟩

/-- Workers that begin with the last part. -/
def backwards : Workers where
  map f parts := (parts.reverse.mapM f).map List.reverse
  ordered h := by
    obtain ⟨results, hresults, rfl⟩ := Option.map_eq_some_iff.mp h
    rw [List.map_reverse, ← map_of_mapM hresults, List.map_reverse, List.reverse_reverse]
  complete h := by
    obtain ⟨part, hmem, hnone⟩ := exists_of_mapM_eq_none (Option.map_eq_none_iff.mp h)
    exact ⟨part, List.mem_reverse.mp hmem, hnone⟩

/-- The words and the odd byte take 58 bytes in a destination too small for a stored chunk, and for four threads
that begin with the odd byte and have room to spare. -/
theorem compress_contained_thirteenWords :
    let pf : Platform := { workers? := fun _ => some backwards }
    let s' := (ChunkCodec.setThreads pf {} 4).2
    let dest' : Bytes := Array.replicate 80 7
    let r := ChunkCodec.compress (fun _ => wordsBackend) {} ⟨5, .byte, 4⟩ thirteenWords (Array.replicate 60 0)
    let r' := ChunkCodec.compress (fun _ => wordsBackend) s' ⟨5, .byte, 4⟩ thirteenWords dest'
    ({} : ChunkCodec).compressor = s'.compressor ∧ s'.threads = 4 ∧ s'.workers = some backwards ∧
      r.result = .ok 58 ∧ r'.result = .ok 58 ∧ r.dest.extract 0 58 = r'.dest.extract 0 58 ∧
      r'.dest[58]? = some 7 := by
  intro pf s' dest' r r'
  have hs : ({} : ChunkCodec).compressor = s'.compressor := rfl
  have hr : r.result = .ok 58 := congrArg Compression.result compress_thirteenWords
  have hr' : r'.result = .ok 58 := by
    obtain ⟨chunk, hwrite, hsize, -⟩ := written_of_compress (by decide) hr
    have hwrite' : write (fun _ => wordsBackend) s'.compressor ⟨5, .byte, 4⟩ thirteenWords dest'.size =
        .ok (some chunk) := write_of_le hwrite (by decide)
    have hcompress : r' = _ := ChunkCodec.compress_of_write hwrite'
    exact (congrArg Compression.result hcompress).trans (congrArg Except.ok hsize)
  obtain ⟨-, -, hsame, -, hcontained⟩ := @compress_contained (fun _ => wordsBackend) {} s' hs ⟨5, .byte, 4⟩
    thirteenWords (Array.replicate 60 0) dest'
  have hchunk := hsame 58 58 (by decide) (by decide) hr hr'
  have hbehind := (hcontained.behind 58 hr').2 58 (Nat.le_refl 58)
  exact ⟨hs, rfl, rfl, hr, hr', hchunk.2, hbehind.trans rfl⟩

end FramePress.Chunk
