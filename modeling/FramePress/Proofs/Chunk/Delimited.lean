import FramePress.Proofs.Chunk.Destination
import FramePress.Proofs.Chunk.Grammar

/-! # Chunks say where they end

The reader looks at the header and at as many bytes as the header records.  What stands behind them makes no
difference, and none of them can be missing.

* `read_append`: bytes behind a complete chunk are not looked at.
* `read_cut`: a chunk that is cut short is not read.
* `Delimited`, `self_delimiting`: both for any byte string with a complete chunk, and for every chunk that
  was written; none of these is the beginning of another.
-/

namespace FramePress.Chunk
set_option autoImplicit false

open Grammar (chunkSize)

variable {bs : Backends} {b chunk : Bytes}

/-! ## Reading -/

theorem chunkSize_append (hheader : headerSize ≤ b.size) (t : Bytes) : chunkSize (b ++ t) = chunkSize b := by
  have hsize : 12 + 4 ≤ b.size := hheader
  unfold chunkSize
  rw [Bytes.u32At_append_left hsize]

theorem ofBytes_append (hheader : headerSize ≤ b.size) (t : Bytes) :
    Header.ofBytes (b ++ t) = Header.ofBytes b := by
  have hsize : 16 ≤ b.size := hheader
  unfold Header.ofBytes
  rw [Bytes.byteAt_append_left (by omega), Bytes.byteAt_append_left (by omega),
    Bytes.byteAt_append_left (by omega), Bytes.byteAt_append_left (by omega),
    Bytes.u32At_append_left (by omega), Bytes.u32At_append_left (by omega),
    Bytes.u32At_append_left (by omega)]

/-- The header is read from the first 16 bytes. -/
theorem readHeader_append (hheader : headerSize ≤ b.size) (t : Bytes) :
    Header.read (b ++ t) = Header.read b := by
  have hlong : headerSize ≤ (b ++ t).size := by
    rw [Array.size_append]
    omega
  rw [Header.read_of_le hlong, Header.read_of_le hheader, ofBytes_append hheader]

theorem read_append (hheader : headerSize ≤ b.size) (hcomplete : chunkSize b ≤ b.size) (t : Bytes) :
    read bs (b ++ t) = read bs b := by
  unfold read
  rw [readHeader_append hheader]
  cases hread : Header.read b with
  | error e =>
    show (.error e : Except ChunkError Bytes) = .error e
    rfl
  | ok h =>
    obtain ⟨-, -, rfl⟩ := Header.read_eq_ok.mp hread
    have hle : (Header.ofBytes b).chunkSize.toNat ≤ b.size := hcomplete
    have hfront : (b ++ t).extract 0 (Header.ofBytes b).chunkSize.toNat =
        b.extract 0 (Header.ofBytes b).chunkSize.toNat := by
      rw [Array.extract_append, Nat.sub_eq_zero_of_le hle, Nat.zero_sub,
        Array.extract_empty_of_stop_le_start (Nat.le_refl 0), Array.append_empty]
    dsimp only [bind, Except.bind]
    rw [if_neg (by rw [Array.size_append]; omega), if_neg (Nat.not_lt.mpr hle), hfront]

/-- What can be read has its header, and all bytes that the header records. -/
theorem extent_le_of_read {out : Bytes} (h : read bs b = .ok out) : max 16 (chunkSize b) ≤ b.size := by
  obtain ⟨hheader, -, hcomplete, -⟩ := read_eq_ok.mp h
  exact Nat.max_le.mpr ⟨hheader, hcomplete⟩

theorem read_cut {k : Nat} (hk : k < max 16 (chunkSize b)) : ∃ e, read bs (b.extract 0 k) = .error e := by
  cases hread : read bs (b.extract 0 k) with
  | error e => exact ⟨e, rfl⟩
  | ok out =>
    have hle := extent_le_of_read hread
    have hsize : (b.extract 0 k).size ≤ k := by
      rw [Array.size_extract]
      omega
    have hword : chunkSize (b.extract 0 k) = chunkSize b := by
      have hinside : Bytes.u32At (b.extract 0 k) 12 = b.u32At (0 + 12) := Bytes.u32At_extract (by omega)
      exact congrArg UInt32.toNat hinside
    rw [hword] at hle
    omega

/-! ## Chunks and their ends -/

/-- A byte string that is read with the result `r`, whatever follows it, and not at all if it is cut short. -/
structure Delimited (bs : Backends) (front : Bytes) (r : Except ChunkError Bytes) : Prop where
  append : ∀ t, read bs (front ++ t) = r
  cut : ∀ k < front.size, ∃ e, read bs (front.extract 0 k) = .error e

theorem delimited_front (bs : Backends) (hheader : 16 ≤ b.size) (hcomplete : chunkSize b ≤ b.size) :
    Delimited bs (b.extract 0 (max 16 (chunkSize b))) (read bs b) := by
  generalize hm : max 16 (chunkSize b) = m
  have hle : m ≤ b.size := by omega
  have hsize : (b.extract 0 m).size = m := size_front hle
  have hheader' : headerSize ≤ (b.extract 0 m).size := by
    rw [hsize, headerSize]
    omega
  -- the byte string is its own front with a rest behind it
  have hsplit : b.extract 0 m ++ b.extract m b.size = b := by
    rw [Array.extract_append_extract, Nat.min_eq_left (Nat.zero_le m), Nat.max_eq_right hle, Array.extract_size]
  have hword : chunkSize (b.extract 0 m) = chunkSize b := by
    rw [← chunkSize_append hheader' (b.extract m b.size), hsplit]
  have hcomplete' : chunkSize (b.extract 0 m) ≤ (b.extract 0 m).size := by
    rw [hword, hsize]
    omega
  constructor
  · intro t
    calc read bs (b.extract 0 m ++ t)
      _ = read bs (b.extract 0 m) := read_append hheader' hcomplete' t
      _ = read bs (b.extract 0 m ++ b.extract m b.size) := (read_append hheader' hcomplete' _).symm
      _ = read bs b := by rw [hsplit]
  · intro k hk
    rw [hsize, ← hm] at hk
    have hshort : (b.extract 0 m).extract 0 k = b.extract 0 k := by
      rw [Array.extract_extract, Nat.zero_add, Nat.zero_add, Nat.min_eq_left (by omega)]
    rw [hshort]
    exact read_cut hk

/-! ## Chunks that were written -/

/-- The chunk was written by some codec to the front of some destination. -/
def IsWritten (chunk : Bytes) : Prop :=
  ∃ bs s p src dest n, 0 < n ∧ (ChunkCodec.compress bs s p src dest).result = .ok n ∧
    (ChunkCodec.compress bs s p src dest).dest.extract 0 n = chunk

/-- A written chunk records its own size. -/
theorem IsWritten.size (h : IsWritten chunk) : 16 ≤ chunk.size ∧ chunkSize chunk = chunk.size := by
  obtain ⟨bs, s, p, src, dest, n, hn, hresult, hchunk⟩ := h
  obtain ⟨chunk', hwrite, -, hfront⟩ := written_of_compress hn hresult
  obtain rfl : chunk' = chunk := hfront.symm.trans hchunk
  exact ⟨(size_of_write hwrite).1, recordedSize_of_write hwrite⟩

theorem IsWritten.delimited (bs : Backends) (h : IsWritten chunk) : Delimited bs chunk (read bs chunk) := by
  obtain ⟨hheader, hsize⟩ := h.size
  have hfront := delimited_front bs hheader (Nat.le_of_eq hsize)
  rwa [hsize, Nat.max_eq_right hheader, Array.extract_size] at hfront

theorem IsWritten.eq_of_append {t : Bytes} (h : IsWritten chunk) (h' : IsWritten (chunk ++ t)) : t = #[] := by
  obtain ⟨hheader, hsize⟩ := h.size
  obtain ⟨-, hsize'⟩ := h'.size
  rw [chunkSize_append hheader, hsize, Array.size_append] at hsize'
  exact Array.eq_empty_of_size_eq_zero (by omega)

/-- The reader needs all of a chunk and no more, and no written chunk is a proper beginning of another. -/
theorem self_delimiting (bs : Backends) :
    (∀ b : Bytes, 16 ≤ b.size → chunkSize b ≤ b.size →
      Delimited bs (b.extract 0 (max 16 (chunkSize b))) (read bs b)) ∧
    (∀ chunk, IsWritten chunk → Delimited bs chunk (read bs chunk)) ∧
    ∀ chunk t, IsWritten chunk → IsWritten (chunk ++ t) → t = #[] :=
  ⟨fun _ => delimited_front bs, fun _ => IsWritten.delimited bs, fun _ _ => IsWritten.eq_of_append⟩

/-- A backend that knows the packed form of 32 zeros. -/
def zerosBackend : Backend := oneBlock (Array.replicate 32 0) #[0]

/-- A header that records three bytes, and two bytes behind it. -/
def shortChunk : Bytes := #[2, 1, 34, 1, 0, 0, 0, 0, 0, 0, 0, 0, 3, 0, 0, 0, 9, 9]

/-- The packed chunk of 32 zeros, which is read back with and without bytes behind it, and a chunk that is
shorter than a header. -/
theorem self_delimiting_zeros :
    let bs : Backends := fun _ => zerosBackend
    let r := ChunkCodec.compress bs {} ⟨1, .off, 1⟩ (Array.replicate 32 0) (Array.replicate 40 0)
    let chunk := r.dest.extract 0 25
    IsWritten chunk ∧ read bs chunk = .ok (Array.replicate 32 0) ∧ read bs (chunk ++ #[1, 2]) = read bs chunk ∧
      (∃ e, read bs (chunk.extract 0 24) = .error e) ∧ ¬ IsWritten (chunk ++ #[1, 2]) ∧
      16 ≤ shortChunk.size ∧ chunkSize shortChunk = 3 ∧
      read bs (shortChunk.extract 0 16 ++ #[5]) = read bs shortChunk := by
  intro bs r chunk
  have hresult : r.result = .ok 25 := by
    unfold r bs
    rw [ChunkCodec.compress_eq]
    cbv
  have hwritten : IsWritten chunk := ⟨bs, _, _, _, _, 25, by decide, hresult, rfl⟩
  have hread : read bs chunk = .ok (Array.replicate 32 0) :=
    read_compress (oneBlock_faithful _ _) (by decide) hresult
  have hsize : chunk.size = 25 := by
    unfold chunk r bs
    rw [ChunkCodec.compress_eq]
    cbv
  have hshort : chunkSize shortChunk = 3 := by decide
  obtain ⟨hfront, hdelimited, hproper⟩ := self_delimiting bs
  have hchunk := hdelimited chunk hwritten
  have hcut := hchunk.cut 24 (by omega)
  have hfront' := (hfront shortChunk (by decide) (by rw [hshort]; decide)).append #[5]
  rw [hshort] at hfront'
  exact ⟨hwritten, hread, hchunk.append #[1, 2], hcut,
    fun h => absurd (hproper chunk #[1, 2] hwritten h) (by decide), by decide, hshort, hfront'⟩

end FramePress.Chunk
