import FramePress.Codec.Chunked
import FramePress.Proofs.Bytes.Buffer
import FramePress.Proofs.Chunk.Layout

/-! # A chunk that is written into a buffer

While the blocks are written, the buffer is: the entries written so far, the rest of the table, the blocks
written so far, the rest of the buffer.  A block takes its entry from the front of one rest and its bytes
from the front of the other.

* `Workers.map_eq_mapM`: all pools of workers have the same results.
* `placeBlocks?_eq_some`: what the loop leaves.
* `packedInto?_eq_some`, `storedInto?_eq_some`: the buffer with the chunk over its front.
* `Attempts`, `exists_pack`: all that the attempt at a packed chunk can do; without a chunk it changes nothing.
* `compressInto?_eq`: writing into a buffer is never stuck, and leaves the chunk of `write` or no trace.
* `Compresses`, `compress_cases`: all that a compression can do.
-/

namespace FramePress
set_option autoImplicit false

/-! ## Workers -/

section Parts
variable {α β : Type} {f : α → Option β} {parts : List α}

theorem exists_of_map_eq {results : List β} (h : parts.map f = results.map some) {part : α}
    (hmem : part ∈ parts) : ∃ result, f part = some result := by
  have hmap : f part ∈ results.map some := h ▸ List.mem_map_of_mem hmem
  obtain ⟨result, -, hresult⟩ := List.mem_map.mp hmap
  exact ⟨result, hresult.symm⟩

theorem exists_mapM (h : ∀ part ∈ parts, ∃ result, f part = some result) :
    ∃ results, parts.mapM f = some results := by
  cases hparts : parts.mapM f with
  | some results => exact ⟨results, rfl⟩
  | none =>
    obtain ⟨part, hmem, hnone⟩ := exists_of_mapM_eq_none hparts
    obtain ⟨result, hresult⟩ := h part hmem
    rw [hnone] at hresult
    cases hresult

end Parts

/-- What a pool of workers promises leaves it no choice. -/
theorem Workers.map_eq_mapM (w : Workers) (f : Bytes → Option Bytes) (parts : List Bytes) :
    w.map f parts = parts.mapM f := by
  cases hworkers : w.map f parts with
  | none =>
    obtain ⟨part, hmem, hnone⟩ := w.complete hworkers
    cases hparts : parts.mapM f with
    | none => rfl
    | some results =>
      obtain ⟨result, hresult⟩ := exists_of_map_eq (map_of_mapM hparts) hmem
      rw [hnone] at hresult
      cases hresult
  | some results =>
    have hordered := w.ordered hworkers
    obtain ⟨results', hparts⟩ := exists_mapM fun part => exists_of_map_eq hordered
    have hsame := hordered.symm.trans (map_of_mapM hparts)
    rw [hparts, (List.map_inj_right fun _ _ => Option.some.inj).mp hsame]

namespace Chunk

open Bytes

theorem exists_split {b : Bytes} {n : Nat} (h : n ≤ b.size) :
    ∃ front rest : Bytes, b = front ++ rest ∧ front.size = n := by
  refine ⟨b.extract 0 n, b.extract n b.size, ?_, ?_⟩
  · rw [Array.extract_append_extract, Nat.min_eq_left (Nat.zero_le _), Nat.max_eq_right h, Array.extract_size]
  · rw [Array.size_extract]
    omega

/-! ## The loop over the blocks -/

theorem framed_cons (block : Bytes) (rest : List Bytes) :
    framed (block :: rest) = (ofUInt32 block.size.toUInt32 ++ block) :: framed rest := rfl

/-- One turn: an entry behind `table`, a length and a block behind `body`. -/
theorem placeBlocks?_step {table oldEntry gap body oldLength oldBlock block : Bytes} {offset : Nat} (tail : Bytes)
    (blocks : List Bytes) (hoffset : offset = table.size + (oldEntry ++ gap).size + body.size)
    (hentry : oldEntry.size = 4) (hlength : oldLength.size = 4) (hblock : oldBlock.size = block.size) :
    let entry := ofUInt32 offset.toUInt32
    let length := ofUInt32 block.size.toUInt32
    placeBlocks? table.size offset (block :: blocks)
        (table ++ (oldEntry ++ gap) ++ body ++ (oldLength ++ (oldBlock ++ tail))) =
      placeBlocks? (table.size + 4) (offset + 4 + block.size) blocks
        (table ++ entry ++ gap ++ (body ++ length ++ block) ++ tail) := by
  intro entry length
  rw [Array.size_append] at hoffset
  have hplaceEntry : (table ++ (oldEntry ++ (gap ++ body ++ oldLength ++ oldBlock ++ tail))).place? table.size
      entry = some (table ++ (entry ++ (gap ++ body ++ oldLength ++ oldBlock ++ tail))) :=
    place?_middle rfl hentry
  have hplaceLength : (table ++ entry ++ gap ++ body ++ (oldLength ++ (oldBlock ++ tail))).place? offset length =
      some (table ++ entry ++ gap ++ body ++ (length ++ (oldBlock ++ tail))) := by
    refine place?_middle ?_ hlength
    simp only [Array.size_append, entry, size_ofUInt32]
    omega
  have hplaceBlock : (table ++ entry ++ gap ++ body ++ length ++ (oldBlock ++ tail)).place? (offset + 4) block =
      some (table ++ entry ++ gap ++ body ++ length ++ (block ++ tail)) := by
    refine place?_middle ?_ hblock
    simp only [Array.size_append, entry, length, size_ofUInt32]
    omega
  simp only [Array.append_assoc] at hplaceEntry hplaceLength hplaceBlock ⊢
  rw [placeBlocks?]
  dsimp only [bind]
  rw [hplaceEntry, Option.bind_some, hplaceLength, Option.bind_some, hplaceBlock, Option.bind_some]

/-- All turns: the entries go over `gap`, the blocks over the front of `tail`. -/
theorem placeBlocks?_eq_some {blocks : List Bytes} {gap tail : Bytes} (table body : Bytes)
    (hgap : gap.size = 4 * blocks.length) (htail : total (framed blocks) ≤ tail.size) :
    placeBlocks? table.size (table.size + gap.size + body.size) blocks (table ++ gap ++ body ++ tail) =
      some (table ++ join ((blockStarts (table.size + gap.size + body.size) blocks).map fun start =>
        ofUInt32 start.toUInt32) ++ body ++ tail.overlay (join (framed blocks))) := by
  induction blocks generalizing table gap body tail with
  | nil =>
    have hempty : gap = #[] := Array.size_eq_zero_iff.mp hgap
    subst hempty
    simp [placeBlocks?, blockStarts, framed, overlay]
  | cons block rest ih =>
    rw [List.length_cons] at hgap
    rw [framed_cons, total_cons, Array.size_append, size_ofUInt32] at htail
    obtain ⟨oldEntry, gap', rfl, hentry⟩ := exists_split (b := gap) (n := 4) (by omega)
    obtain ⟨oldLength, tail', rfl, hlength⟩ := exists_split (b := tail) (n := 4) (by omega)
    rw [Array.size_append] at hgap htail
    obtain ⟨oldBlock, tail'', rfl, hblock⟩ := exists_split (b := tail') (n := block.size) (by omega)
    rw [Array.size_append] at htail
    have hgap' : gap'.size = 4 * rest.length := by omega
    have htail' : total (framed rest) ≤ tail''.size := by omega
    generalize hoffset : table.size + (oldEntry ++ gap').size + body.size = offset
    have hstep := placeBlocks?_step tail'' rest hoffset.symm hentry hlength hblock
    let entry := ofUInt32 offset.toUInt32
    let length := ofUInt32 block.size.toUInt32
    have hrest := ih (table ++ entry) (body ++ length ++ block) hgap' htail'
    have hslot : (table ++ entry).size = table.size + 4 := Array.size_append
    have hnext : (table ++ entry).size + gap'.size + (body ++ length ++ block).size = offset + 4 + block.size := by
      simp only [Array.size_append, entry, length, size_ofUInt32] at hoffset ⊢
      omega
    have hover : (oldLength ++ (oldBlock ++ tail'')).overlay (join (framed (block :: rest))) =
        length ++ block ++ tail''.overlay (join (framed rest)) := by
      rw [framed_cons, join_cons, Array.append_assoc, overlay_append hlength, overlay_append hblock,
        Array.append_assoc]
    rw [hnext, hslot] at hrest
    rw [hstep, hrest, hover, blockStarts, List.map_cons, join_cons]
    simp only [Array.append_assoc, entry, length]

/-! ## The two kinds of chunk -/

section Kinds
variable {h : Header} {dest : Bytes}

theorem place?_front {old part rest : Bytes} (hsize : old.size = part.size) :
    (old ++ rest).place? 0 part = some (part ++ rest) := by
  have hplace : place? (#[] ++ (old ++ rest)) 0 part = some (#[] ++ (part ++ rest)) := place?_middle rfl hsize
  rwa [Array.empty_append, Array.empty_append] at hplace

theorem packedInto?_eq_some {blocks : List Bytes} (hroom : packedSize blocks ≤ dest.size) :
    packedInto? h blocks dest = some (dest.overlay (packedBytes h blocks)) := by
  have hframed := total_framed blocks
  unfold packedSize at hroom
  obtain ⟨oldHeader, behind, rfl, hheader⟩ := exists_split (b := dest) (n := headerSize) (by omega)
  rw [Array.size_append] at hroom
  obtain ⟨gap, tail, rfl, hgap⟩ := exists_split (b := behind) (n := 4 * blocks.length) (by omega)
  rw [Array.size_append] at hroom
  have hsize : oldHeader.size = h.toBytes.size := hheader.trans (Header.size_toBytes h).symm
  have htable : gap.size = (join (tableEntries blocks)).size := by
    rw [size_join, total_tableEntries, hgap]
  have htail : total (framed blocks) ≤ tail.size := by omega
  have hloop := placeBlocks?_eq_some h.toBytes #[] hgap htail
  rw [Array.append_empty, Array.append_empty, Header.size_toBytes, hgap, Array.size_empty, Nat.add_zero,
    Array.append_assoc, Array.append_assoc] at hloop
  unfold packedInto?
  dsimp only [bind]
  rw [place?_front hsize, Option.bind_some, packedBytes_eq, Array.append_assoc, overlay_append hsize,
    overlay_append htable]
  exact hloop

theorem storedInto?_eq_some {src : Bytes} (hroom : headerSize + src.size ≤ dest.size) :
    storedInto? h src dest = some (dest.overlay (storedBytes h src)) := by
  obtain ⟨oldHeader, behind, rfl, hheader⟩ := exists_split (b := dest) (n := headerSize) (by omega)
  rw [Array.size_append] at hroom
  obtain ⟨oldBody, tail, rfl, hbody⟩ := exists_split (b := behind) (n := src.size) (by omega)
  have hsize : oldHeader.size = h.toBytes.size := hheader.trans (Header.size_toBytes h).symm
  unfold storedInto? storedBytes
  dsimp only [bind]
  rw [place?_front hsize, Option.bind_some, overlay_append hsize, overlay_front hbody,
    place?_middle (Header.size_toBytes h).symm hbody]

end Kinds

/-! ## Attempts -/

/-- Workers or not, the blocks are the same. -/
theorem encodeBlocks_eq (workers : Option Workers) (b : Backend) (level : Nat) (mode : ShuffleMode)
    (typeSize : Nat) (src : Bytes) :
    encodeBlocks workers b level mode typeSize src = packBlocks b level mode typeSize src := by
  cases workers with
  | none => rfl
  | some w => exact w.map_eq_mapM _ _

section Attempts
variable {b : Backend} {c : Compressor} {p : Params} {src dest : Bytes} {typeSize : Nat} {d : Draft}

/-- The header of a packed chunk. -/
def Draft.packedHeader (d : Draft) (p : Params) (typeSize rawSize : Nat) (blocks : List Bytes) : Header :=
  { d.header with
    flags := d.header.flags ||| shuffleFlag p.shuffle
    blockSize := (blockSize p.level.toNat typeSize rawSize).toUInt32
    chunkSize := (packedSize blocks).toUInt32 }

/-- All that the attempt at a packed chunk can do. -/
inductive Attempts (b : Backend) (p : Params) (typeSize : Nat) (src : Bytes) (d : Draft) : Attempt × Draft → Prop
  | failed (hblocks : packBlocks b p.level.toNat p.shuffle typeSize src = none) :
      Attempts b p typeSize src d (.failed, d)
  | declined (blocks : List Bytes) (hblocks : packBlocks b p.level.toNat p.shuffle typeSize src = some blocks)
      (hnot : ¬ (packedSize blocks < headerSize + src.size ∧ packedSize blocks ≤ d.dest.size)) :
      Attempts b p typeSize src d (.declined, d)
  | written (blocks : List Bytes) (hblocks : packBlocks b p.level.toNat p.shuffle typeSize src = some blocks)
      (hsize : packedSize blocks < headerSize + src.size ∧ packedSize blocks ≤ d.dest.size)
      (header : Header) (hheader : header = d.packedHeader p typeSize src.size blocks) :
      Attempts b p typeSize src d
        (.written (packedSize blocks), ⟨header, d.dest.overlay (packedBytes header blocks)⟩)

theorem exists_pack (workers : Option Workers) (b : Backend) (p : Params) (typeSize : Nat) (src : Bytes)
    (d : Draft) : ∃ r, d.pack? workers b p typeSize src = some r ∧ Attempts b p typeSize src d r := by
  unfold Draft.pack?
  rw [encodeBlocks_eq]
  cases hblocks : packBlocks b p.level.toNat p.shuffle typeSize src with
  | none => exact ⟨_, rfl, .failed hblocks⟩
  | some blocks =>
    dsimp only
    by_cases hdeclined : headerSize + src.size ≤ packedSize blocks ∨ d.dest.size < packedSize blocks
    · rw [if_pos hdeclined]
      exact ⟨_, rfl, .declined blocks hblocks (by omega)⟩
    · rw [if_neg hdeclined, packedInto?_eq_some (by omega)]
      exact ⟨_, rfl, .written blocks hblocks (by omega) _ rfl⟩

/-- What a compression reports and leaves, given the chunk for the front of the buffer, if there is one. -/
def placed (dest : Bytes) : Except Status (Option Bytes) → Except Status Nat × Bytes
  | .error status => (.error status, dest)
  | .ok none => (.ok 0, dest)
  | .ok (some chunk) => (.ok chunk.size, dest.overlay chunk)

/-- The attempt at a stored chunk, before anything has been entered into the header. -/
theorem store?_base (c : Compressor) (p : Params) (src dest : Bytes) : ∃ n d,
    Draft.store? src ⟨baseHeader c (effectiveTypeSize p.typeSize) src.size, dest⟩ = some (n, d) ∧
      (.ok n, d.dest) = placed dest (.ok (stored? c p src dest.size)) := by
  unfold Draft.store? stored?
  dsimp only
  by_cases hroom : dest.size < headerSize + src.size
  · rw [if_pos hroom, if_neg (Nat.not_le.mpr hroom)]
    exact ⟨_, _, rfl, rfl⟩
  · rw [if_neg hroom, if_pos (Nat.not_lt.mp hroom), storedInto?_eq_some (Nat.not_lt.mp hroom)]
    refine ⟨_, _, rfl, ?_⟩
    rw [placed, stored, size_storedBytes]

theorem compressChecked?_eq (workers : Option Workers) (b : Backend) (c : Compressor) (p : Params)
    (src dest : Bytes) : compressChecked? workers b c p src dest =
      some (placed dest (writeChecked b c p src dest.size)) := by
  obtain ⟨n, d, hstore, hstored⟩ := store?_base c p src dest
  unfold compressChecked? writeChecked
  by_cases hpackable : isPackable p src = true
  · rw [if_pos hpackable, if_pos hpackable]
    obtain ⟨r, hpack, hcases⟩ := exists_pack workers b p (effectiveTypeSize p.typeSize) src
      ⟨baseHeader c (effectiveTypeSize p.typeSize) src.size, dest⟩
    dsimp only [bind]
    rw [hpack, Option.bind_some]
    cases hcases with
    | failed hblocks =>
      rw [hblocks]
      rfl
    | declined blocks hblocks hnot =>
      rw [hblocks]
      dsimp only
      rw [if_neg hnot, hstore, ← hstored]
      rfl
    | written blocks hblocks hsize header hheader =>
      rw [hblocks, hheader]
      dsimp only
      rw [if_pos hsize, placed, packed, size_packedBytes]
      rfl
  · rw [if_neg hpackable, if_neg hpackable]
    dsimp only [bind]
    rw [Option.bind_some]
    dsimp only
    rw [hstore, ← hstored]
    rfl

/-- A buffer that is written into ends up as if the chunk had been put together first. -/
theorem compressInto?_eq (workers : Option Workers) (bs : Backends) (c : Compressor) (p : Params)
    (src dest : Bytes) : compressInto? workers bs c p src dest = some (placed dest (write bs c p src dest.size)) := by
  unfold compressInto? write
  simp only [apply_ite (placed dest), apply_ite some]
  rw [compressChecked?_eq]
  rfl

end Attempts

end Chunk

/-- A compression leaves the chunk at the front of the destination, or no trace. -/
theorem ChunkCodec.compress_eq (bs : Backends) (s : ChunkCodec) (p : Params) (src dest : Bytes) :
    compress bs s p src dest =
      match Chunk.write bs s.compressor p src dest.size with
      | .error status => ⟨.error status, dest, s⟩
      | .ok none => ⟨.ok 0, dest, s⟩
      | .ok (some chunk) => ⟨.ok chunk.size, dest.overlay chunk, s⟩ := by
  unfold compress
  rw [Chunk.compressInto?_eq]
  cases Chunk.write bs s.compressor p src dest.size with
  | error status => rfl
  | ok written =>
    cases written with
    | none => rfl
    | some chunk => rfl

theorem ChunkCodec.compress_of_write {bs : Backends} {s : ChunkCodec} {p : Params} {src dest chunk : Bytes}
    (h : Chunk.write bs s.compressor p src dest.size = .ok (some chunk)) :
    compress bs s p src dest = ⟨.ok chunk.size, dest.overlay chunk, s⟩ := by
  rw [compress_eq, h]

namespace Chunk

/-- All that a compression can do. -/
inductive Compresses (bs : Backends) (s : ChunkCodec) (p : Params) (src dest : Bytes) :
    Compression ChunkCodec → Prop
  | refused (status : Status) : Compresses bs s p src dest ⟨.error status, dest, s⟩
  | noRoom : Compresses bs s p src dest ⟨.ok 0, dest, s⟩
  | written (chunk : Bytes) (hwrite : write bs s.compressor p src dest.size = .ok (some chunk)) :
      Compresses bs s p src dest ⟨.ok chunk.size, dest.overlay chunk, s⟩

theorem compress_cases (bs : Backends) (s : ChunkCodec) (p : Params) (src dest : Bytes) :
    Compresses bs s p src dest (ChunkCodec.compress bs s p src dest) := by
  rw [ChunkCodec.compress_eq]
  cases hwrite : write bs s.compressor p src dest.size with
  | error status => exact .refused status
  | ok written =>
    cases written with
    | none => exact .noRoom
    | some chunk => exact .written chunk hwrite

theorem written_of_compress {bs : Backends} {s : ChunkCodec} {p : Params} {src dest : Bytes} {n : Nat}
    (hn : 0 < n) (hresult : (ChunkCodec.compress bs s p src dest).result = .ok n) :
    ∃ chunk, write bs s.compressor p src dest.size = .ok (some chunk) ∧ chunk.size = n ∧
      (ChunkCodec.compress bs s p src dest).dest.extract 0 n = chunk := by
  have hcases := compress_cases bs s p src dest
  generalize ChunkCodec.compress bs s p src dest = r at hcases hresult ⊢
  cases hcases with
  | refused status => cases hresult
  | noRoom =>
    cases hresult
    exact absurd hn (Nat.lt_irrefl 0)
  | written chunk hwrite =>
    cases hresult
    exact ⟨chunk, hwrite, rfl, Bytes.extract_overlay dest chunk⟩

end Chunk
end FramePress
