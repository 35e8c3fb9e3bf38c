import FramePress.Proofs.Bytes.Parts
import FramePress.Proofs.Chunk.Header

/-! # What the chunk reader does, step by step

One statement for each function of the reader: exactly when it succeeds, and with what.  The reader
works on the first `n` bytes of a longer byte string `b`; positions and contents are given in terms of
`b`, for inside the first `n` bytes there is no difference.

* `blockStart`, `blockLength`, `blockBytes`: a block as the table and its length describe it.
* `storedBlock_eq_ok`: the three ranges that must lie inside.
* `Expands`: a stored block and its shuffled form; `unpackBlock_eq_ok` and `readBlock_eq_ok`.
* `readBlocks_eq_ok`: all blocks in order.
-/

namespace FramePress
set_option autoImplicit false

/-- A sequence of two computations succeeds exactly if both do. -/
theorem bind_eq_ok {ε α β : Type} {x : Except ε α} {f : α → Except ε β} {b : β} :
    (x >>= f) = .ok b ↔ ∃ a, x = .ok a ∧ f a = .ok b := by
  cases x with
  | error e => exact ⟨fun h => (nomatch h), fun ⟨_, h, _⟩ => (nomatch h)⟩
  | ok a =>
    constructor
    · exact fun h => ⟨a, rfl, h⟩
    · rintro ⟨_, h, hf⟩
      cases h
      exact hf

namespace Chunk

/-! ## Positions -/

/-- The position of block `i`, as the table records it. -/
def blockStart (b : Bytes) (i : Nat) : Nat := (b.u32At (16 + 4 * i)).toNat

/-- The length recorded at the position of block `i`. -/
def blockLength (b : Bytes) (i : Nat) : Nat := (b.u32At (blockStart b i)).toNat

/-- The stored form of block `i`. -/
def blockBytes (b : Bytes) (i : Nat) : Bytes :=
  b.extract (blockStart b i + 4) (blockStart b i + 4 + blockLength b i)

/-! ## One block -/

section Prefix
variable {b : Bytes} {n : Nat} (hn : n ≤ b.size)
include hn

theorem size_front : (b.extract 0 n).size = n := by
  rw [Array.size_extract]
  omega

theorem wordAt_eq_ok {i w : Nat} :
    wordAt (b.extract 0 n) i = .ok w ↔ i + 4 ≤ n ∧ (b.u32At i).toNat = w := by
  unfold wordAt
  cases hw : Bytes.u32At? (b.extract 0 n) i with
  | none =>
    simp only [Bytes.u32At?, size_front hn] at hw
    refine ⟨fun h => (nomatch h), fun h => ?_⟩
    rw [if_pos h.1] at hw
    cases hw
  | some v =>
    rw [Bytes.u32At?_eq_some, size_front hn] at hw
    obtain ⟨hi, rfl⟩ := hw
    rw [Bytes.u32At_extract (by omega), Nat.zero_add, and_iff_right hi, Except.ok.injEq]

theorem slice?_front {start len : Nat} {data : Bytes} :
    Bytes.slice? (b.extract 0 n) start len = some data ↔
      start + len ≤ n ∧ b.extract start (start + len) = data := by
  rw [Bytes.slice?_eq_some, size_front hn, Array.extract_extract]
  refine and_congr_right fun hle => ?_
  rw [Nat.zero_add, Nat.zero_add, Nat.min_eq_left hle]

theorem storedBlock_eq_ok {i : Nat} {data : Bytes} :
    storedBlock (b.extract 0 n) i = .ok data ↔
      16 + 4 * i + 4 ≤ n ∧ blockStart b i + 4 ≤ n ∧ blockStart b i + 4 + blockLength b i ≤ n ∧
        blockBytes b i = data := by
  unfold storedBlock
  simp only [bind_eq_ok, wordAt_eq_ok hn, headerSize]
  constructor
  · rintro ⟨start, ⟨hentry, rfl⟩, len, ⟨hstart, rfl⟩, h⟩
    cases hd : Bytes.slice? (b.extract 0 n) ((b.u32At (16 + 4 * i)).toNat + 4)
        (b.u32At (b.u32At (16 + 4 * i)).toNat).toNat with
    | none =>
      rw [hd] at h
      cases h
    | some d =>
      rw [hd] at h
      cases h
      exact ⟨hentry, hstart, (slice?_front hn).mp hd⟩
  · rintro ⟨hentry, hstart, hbody⟩
    refine ⟨_, ⟨hentry, rfl⟩, _, ⟨hstart, rfl⟩, ?_⟩
    have hd : Bytes.slice? (b.extract 0 n) ((b.u32At (16 + 4 * i)).toNat + 4)
        (b.u32At (b.u32At (16 + 4 * i)).toNat).toNat = some data := (slice?_front hn).mpr hbody
    rw [hd]

end Prefix

/-- `out` is the shuffled form, `rawSize` bytes long, of a block that is stored as `data`. -/
def Expands (bs : Backends) (c : Compressor) (rawSize : Nat) (data out : Bytes) : Prop :=
  out.size = rawSize ∧
    if data.size = rawSize then data = out else (bs c).unpack data rawSize = some out

variable {bs : Backends} {h : Header} {c : Compressor}

theorem unpackBlock_eq_ok {rawSize : Nat} {data out : Bytes} :
    unpackBlock bs c rawSize data = .ok out ↔ Expands bs c rawSize data out := by
  unfold unpackBlock Expands
  by_cases hsize : data.size = rawSize
  · rw [if_pos hsize, if_pos hsize, Except.ok.injEq]
    exact ⟨fun h => ⟨h ▸ hsize, h⟩, fun h => h.2⟩
  · rw [if_neg hsize, if_neg hsize]
    cases hu : (bs c).unpack data rawSize with
    | none => exact ⟨fun h => (nomatch h), fun h => (nomatch h.2)⟩
    | some d =>
      by_cases hd : d.size = rawSize
      · simp only [if_pos hd, Except.ok.injEq, Option.some.injEq]
        exact ⟨fun h => ⟨h ▸ hd, h⟩, fun h => h.2⟩
      · simp only [if_neg hd, Option.some.injEq]
        exact ⟨fun h => (nomatch h), fun h => absurd (h.2 ▸ h.1) hd⟩

theorem readBlock_eq_ok {chunk : Bytes} {i : Nat} {raw : Bytes} :
    readBlock bs h c chunk i = .ok raw ↔
      ∃ data out, storedBlock chunk i = .ok data ∧ Expands bs c (h.rawBlockSize i) data out ∧
        unshuffle h.shuffleMode h.typeSize.toNat out = raw := by
  unfold readBlock
  simp only [bind_eq_ok, unpackBlock_eq_ok, pure, Except.pure, Except.ok.injEq]
  constructor
  · rintro ⟨data, hdata, out, hout, hraw⟩
    exact ⟨data, out, hdata, hout, hraw⟩
  · rintro ⟨data, out, hdata, hout, hraw⟩
    exact ⟨data, hdata, out, hout, hraw⟩

/-! ## All blocks -/

/-- The blocks are read in order; `f` names the content of those that can be read. -/
theorem readBlocks_eq_ok {chunk : Bytes} (f : Nat → Bytes) {count i : Nat} {out r : Bytes}
    (hf : ∀ k raw, i ≤ k → k < i + count → readBlock bs h c chunk k = .ok raw → raw = f k) :
    readBlocks bs h c chunk count i out = .ok r ↔
      (∀ k, i ≤ k → k < i + count → readBlock bs h c chunk k = .ok (f k)) ∧
        out ++ Bytes.join ((List.range' i count).map f) = r := by
  induction count generalizing i out with
  | zero =>
    simp only [readBlocks, Except.ok.injEq, List.range'_zero, List.map_nil, Bytes.join_nil,
      Array.append_empty]
    exact ⟨fun h => ⟨fun k _ _ => by omega, h⟩, fun h => h.2⟩
  | succ count ih =>
    have hf' : ∀ k raw, i + 1 ≤ k → k < i + 1 + count →
        readBlock bs h c chunk k = .ok raw → raw = f k :=
      fun k raw hk hk' => hf k raw (by omega) (by omega)
    rw [readBlocks, bind_eq_ok, List.range'_succ, List.map_cons, Bytes.join_cons, ← Array.append_assoc]
    constructor
    · rintro ⟨raw, hraw, hrest⟩
      have hfirst := hf i raw (Nat.le_refl i) (by omega) hraw
      subst hfirst
      obtain ⟨hall, hr⟩ := (ih hf').mp hrest
      refine ⟨fun k hk hk' => ?_, hr⟩
      rcases Nat.eq_or_lt_of_le hk with rfl | hlt
      · exact hraw
      · exact hall k hlt (by omega)
    · rintro ⟨hall, hr⟩
      refine ⟨f i, hall i (Nat.le_refl i) (by omega), (ih hf').mpr ⟨fun k hk hk' => ?_, hr⟩⟩
      exact hall k (by omega) (by omega)

theorem readBlocks_of_forall {chunk : Bytes} {f : Nat → Bytes} {count i : Nat} {out : Bytes}
    (hread : ∀ k, i ≤ k → k < i + count → readBlock bs h c chunk k = .ok (f k)) :
    readBlocks bs h c chunk count i out = .ok (out ++ Bytes.join ((List.range' i count).map f)) := by
  refine (readBlocks_eq_ok f fun k raw hk hk' hraw => ?_).mpr ⟨hread, rfl⟩
  rw [hread k hk hk'] at hraw
  exact (Except.ok.inj hraw).symm

/-! ## Whole chunks -/

theorem readPacked_eq_ok {chunk out : Bytes} :
    readPacked bs h chunk = .ok out ↔
      ∃ c, h.compressor? = some c ∧ h.blockSize ≠ 0 ∧
        readBlocks bs h c chunk h.blockCount 0 #[] = .ok out := by
  unfold readPacked
  cases h.compressor? with
  | none => exact ⟨fun h => (nomatch h), fun ⟨_, h, _⟩ => (nomatch h)⟩
  | some c =>
    by_cases hzero : h.blockSize = 0
    · simp only [if_pos hzero]
      exact ⟨fun h => (nomatch h), fun ⟨_, _, h, _⟩ => absurd hzero h⟩
    · simp only [if_neg hzero, Option.some.injEq]
      constructor
      · exact fun h => ⟨c, rfl, hzero, h⟩
      · rintro ⟨_, rfl, _, h⟩
        exact h

theorem readStored_eq_ok {b out : Bytes} {n : Nat} (hn : n ≤ b.size) :
    readStored h (b.extract 0 n) = .ok out ↔
      16 + h.rawSize.toNat ≤ n ∧ b.extract 16 (16 + h.rawSize.toNat) = out := by
  unfold readStored
  rw [headerSize, ← slice?_front hn]
  cases Bytes.slice? (b.extract 0 n) 16 h.rawSize.toNat with
  | none => exact ⟨fun h => (nomatch h), fun h => (nomatch h)⟩
  | some d => rw [Option.some_inj, Except.ok.injEq]

theorem read_eq_ok {b out : Bytes} :
    read bs b = .ok out ↔
      16 ≤ b.size ∧ b.byteAt 0 = 2 ∧ (b.u32At 12).toNat ≤ b.size ∧
        (let h := Header.ofBytes b
         let chunk := b.extract 0 (b.u32At 12).toNat
         if h.isStored then readStored h chunk = .ok out else readPacked bs h chunk = .ok out) := by
  unfold read
  simp only [bind_eq_ok, Header.read_eq_ok]
  constructor
  · rintro ⟨_, ⟨hsize, hversion, rfl⟩, h⟩
    split at h
    · cases h
    · rename_i hchunk
      refine ⟨hsize, hversion, Nat.not_lt.mp hchunk, ?_⟩
      split at h <;> rename_i hs
      · rwa [if_pos hs]
      · rwa [if_neg hs]
  · rintro ⟨hsize, hversion, hchunk, h⟩
    refine ⟨_, ⟨hsize, hversion, rfl⟩, ?_⟩
    have hle : ¬ (Header.ofBytes b).chunkSize.toNat > b.size := Nat.not_lt.mpr hchunk
    rw [if_neg hle]
    split at h <;> rename_i hs
    · rwa [if_pos hs]
    · rwa [if_neg hs]

end Chunk
end FramePress
