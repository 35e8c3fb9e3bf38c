import FramePress.Chunk.Checked
import FramePress.Proofs.Chunk.Blocks
import FramePress.Proofs.Shuffle.InPlace

/-! # Every access of the reader is in range

Whatever the bytes of a chunk say, and whatever the backends make of its blocks, the reader that checks its
accesses comes to an end, with the result or the error of the reader that does not.

* `Computes`: a checked computation stays in range, and what it gives; `Computes.bind` for two in sequence.
* `computes_wordAt`, `computes_storedBlock`, `computes_block`, `computes_blocks`: the table and the blocks.
* `Checked.read_in_range`: all chunks.
-/

namespace FramePress.Chunk
set_option autoImplicit false

/-! ## Checked computations -/

section Computes
variable {ε α β : Type}

/-- No access of `x` is out of range, and it gives `r`. -/
def Computes (x : ExceptT ε Option α) (r : Except ε α) : Prop := x.run = some r

theorem Computes.bind {x : ExceptT ε Option α} {r : Except ε α} {f : α → ExceptT ε Option β}
    {g : α → Except ε β} (hx : Computes x r) (hf : ∀ a, r = .ok a → Computes (f a) (g a)) :
    Computes (x >>= f) (r >>= g) := by
  have hx' : x = ExceptT.mk (some r) := hx
  subst hx'
  cases r with
  | error e => rfl
  | ok a => exact hf a rfl

/-- A checked value that exists. -/
theorem computes_some_bind {o : Option α} {a : α} {f : α → ExceptT ε Option β} {r : Except ε β}
    (ho : o = some a) (hf : Computes (f a) r) : Computes (liftM o >>= f) r := by
  subst ho
  exact hf

theorem computes_some {o : Option α} {a : α} (ho : o = some a) :
    Computes (liftM o : ExceptT ε Option α) (.ok a) := by
  subst ho
  rfl

theorem computes_lift (r : Except ε α) : Computes (liftM r) r := rfl

theorem computes_throw (e : ε) : Computes (throw e : ExceptT ε Option α) (.error e) := rfl

theorem Computes.ite {p : Prop} [Decidable p] {x y : ExceptT ε Option α} {r s : Except ε α}
    (hx : p → Computes x r) (hy : ¬ p → Computes y s) :
    Computes (if p then x else y) (if p then r else s) := by
  by_cases h : p
  · rw [if_pos h, if_pos h]
    exact hx h
  · rw [if_neg h, if_neg h]
    exact hy h

end Computes

namespace Checked

/-- Sums of a header and a few sizes are words. -/
theorem word?_eq_some {n : Nat} (h : n ≤ headerSize + 8 * UInt32.size) : word? n = some n :=
  if_pos (Nat.lt_of_le_of_lt h (by decide))

theorem minus?_eq_some {a b : Nat} (h : b ≤ a) : minus? a b = some (a - b) := if_pos h

/-! ## The table and the blocks -/

theorem lt_of_wordAt {chunk : Bytes} {i w : Nat} (h : Chunk.wordAt chunk i = .ok w) : w < UInt32.size := by
  unfold Chunk.wordAt at h
  cases hw : chunk.u32At? i with
  | none =>
    rw [hw] at h
    cases h
  | some v =>
    rw [hw] at h
    cases h
    exact v.toNat_lt_size

theorem computes_wordAt (chunk : Bytes) {i : Nat} (hi : i + 4 ≤ headerSize + 8 * UInt32.size) :
    Computes (wordAt chunk i) (Chunk.wordAt chunk i) :=
  computes_some_bind (word?_eq_some hi) (computes_lift _)

theorem computes_storedBlock (chunk : Bytes) {i : Nat} (hi : i < UInt32.size) :
    Computes (storedBlock chunk i) (Chunk.storedBlock chunk i) := by
  refine computes_some_bind (word?_eq_some (by omega)) ?_
  refine (computes_wordAt chunk (by omega)).bind fun start hstart => ?_
  have hstart' := lt_of_wordAt hstart
  refine (computes_wordAt chunk (by omega)).bind fun size hsize => ?_
  have hsize' := lt_of_wordAt hsize
  refine computes_some_bind (word?_eq_some (by omega)) ?_
  cases chunk.slice? (start + 4) size with
  | none => exact computes_throw _
  | some data => rfl

theorem unshuffled?_eq_some {src dest : Bytes} (mode : ShuffleMode) (typeSize : Nat) (h : src.size = dest.size) :
    unshuffled? mode typeSize src dest = some (unshuffle mode typeSize src) := by
  unfold unshuffled?
  rw [if_pos h, unshuffleInto?_eq_some h.symm]

section Blocks
variable (bs : Backends) (h : Header) (c : Compressor) (chunk : Bytes)

theorem computes_block {i : Nat} (hi : i < h.blockCount) :
    Computes (block bs h c chunk i) (readBlock bs h c chunk i) := by
  have hrawSize := h.rawSize.toNat_lt_size
  have hbefore : i * h.blockSize.toNat < h.rawSize.toNat := Bytes.mul_lt_of_lt_count hi
  -- only the recorded raw size bounds the number of blocks, for the table may lie outside
  have hle : i ≤ i * h.blockSize.toNat := Nat.le_mul_of_pos_right i (Bytes.pos_of_lt_count hi)
  refine (computes_storedBlock chunk (by omega)).bind fun data _ => ?_
  refine computes_some_bind (word?_eq_some (by omega)) ?_
  refine computes_some_bind (minus?_eq_some (Nat.le_of_lt hbefore)) ?_
  refine (computes_lift _).bind fun shuffled hshuffled => ?_
  -- the backend may return anything, but only the right length is passed on
  have hsize : shuffled.size = h.rawBlockSize i := (unpackBlock_eq_ok.mp hshuffled).1
  have hequal : shuffled.size = (Array.replicate (h.rawBlockSize i) (0 : UInt8)).size :=
    hsize.trans Array.size_replicate.symm
  exact computes_some (unshuffled?_eq_some h.shuffleMode h.typeSize.toNat hequal)

theorem computes_blocks {count i : Nat} (hcount : i + count ≤ h.blockCount) (out : Bytes) :
    Computes (blocks bs h c chunk count i out) (readBlocks bs h c chunk count i out) := by
  induction count generalizing i out with
  | zero => rfl
  | succ count ih =>
    refine (computes_block bs h c chunk (by omega)).bind fun raw _ => ?_
    exact ih (by omega) (out ++ raw)

theorem computes_readPacked : Computes (readPacked bs h chunk) (Chunk.readPacked bs h chunk) := by
  unfold readPacked Chunk.readPacked
  cases h.compressor? with
  | none => exact computes_throw _
  | some c =>
    refine Computes.ite (fun _ => computes_throw _) fun hzero => ?_
    have hne : h.blockSize.toNat ≠ 0 := fun h0 => hzero (UInt32.toNat_inj.mp h0)
    refine computes_some_bind (if_neg hne) ?_
    exact computes_blocks bs h c chunk (Nat.le_of_eq (Nat.zero_add _)) #[]

theorem computes_readStored : Computes (readStored h chunk) (Chunk.readStored h chunk) := by
  have hrawSize := h.rawSize.toNat_lt_size
  exact computes_some_bind (word?_eq_some (by omega)) (computes_lift _)

end Blocks

/-! ## Chunks -/

theorem fields?_eq_some {chunk : Bytes} (hsize : headerSize ≤ chunk.size) :
    fields? chunk = some (Header.ofBytes chunk) := by
  unfold headerSize at hsize
  have hbyte (i : Nat) (hi : i < 16) : chunk[i]? = some (chunk.byteAt i) := Bytes.getElem?_eq_byteAt (by omega)
  have hword (i : Nat) (hi : i + 4 ≤ 16) : chunk.u32At? i = some (chunk.u32At i) :=
    Bytes.u32At?_eq_some.mpr ⟨by omega, rfl⟩
  unfold fields?
  rw [hbyte 0 (by omega), hbyte 1 (by omega), hbyte 2 (by omega), hbyte 3 (by omega), hword 4 (by omega),
    hword 8 (by omega), hword 12 (by omega)]
  rfl

theorem computes_header (chunk : Bytes) : Computes (header chunk) (Header.read chunk) := by
  refine Computes.ite (fun _ => computes_throw _) fun hsize => ?_
  refine computes_some_bind (fields?_eq_some (Nat.not_lt.mp hsize)) ?_
  exact Computes.ite (fun _ => computes_throw _) fun _ => rfl

theorem computes_read (bs : Backends) (bytes : Bytes) : Computes (read bs bytes) (Chunk.read bs bytes) := by
  refine (computes_header bytes).bind fun h _ => ?_
  refine Computes.ite (fun _ => computes_throw _) fun hpresent => ?_
  have hfront : bytes.slice? 0 h.chunkSize.toNat = some (bytes.extract 0 h.chunkSize.toNat) :=
    Bytes.slice?_eq_some.mpr ⟨by omega, by rw [Nat.zero_add]⟩
  refine computes_some_bind hfront ?_
  exact Computes.ite (fun _ => computes_readStored h _) fun _ => computes_readPacked bs h _

/-- The reader never leaves its ranges, for any bytes and any backends, and neither does the filter between
any two buffers of one size. -/
theorem read_in_range (bs : Backends) :
    (∀ bytes, (read bs bytes).run = some (Chunk.read bs bytes)) ∧
      ∀ (mode : ShuffleMode) (typeSize : Nat) (src dest : Bytes), src.size = dest.size →
        unshuffled? mode typeSize src dest = some (unshuffle mode typeSize src) :=
  ⟨computes_read bs, fun mode typeSize _ _ h => unshuffled?_eq_some mode typeSize h⟩

/-- A decoder that repeats the first byte. -/
def repeating : Backends := fun _ => ⟨fun _ _ => none, fun data n => some (Array.replicate n (data.byteAt 0))⟩

/-- One chunk has two blocks of sixteen and four bytes, the other says that its block begins at the last word. -/
theorem read_in_range_twoBlocks :
    (read repeating #[2, 1, 36, 2, 20, 0, 0, 0, 16, 0, 0, 0, 38, 0, 0, 0, 24, 0, 0, 0, 30, 0, 0, 0,
        2, 0, 0, 0, 255, 7, 4, 0, 0, 0, 1, 2, 3, 4]).run =
      some (.ok (Array.replicate 16 255 ++ #[1, 2, 3, 4])) ∧
    (read repeating #[2, 1, 36, 0, 255, 255, 255, 255, 255, 255, 255, 255, 20, 0, 0, 0, 255, 255, 255, 255]).run =
      some (.error (.offsetOutside 4294967295 20)) := by
  obtain ⟨hread, -⟩ := read_in_range repeating
  rw [hread, hread]
  constructor
  · cbv
  · cbv

end Checked
end FramePress.Chunk
