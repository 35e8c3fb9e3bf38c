import FramePress.Chunk.Reader
import FramePress.Chunk.Writer
import FramePress.Proofs.Bytes.Reading

/-! # Headers, written and read

* `Header.ofBytes`: the seven fields at the front of a byte string, whatever they say.
* `Header.read_eq_ok`: a header is read exactly from 16 bytes that begin with the format version.
* `Header.read_toBytes`: a header that was written is read back, whatever follows it.
* `Header.toBytes_ofBytes`: the fields at the front of a byte string, written, are its first 16 bytes.
* `Header.read_inverts_toBytes`: headers and their 16 bytes determine each other, and what is not read.
* `packedFlags`, `storedFlags`: the flags that the writer makes, and what the reader finds in them.
-/

namespace FramePress.Chunk
set_option autoImplicit false

/-! ## Fields -/

namespace Header

/-- The fields at the front of a byte string. -/
def ofBytes (b : Bytes) : Header where
  version := b.byteAt 0
  compressorVersion := b.byteAt 1
  flags := b.byteAt 2
  typeSize := b.byteAt 3
  rawSize := b.u32At 4
  blockSize := b.u32At 8
  chunkSize := b.u32At 12

theorem read_of_le {b : Bytes} (h : headerSize ≤ b.size) : read b =
    if (ofBytes b).version ≠ formatVersion then .error (.unknownVersion (ofBytes b).version)
    else .ok (ofBytes b) := by
  unfold read
  rw [if_neg (Nat.not_lt.mpr h)]
  rfl

theorem read_eq_ok {b : Bytes} {h : Header} :
    read b = .ok h ↔ headerSize ≤ b.size ∧ b.byteAt 0 = formatVersion ∧ ofBytes b = h := by
  unfold read
  by_cases hsize : b.size < headerSize
  · rw [if_pos hsize]
    exact ⟨fun h' => (nomatch h'), fun h' => absurd h'.1 (Nat.not_le.mpr hsize)⟩
  · rw [if_neg hsize, and_iff_right (Nat.not_lt.mp hsize)]
    by_cases hversion : b.byteAt 0 = formatVersion
    · rw [if_neg (not_not_intro hversion), and_iff_right hversion, Except.ok.injEq]
      rfl
    · rw [if_pos hversion]
      exact ⟨fun h' => (nomatch h'), fun h' => absurd h'.1 hversion⟩

@[simp] theorem size_toBytes (h : Header) : h.toBytes.size = headerSize := by
  simp only [toBytes, Array.size_append, Bytes.size_ofUInt32]
  rfl

theorem ofBytes_toBytes (h : Header) (t : Bytes) : ofBytes (h.toBytes ++ t) = h := by
  have hbyte (i : Nat) (hi : i < 4) : (h.toBytes ++ t).byteAt i =
      Bytes.byteAt #[h.version, h.compressorVersion, h.flags, h.typeSize] i := by
    simp only [toBytes, Array.append_assoc]
    exact Bytes.byteAt_append_left hi
  have hraw : (h.toBytes ++ t).u32At 4 = h.rawSize := by
    simp only [toBytes, Array.append_assoc]
    exact Bytes.u32At_middle #[h.version, h.compressorVersion, h.flags, h.typeSize] _ _
  have hblock : (h.toBytes ++ t).u32At 8 = h.blockSize := by
    simp only [toBytes]
    rw [Array.append_assoc, Array.append_assoc]
    exact Bytes.u32At_middle
      (#[h.version, h.compressorVersion, h.flags, h.typeSize] ++ Bytes.ofUInt32 h.rawSize) _ _
  have hchunk : (h.toBytes ++ t).u32At 12 = h.chunkSize := by
    simp only [toBytes]
    rw [Array.append_assoc]
    exact Bytes.u32At_middle (#[h.version, h.compressorVersion, h.flags, h.typeSize] ++
      Bytes.ofUInt32 h.rawSize ++ Bytes.ofUInt32 h.blockSize) _ _
  unfold ofBytes
  rw [hbyte 0 (by omega), hbyte 1 (by omega), hbyte 2 (by omega), hbyte 3 (by omega), hraw, hblock,
    hchunk]
  rfl

theorem read_toBytes {h : Header} (hversion : h.version = formatVersion) (t : Bytes) :
    read (h.toBytes ++ t) = .ok h := by
  rw [read_eq_ok]
  refine ⟨?_, ?_, ofBytes_toBytes h t⟩
  · rw [Array.size_append, size_toBytes]
    omega
  · exact (congrArg version (ofBytes_toBytes h t)).trans hversion

theorem toBytes_ofBytes {b : Bytes} (hsize : headerSize ≤ b.size) :
    (ofBytes b).toBytes = b.extract 0 headerSize := by
  unfold headerSize at hsize ⊢
  have hfields : Bytes.ofUInt32 (Bytes.wordOf (b.byteAt 0) (b.byteAt 1) (b.byteAt 2) (b.byteAt 3)) =
      b.extract 0 4 := Bytes.ofUInt32_u32At (i := 0) (by omega)
  rw [Bytes.ofUInt32_wordOf] at hfields
  have hraw : Bytes.ofUInt32 (b.u32At 4) = b.extract 4 8 := Bytes.ofUInt32_u32At (by omega)
  have hblock : Bytes.ofUInt32 (b.u32At 8) = b.extract 8 12 := Bytes.ofUInt32_u32At (by omega)
  have hchunk : Bytes.ofUInt32 (b.u32At 12) = b.extract 12 16 := Bytes.ofUInt32_u32At (by omega)
  calc (ofBytes b).toBytes
    _ = #[b.byteAt 0, b.byteAt 1, b.byteAt 2, b.byteAt 3] ++ Bytes.ofUInt32 (b.u32At 4) ++
        Bytes.ofUInt32 (b.u32At 8) ++ Bytes.ofUInt32 (b.u32At 12) := rfl
    _ = b.extract 0 4 ++ b.extract 4 8 ++ b.extract 8 12 ++ b.extract 12 16 := by
      rw [hfields, hraw, hblock, hchunk]
    _ = b.extract 0 16 := by
      simp [Array.extract_append_extract]

/-- What is no header, and why. -/
theorem read_eq_error {b : Bytes} {e : ChunkError} : read b = .error e ↔
    (b.size < headerSize ∧ .shortHeader b.size = e) ∨
      (headerSize ≤ b.size ∧ b.byteAt 0 ≠ formatVersion ∧ .unknownVersion (b.byteAt 0) = e) := by
  unfold read
  by_cases hsize : b.size < headerSize
  · rw [if_pos hsize, Except.error.injEq]
    constructor
    · exact fun h => .inl ⟨hsize, h⟩
    · rintro (⟨-, h⟩ | ⟨hle, -⟩)
      · exact h
      · exact absurd hsize (Nat.not_lt.mpr hle)
  · rw [if_neg hsize]
    by_cases hversion : b.byteAt 0 = formatVersion
    · rw [if_neg (not_not_intro hversion)]
      constructor
      · exact fun h => (nomatch h)
      · rintro (⟨hlt, -⟩ | ⟨-, hne, -⟩)
        · exact absurd hlt hsize
        · exact absurd hversion hne
    · rw [if_pos hversion, Except.error.injEq]
      constructor
      · exact fun h => .inr ⟨Nat.not_lt.mp hsize, hversion, h⟩
      · rintro (⟨hlt, -⟩ | ⟨-, -, h⟩)
        · exact absurd hlt hsize
        · exact h

theorem exists_read_error {b : Bytes} : (∃ e, read b = .error e) ↔ b.size < 16 ∨ b[0]? ≠ some 2 := by
  have hfirst (hsize : headerSize ≤ b.size) : b[0]? = some (b.byteAt 0) := by
    have hpos : 0 < b.size := Nat.lt_of_lt_of_le (by decide) hsize
    rw [Array.getElem?_eq_getElem hpos, Bytes.byteAt_eq_getElem hpos]
  constructor
  · rintro ⟨e, he⟩
    rcases read_eq_error.mp he with ⟨hsize, -⟩ | ⟨hsize, hversion, -⟩
    · exact .inl hsize
    · refine .inr fun h => hversion ?_
      rw [hfirst hsize] at h
      exact Option.some.inj h
  · intro h
    by_cases hsize : b.size < headerSize
    · exact ⟨_, read_eq_error.mpr (.inl ⟨hsize, rfl⟩)⟩
    · have hle := Nat.not_lt.mp hsize
      refine ⟨_, read_eq_error.mpr (.inr ⟨hle, fun hversion => ?_, rfl⟩)⟩
      refine h.resolve_left hsize ?_
      rw [hfirst hle, hversion]
      rfl

/-- A header of the format version is recovered from its bytes, whatever stands behind them; the bytes of a
header that was read are recovered from the header; and all other byte strings are refused. -/
theorem read_inverts_toBytes :
    (∀ (h : Header) (t : Bytes), h.version = 2 → read (h.toBytes ++ t) = .ok h) ∧
      (∀ (b : Bytes) (h : Header), read b = .ok h → h.toBytes = b.extract 0 16) ∧
      ∀ b : Bytes, (∃ e, read b = .error e) ↔ b.size < 16 ∨ b[0]? ≠ some 2 := by
  refine ⟨fun h t hversion => read_toBytes hversion t, fun b h hread => ?_, fun b => exists_read_error⟩
  obtain ⟨hsize, -, rfl⟩ := read_eq_ok.mp hread
  exact toBytes_ofBytes hsize

/-- A header whose fields all differ, with two bytes behind it; eight zeros; and a header of another version. -/
theorem read_inverts_toBytes_image :
    let h : Header := ⟨2, 1, 0x84, 3, 0x01020304, 65536, 1000⟩
    let b : Bytes := #[2, 1, 132, 3, 4, 3, 2, 1, 0, 0, 1, 0, 232, 3, 0, 0, 7, 9]
    h.version = 2 ∧ read (h.toBytes ++ #[7, 9]) = .ok h ∧ h.toBytes ++ #[7, 9] = b ∧ read b = .ok h ∧
      h.toBytes = b.extract 0 16 ∧ (∃ e, read (Array.replicate 8 0) = .error e) ∧
      ∃ e, read (b.modify 0 fun _ => 9) = .error e := by
  intro h b
  obtain ⟨hread, hbytes, herror⟩ := read_inverts_toBytes
  have hb : h.toBytes ++ #[7, 9] = b := by decide
  have hok : read b = .ok h := by
    rw [← hb]
    exact hread h #[7, 9] rfl
  exact ⟨rfl, hread h #[7, 9] rfl, hb, hok, hbytes b h hok, (herror _).mpr (.inl (by decide)),
    (herror _).mpr (.inr (by decide))⟩

end Header

/-! ## What the flags say -/

/-- The flags of a packed chunk. -/
def packedFlags (c : Compressor) (mode : ShuffleMode) : UInt8 := c.formatCode <<< 5 ||| shuffleFlag mode

/-- The flags of a stored chunk. -/
def storedFlags (c : Compressor) : UInt8 := c.formatCode <<< 5 ||| Flag.stored

namespace Header
variable {h : Header} {c : Compressor} {mode : ShuffleMode}

theorem isStored_of_stored (hf : h.flags = storedFlags c) : h.isStored = true := by
  unfold isStored hasFlag
  rw [hf]
  cases c <;> rfl

theorem isStored_of_packed (hf : h.flags = packedFlags c mode) : h.isStored = false := by
  unfold isStored hasFlag
  rw [hf]
  cases c <;> cases mode <;> rfl

theorem compressor?_of_packed (hf : h.flags = packedFlags c mode) : h.compressor? = some c := by
  unfold compressor? format
  rw [hf]
  cases c <;> cases mode <;> rfl

theorem shuffleMode_of_packed (hf : h.flags = packedFlags c mode) : h.shuffleMode = mode := by
  unfold shuffleMode hasFlag
  rw [hf]
  cases c <;> cases mode <;> rfl

end Header
end FramePress.Chunk
