import FramePress.Bytes

/-! # Reading byte strings that were put together

* `byteAt` and `u32At` of an appended or extracted byte string.
* `u32At_ofUInt32`: the four bytes of a word read back as the word.
* `ofUInt32_u32At`: a word that was read has the four bytes it was read from.
* `slice?_eq_some`, `u32At?_eq_some`: when a checked read succeeds, and what it gives.
* `slice?_middle`, `u32At_middle`: what stands behind a byte string is found at its size.
-/

namespace FramePress.Bytes
set_option autoImplicit false

/-! ## Single bytes -/

theorem byteAt_eq_getElem {b : Bytes} {i : Nat} (h : i < b.size) : b.byteAt i = b[i] := by
  simp [byteAt, h]

theorem byteAt_of_le {b : Bytes} {i : Nat} (h : b.size ≤ i) : b.byteAt i = 0 := by
  simp [byteAt, h]

/-- Byte strings of one size that agree at every position are equal. -/
theorem ext_byteAt {a b : Bytes} (hsize : a.size = b.size) (h : ∀ i < a.size, a.byteAt i = b.byteAt i) :
    a = b := by
  refine Array.ext hsize fun i ha hb => ?_
  rw [← byteAt_eq_getElem ha, ← byteAt_eq_getElem hb]
  exact h i ha

theorem byteAt_append_left {a b : Bytes} {i : Nat} (h : i < a.size) :
    byteAt (a ++ b) i = byteAt a i := by
  simp only [byteAt, Array.getD_eq_getD_getElem?]
  rw [Array.getElem?_append_left h]

theorem byteAt_append_right (a b : Bytes) (i : Nat) : byteAt (a ++ b) (a.size + i) = byteAt b i := by
  simp only [byteAt, Array.getD_eq_getD_getElem?]
  rw [Array.getElem?_append_right (Nat.le_add_right _ _), Nat.add_sub_cancel_left]

theorem byteAt_extract {b : Bytes} {start stop i : Nat} (h : start + i < stop) :
    byteAt (b.extract start stop) i = byteAt b (start + i) := by
  simp only [byteAt, Array.getD_eq_getD_getElem?, Array.getElem?_extract]
  by_cases hi : start + i < b.size
  · rw [if_pos (by omega)]
  · rw [if_neg (by omega), Array.getElem?_eq_none (by omega)]

/-! ## Words -/

theorem u32At_append_left {a b : Bytes} {i : Nat} (h : i + 4 ≤ a.size) :
    u32At (a ++ b) i = u32At a i := by
  unfold u32At
  rw [byteAt_append_left (by omega), byteAt_append_left (by omega), byteAt_append_left (by omega),
    byteAt_append_left (by omega)]

theorem u32At_append_right (a b : Bytes) (i : Nat) : u32At (a ++ b) (a.size + i) = u32At b i := by
  simp only [u32At, Nat.add_assoc, byteAt_append_right]

theorem u32At_extract {b : Bytes} {start stop i : Nat} (h : start + i + 4 ≤ stop) :
    u32At (b.extract start stop) i = u32At b (start + i) := by
  unfold u32At
  rw [byteAt_extract (by omega), byteAt_extract (by omega), byteAt_extract (by omega),
    byteAt_extract (by omega)]
  simp only [Nat.add_assoc]

theorem testBit_of_le {x : UInt8} {i : Nat} (h : 8 ≤ i) : x.toNat.testBit i = false :=
  Nat.testBit_lt_two_pow (Nat.lt_of_lt_of_le x.toNat_lt (Nat.pow_le_pow_right (by omega) h))

/-- The bits of a word are those of its four bytes in turn. -/
theorem testBit_wordOf {a b c d : UInt8} {i : Nat} :
    (wordOf a b c d).toNat.testBit i =
      if i < 8 then a.toNat.testBit i
      else if i < 16 then b.toNat.testBit (i - 8)
      else if i < 24 then c.toNat.testBit (i - 16)
      else d.toNat.testBit (i - 24) := by
  simp only [wordOf, UInt32.toNat_or, UInt32.toNat_shiftLeft, UInt8.toNat_toUInt32,
    UInt32.reduceToNat, Nat.reduceMod, Nat.testBit_or, Nat.testBit_mod_two_pow, Nat.testBit_shiftLeft]
  have ha : 8 ≤ i → a.toNat.testBit i = false := testBit_of_le
  have hb : 8 ≤ i - 8 → b.toNat.testBit (i - 8) = false := testBit_of_le
  have hc : 8 ≤ i - 16 → c.toNat.testBit (i - 16) = false := testBit_of_le
  have hd : 8 ≤ i - 24 → d.toNat.testBit (i - 24) = false := testBit_of_le
  grind

/-- The bytes of a word, put together again. -/
theorem wordOf_bytes (w : UInt32) :
    wordOf w.toUInt8 (w >>> 8).toUInt8 (w >>> 16).toUInt8 (w >>> 24).toUInt8 = w := by
  apply UInt32.toNat_inj.mp
  apply Nat.eq_of_testBit_eq
  intro i
  have hw : 32 ≤ i → w.toNat.testBit i = false := fun hi =>
    Nat.testBit_lt_two_pow (Nat.lt_of_lt_of_le w.toNat_lt (Nat.pow_le_pow_right (by omega) hi))
  rw [testBit_wordOf]
  simp only [UInt32.toNat_toUInt8, UInt32.toNat_shiftRight, UInt32.reduceToNat, Nat.reduceMod,
    Nat.testBit_mod_two_pow, Nat.testBit_shiftRight]
  grind

theorem u32At_ofUInt32 (w : UInt32) : u32At (ofUInt32 w) 0 = w := wordOf_bytes w

@[simp] theorem size_ofUInt32 (w : UInt32) : (ofUInt32 w).size = 4 := rfl

theorem toUInt8_shiftRight {w : UInt32} {x : UInt8} (k : UInt32)
    (h : ∀ i < 8, w.toNat.testBit (k.toNat % 32 + i) = x.toNat.testBit i) : (w >>> k).toUInt8 = x := by
  apply UInt8.toNat_inj.mp
  apply Nat.eq_of_testBit_eq
  intro i
  rw [UInt32.toNat_toUInt8, Nat.testBit_mod_two_pow, UInt32.toNat_shiftRight, Nat.testBit_shiftRight]
  by_cases hi : i < 8
  · rw [h i hi, decide_eq_true hi, Bool.true_and]
  · rw [decide_eq_false hi, Bool.false_and, testBit_of_le (Nat.not_lt.mp hi)]

/-- Four bytes, put together to a word, and taken apart. -/
theorem ofUInt32_wordOf (a b c d : UInt8) : ofUInt32 (wordOf a b c d) = #[a, b, c, d] := by
  have h0 : (wordOf a b c d >>> 0).toUInt8 = a := toUInt8_shiftRight 0 fun i hi => by
    show (wordOf a b c d).toNat.testBit (0 + i) = _
    rw [testBit_wordOf, Nat.zero_add, if_pos hi]
  have h8 : (wordOf a b c d >>> 8).toUInt8 = b := toUInt8_shiftRight 8 fun i hi => by
    show (wordOf a b c d).toNat.testBit (8 + i) = _
    rw [testBit_wordOf, if_neg (by omega), if_pos (by omega), Nat.add_sub_cancel_left]
  have h16 : (wordOf a b c d >>> 16).toUInt8 = c := toUInt8_shiftRight 16 fun i hi => by
    show (wordOf a b c d).toNat.testBit (16 + i) = _
    rw [testBit_wordOf, if_neg (by omega), if_neg (by omega), if_pos (by omega), Nat.add_sub_cancel_left]
  have h24 : (wordOf a b c d >>> 24).toUInt8 = d := toUInt8_shiftRight 24 fun i hi => by
    show (wordOf a b c d).toNat.testBit (24 + i) = _
    rw [testBit_wordOf, if_neg (by omega), if_neg (by omega), if_neg (by omega), Nat.add_sub_cancel_left]
  rw [UInt32.shiftRight_zero] at h0
  unfold ofUInt32
  rw [h0, h8, h16, h24]

theorem extract_four {b : Bytes} {i : Nat} (h : i + 4 ≤ b.size) :
    b.extract i (i + 4) = #[b.byteAt i, b.byteAt (i + 1), b.byteAt (i + 2), b.byteAt (i + 3)] := by
  have hsize : (b.extract i (i + 4)).size = 4 := by
    rw [Array.size_extract]
    omega
  refine ext_byteAt hsize fun k hk => ?_
  rw [hsize] at hk
  rw [byteAt_extract (by omega)]
  match k, hk with
  | 0, _ | 1, _ | 2, _ | 3, _ => rfl

theorem ofUInt32_u32At {b : Bytes} {i : Nat} (h : i + 4 ≤ b.size) :
    ofUInt32 (b.u32At i) = b.extract i (i + 4) := by
  rw [extract_four h]
  exact ofUInt32_wordOf _ _ _ _

theorem u32At_middle (a c : Bytes) (w : UInt32) : u32At (a ++ (ofUInt32 w ++ c)) a.size = w := by
  calc u32At (a ++ (ofUInt32 w ++ c)) a.size
    _ = u32At (ofUInt32 w ++ c) 0 := u32At_append_right a _ 0
    _ = u32At (ofUInt32 w) 0 := u32At_append_left (Nat.le_of_eq (size_ofUInt32 w).symm)
    _ = w := u32At_ofUInt32 w

/-! ## Checked reads -/

theorem slice?_eq_some {b d : Bytes} {start len : Nat} :
    b.slice? start len = some d ↔ start + len ≤ b.size ∧ b.extract start (start + len) = d := by
  unfold slice?
  by_cases h : start + len ≤ b.size
  · rw [if_pos h, Option.some_inj, and_iff_right h]
  · rw [if_neg h]
    exact ⟨fun h' => (nomatch h'), fun h' => absurd h'.1 h⟩

theorem slice?_middle (a d c : Bytes) : slice? (a ++ (d ++ c)) a.size d.size = some d := by
  rw [slice?_eq_some]
  refine ⟨by simp only [Array.size_append]; omega, ?_⟩
  rw [Array.extract_append]
  simp [Array.extract_empty_of_size_le_start]

theorem u32At?_eq_some {b : Bytes} {i : Nat} {w : UInt32} :
    b.u32At? i = some w ↔ i + 4 ≤ b.size ∧ b.u32At i = w := by
  unfold u32At?
  by_cases h : i + 4 ≤ b.size
  · rw [if_pos h, Option.some_inj, and_iff_right h]
  · rw [if_neg h]
    exact ⟨fun h' => (nomatch h'), fun h' => absurd h'.1 h⟩

/-! ## Overwriting -/

theorem size_overlay {dest front : Bytes} (h : front.size ≤ dest.size) :
    (dest.overlay front).size = dest.size := by
  unfold overlay
  rw [Array.size_append, Array.size_extract]
  omega

theorem extract_overlay (dest front : Bytes) : (dest.overlay front).extract 0 front.size = front := by
  unfold overlay
  rw [Array.extract_append_left, Array.extract_size]

end FramePress.Bytes
