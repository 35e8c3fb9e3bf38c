import FramePress.Proofs.Bytes.Reading
import FramePress.Shuffle

/-! # The shuffle filters undo each other

* `transpose_transpose`: a table transposed twice is the table.
* `splitPlanes_splitPlanes`: the same for the bits of groups of eight elements.  Merging bit planes is
  splitting them with the roles of element size and number of groups exchanged (`mergePlanes_eq`).
* `unshuffle_shuffle`, `shuffle_unshuffle`: a block that went through a filter is recovered, either way.
-/

namespace FramePress
set_option autoImplicit false

namespace Shuffle

/-! ## Bytes of a table -/

theorem transposed_lt {rows cols i : Nat} (h : i < rows * cols) : transposed rows cols i < rows * cols := by
  have hcols : 0 < cols := Nat.pos_of_lt_mul_left h
  have hdiv : i / cols < rows := Nat.div_lt_of_lt_mul (Nat.mul_comm rows cols ▸ h)
  have hmod : i % cols + 1 ≤ cols := Nat.mod_lt i hcols
  calc transposed rows cols i
    _ < i % cols * rows + rows := Nat.add_lt_add_left hdiv _
    _ = (i % cols + 1) * rows := (Nat.succ_mul _ _).symm
    _ ≤ cols * rows := Nat.mul_le_mul_right rows hmod
    _ = rows * cols := Nat.mul_comm _ _

theorem transposed_transposed {rows cols i : Nat} (h : i < rows * cols) :
    transposed rows cols (transposed cols rows i) = i := by
  have hrows : 0 < rows := Nat.pos_of_lt_mul_right h
  have hdiv : i / rows < cols := Nat.div_lt_of_lt_mul h
  have hcols : 0 < cols := Nat.zero_lt_of_lt hdiv
  unfold transposed
  rw [Nat.mul_comm (i % rows) cols, Nat.mul_add_mod, Nat.mod_eq_of_lt hdiv, Nat.mul_add_div hcols,
    Nat.div_eq_of_lt hdiv, Nat.add_zero, Nat.mul_comm, Nat.div_add_mod]

@[simp] theorem size_transpose (rows cols : Nat) (src : Bytes) :
    (transpose rows cols src).size = src.size := by
  simp [transpose]

theorem byteAt_transpose {rows cols i : Nat} {src : Bytes} (h : i < rows * cols) (hi : i < src.size) :
    (transpose rows cols src).byteAt i = src.byteAt (transposed rows cols i) := by
  rw [Bytes.byteAt_eq_getElem (by simpa using hi)]
  simp [transpose, h]

theorem byteAt_transpose_of_le {rows cols i : Nat} {src : Bytes} (h : rows * cols ≤ i) :
    (transpose rows cols src).byteAt i = src.byteAt i := by
  by_cases hi : i < src.size
  · rw [Bytes.byteAt_eq_getElem (by simpa using hi), Bytes.byteAt_eq_getElem hi]
    simp [transpose, Nat.not_lt.mpr h]
  · simp [Bytes.byteAt, hi]

theorem transpose_transpose {rows cols : Nat} {src : Bytes} (h : rows * cols ≤ src.size) :
    transpose cols rows (transpose rows cols src) = src := by
  refine Bytes.ext_byteAt (by simp) fun i hi => ?_
  rw [size_transpose, size_transpose] at hi
  have hcomm : cols * rows = rows * cols := Nat.mul_comm _ _
  by_cases hbody : i < rows * cols
  · have hj : transposed cols rows i < rows * cols := hcomm ▸ transposed_lt (hcomm ▸ hbody)
    rw [byteAt_transpose (hcomm ▸ hbody) (by simpa using hi),
      byteAt_transpose hj (Nat.lt_of_lt_of_le hj h), transposed_transposed hbody]
  · rw [byteAt_transpose_of_le (by omega), byteAt_transpose_of_le (by omega)]

/-! ## Bits of a byte -/

theorem bitOf_ofBits (f : Nat → Bool) {i : Nat} (h : i < 8) : bitOf (ofBits f) i = f i := by
  match i, h with
  | 0, _ | 1, _ | 2, _ | 3, _ | 4, _ | 5, _ | 6, _ | 7, _ =>
    -- the position is fixed now, and the eight bits may be anything
    unfold ofBits
    generalize f 0 = b0
    generalize f 1 = b1
    generalize f 2 = b2
    generalize f 3 = b3
    generalize f 4 = b4
    generalize f 5 = b5
    generalize f 6 = b6
    generalize f 7 = b7
    revert b0 b1 b2 b3 b4 b5 b6 b7
    decide

/-- A byte is determined by its eight bits. -/
theorem ext_bitOf {x y : UInt8} (h : ∀ i < 8, bitOf x i = bitOf y i) : x = y := by
  apply UInt8.toNat_inj.mp
  apply Nat.eq_of_testBit_eq
  intro i
  by_cases hi : i < 8
  · exact h i hi
  · have hpow : 2 ^ 8 ≤ 2 ^ i := Nat.pow_le_pow_right (by omega) (by omega)
    rw [Nat.testBit_lt_two_pow (Nat.lt_of_lt_of_le x.toNat_lt hpow),
      Nat.testBit_lt_two_pow (Nat.lt_of_lt_of_le y.toNat_lt hpow)]

/-! ## Bits of a block -/

/-- Merging bit planes is splitting them with element size and number of groups exchanged. -/
theorem mergePlanes_eq (size groups : Nat) (src : Bytes) :
    mergePlanes size groups src = splitPlanes groups size src := by
  unfold mergePlanes splitPlanes
  have hbody : 8 * groups * size = 8 * size * groups := by
    rw [Nat.mul_assoc, Nat.mul_comm groups, ← Nat.mul_assoc]
  rw [hbody]
  rfl

@[simp] theorem size_splitPlanes (size groups : Nat) (src : Bytes) :
    (splitPlanes size groups src).size = src.size := by
  simp [splitPlanes]

theorem byteAt_splitPlanes {size groups i : Nat} {src : Bytes} (h : i < 8 * groups * size)
    (hi : i < src.size) : (splitPlanes size groups src).byteAt i = planeByte size groups src i := by
  rw [Bytes.byteAt_eq_getElem (by simpa using hi)]
  simp [splitPlanes, h]

theorem byteAt_splitPlanes_of_le {size groups i : Nat} {src : Bytes} (h : 8 * groups * size ≤ i) :
    (splitPlanes size groups src).byteAt i = src.byteAt i := by
  by_cases hi : i < src.size
  · rw [Bytes.byteAt_eq_getElem (by simpa using hi), Bytes.byteAt_eq_getElem hi]
    simp [splitPlanes, Nat.not_lt.mpr h]
  · simp [Bytes.byteAt, hi]

/-- Bit `j` of a byte of the planes is a bit of the element byte at the exchanged place. -/
theorem bitOf_planeByte (size groups : Nat) (src : Bytes) (i : Nat) {j : Nat} (hj : j < 8) :
    bitOf (planeByte size groups src i) j =
      bitOf (src.byteAt ((8 * (i % groups) + j) * size + i / groups / 8)) (i / groups % 8) := by
  unfold planeByte
  rw [bitOf_ofBits _ hj]

/-- The place of a bit goes to another place and back. -/
theorem plane_position {size groups i j : Nat} (h : i < 8 * groups * size) (hj : j < 8) :
    let p := (8 * (i % size) + j) * groups + i / size / 8
    p < 8 * groups * size ∧ p / groups = 8 * (i % size) + j ∧ p % groups = i / size / 8 := by
  have hsize : 0 < size := Nat.pos_of_lt_mul_left h
  have hgroup : i / size / 8 < groups := by
    have := Nat.div_lt_of_lt_mul (Nat.mul_comm (8 * groups) size ▸ h)
    omega
  have hgroups : 0 < groups := Nat.zero_lt_of_lt hgroup
  have hrow : 8 * (i % size) + j + 1 ≤ 8 * size := by
    have := Nat.mod_lt i hsize
    omega
  refine ⟨?_, ?_, ?_⟩
  · calc (8 * (i % size) + j) * groups + i / size / 8
      _ < (8 * (i % size) + j) * groups + groups := Nat.add_lt_add_left hgroup _
      _ = (8 * (i % size) + j + 1) * groups := (Nat.succ_mul _ _).symm
      _ ≤ 8 * size * groups := Nat.mul_le_mul_right groups hrow
      _ = 8 * groups * size := Nat.mul_right_comm _ _ _
  · rw [Nat.mul_comm, Nat.mul_add_div hgroups, Nat.div_eq_of_lt hgroup, Nat.add_zero]
  · rw [Nat.mul_comm, Nat.mul_add_mod, Nat.mod_eq_of_lt hgroup]

theorem splitPlanes_splitPlanes {size groups : Nat} {src : Bytes} (h : 8 * groups * size ≤ src.size) :
    splitPlanes groups size (splitPlanes size groups src) = src := by
  refine Bytes.ext_byteAt (by simp) fun i hi => ?_
  rw [size_splitPlanes, size_splitPlanes] at hi
  have hcomm : 8 * size * groups = 8 * groups * size := Nat.mul_right_comm _ _ _
  by_cases hbody : i < 8 * groups * size
  · rw [byteAt_splitPlanes (hcomm ▸ hbody) (by simpa using hi)]
    refine ext_bitOf fun j hj => ?_
    obtain ⟨hp, hdiv, hmod⟩ := plane_position hbody hj
    have hbit : i / size % 8 < 8 := Nat.mod_lt _ (by omega)
    rw [bitOf_planeByte _ _ _ _ hj, byteAt_splitPlanes hp (Nat.lt_of_lt_of_le hp h),
      bitOf_planeByte _ _ _ _ hbit, hdiv, hmod]
    -- the inner place is that of byte `i % size` of element `i / size`
    have hbyte : (8 * (i % size) + j) / 8 = i % size := by omega
    have hbit' : (8 * (i % size) + j) % 8 = j := by omega
    rw [Nat.div_add_mod, hbyte, hbit', Nat.mul_comm (i / size), Nat.div_add_mod]
  · rw [byteAt_splitPlanes_of_le (by omega), byteAt_splitPlanes_of_le (by omega)]

end Shuffle

/-! ## The filters -/

theorem size_shuffle (mode : ShuffleMode) (typeSize : Nat) (src : Bytes) :
    (shuffle mode typeSize src).size = src.size := by
  cases mode with
  | off => rfl
  | byte => exact Shuffle.size_transpose ..
  | bit => exact Shuffle.size_splitPlanes ..

theorem size_unshuffle (mode : ShuffleMode) (typeSize : Nat) (src : Bytes) :
    (unshuffle mode typeSize src).size = src.size := by
  cases mode with
  | off => rfl
  | byte => exact Shuffle.size_transpose ..
  | bit =>
    simp only [unshuffle, Shuffle.mergePlanes_eq]
    exact Shuffle.size_splitPlanes ..

theorem table_le (size n : Nat) : size * (n / size) ≤ n := Nat.mul_div_le n size

theorem planes_le (size n : Nat) : 8 * (n / size / 8) * size ≤ n :=
  calc 8 * (n / size / 8) * size
    _ ≤ n / size * size := Nat.mul_le_mul_right size (Nat.mul_div_le (n / size) 8)
    _ ≤ n := Nat.div_mul_le_self n size

theorem unshuffle_shuffle (mode : ShuffleMode) (typeSize : Nat) (src : Bytes) :
    unshuffle mode typeSize (shuffle mode typeSize src) = src := by
  cases mode with
  | off => rfl
  | byte =>
    simp only [unshuffle, shuffle, Shuffle.size_transpose]
    exact Shuffle.transpose_transpose (table_le _ _)
  | bit =>
    simp only [unshuffle, shuffle, Shuffle.size_splitPlanes, Shuffle.mergePlanes_eq]
    exact Shuffle.splitPlanes_splitPlanes (planes_le _ _)

theorem shuffle_unshuffle (mode : ShuffleMode) (typeSize : Nat) (src : Bytes) :
    shuffle mode typeSize (unshuffle mode typeSize src) = src := by
  cases mode with
  | off => rfl
  | byte =>
    simp only [unshuffle, shuffle, Shuffle.size_transpose]
    refine Shuffle.transpose_transpose ?_
    rw [Nat.mul_comm]
    exact table_le _ _
  | bit =>
    simp only [unshuffle, shuffle, Shuffle.mergePlanes_eq, Shuffle.size_splitPlanes]
    refine Shuffle.splitPlanes_splitPlanes ?_
    rw [Nat.mul_right_comm]
    exact planes_le _ _

end FramePress
