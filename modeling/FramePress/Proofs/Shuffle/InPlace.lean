import FramePress.Proofs.Bytes.Buffer
import FramePress.Proofs.Shuffle.Inverse
import FramePress.Shuffle.InPlace

/-! # What the loops of the filters leave in a buffer

Every byte of the body is the place of some cell, and all cells with one place agree on its byte; in bit
mode each bit of the body is set by one cell at most.  So nothing is left of what the buffer held.

* `moveBytes?_eq_some`, `packPlanes?_eq_some`, `unpackPlanes?_eq_some`: the loops succeed, and with what.
* `shuffleInto?_eq_some`, `unshuffleInto?_eq_some`: they leave `shuffle` and `unshuffle`.
* `shuffle_inverses`: in any two buffers, each filter undoes the other.
-/

namespace FramePress
set_option autoImplicit false

namespace Shuffle

open Bytes

/-! ## Cells of a table -/

section Cells
variable {rows cols r c : Nat}

theorem cell_lt (hr : r < rows) (hc : c < cols) : r * cols + c < rows * cols := by
  have hrow : (r + 1) * cols ≤ rows * cols := Nat.mul_le_mul_right cols hr
  rw [Nat.succ_mul] at hrow
  omega

theorem cell_div (hc : c < cols) : (r * cols + c) / cols = r := by
  have hcols : 0 < cols := by omega
  rw [Nat.mul_comm, Nat.mul_add_div hcols, Nat.div_eq_of_lt hc, Nat.add_zero]

theorem exists_cell {p : Nat} (hp : p < rows * cols) : p / cols < rows ∧ p % cols < cols := by
  have hcols : 0 < cols := Nat.pos_of_lt_mul_left hp
  have hrow : p / cols < rows := Nat.div_lt_of_lt_mul (Nat.mul_comm rows cols ▸ hp)
  exact ⟨hrow, Nat.mod_lt p hcols⟩

end Cells

/-! ## Byte mode -/

theorem mem_elementCells {elements size e b : Nat} :
    (e, b) ∈ elementCells elements size ↔ e < elements ∧ b < size := by
  simp [elementCells]

theorem elementPlace_covers {elements size p : Nat} (hp : p < elements * size) :
    ∃ c ∈ elementCells elements size, elementPlace size c = p := by
  obtain ⟨he, hb⟩ := exists_cell hp
  refine ⟨(p / size, p % size), mem_elementCells.mpr ⟨he, hb⟩, ?_⟩
  exact Nat.div_add_mod' p size

theorem groupPlace_covers {elements size p : Nat} (hp : p < elements * size) :
    ∃ c ∈ elementCells elements size, groupPlace elements c = p := by
  rw [Nat.mul_comm] at hp
  obtain ⟨hb, he⟩ := exists_cell hp
  refine ⟨(p % elements, p / elements), mem_elementCells.mpr ⟨he, hb⟩, ?_⟩
  exact Nat.div_add_mod' p elements

theorem moveBytes?_eq_some {size : Nat} {origin place : Nat × Nat → Nat} {src dest out : Bytes}
    (hdest : dest.size = src.size) (hout : out.size = src.size)
    (hmove : ∀ c ∈ elementCells (src.size / size) size, origin c < src.size ∧ place c < src.size ∧
      out.byteAt (place c) = src.byteAt (origin c))
    (hcover : ∀ p < src.size / size * size, ∃ c ∈ elementCells (src.size / size) size, place c = p)
    (hrest : ∀ p, src.size / size * size ≤ p → out.byteAt p = src.byteAt p) :
    moveBytes? size origin place src dest = some out := by
  have hbody : src.size / size * size ≤ src.size := Nat.div_mul_le_self _ _
  have hread : ∀ c ∈ elementCells (src.size / size) size, src[origin c]? = some (src.byteAt (origin c)) := by
    intro c hc
    exact getElem?_eq_byteAt (hmove c hc).1
  have hplace : ∀ c ∈ elementCells (src.size / size) size, place c < dest.size := by
    intro c hc
    rw [hdest]
    exact (hmove c hc).2.1
  obtain ⟨next, hnext, hsize, hbyte⟩ := exists_writeEach? (fun _ x => x) hplace hread
  have hlast : next.copyRest? (src.size / size * size) src = some out := by
    refine copyRest?_eq_some hbody (hsize.trans hdest) hout ?_ hrest
    intro p hp
    rw [hbyte p (by omega)]
    refine (history_overwrite (hcover p hp) ?_).symm
    intro c hc hcp
    rw [← hcp]
    exact (hmove c hc).2.2.symm
  unfold moveBytes?
  dsimp only [bind]
  rw [hnext, Option.bind_some, hlast]

theorem elementPlace_lt {size n : Nat} {c : Nat × Nat} (hc : c ∈ elementCells (n / size) size) :
    elementPlace size c < n / size * size := by
  obtain ⟨he, hb⟩ := mem_elementCells.mp hc
  exact cell_lt he hb

theorem groupPlace_lt {size n : Nat} {c : Nat × Nat} (hc : c ∈ elementCells (n / size) size) :
    groupPlace (n / size) c < n / size * size := by
  obtain ⟨he, hb⟩ := mem_elementCells.mp hc
  rw [Nat.mul_comm]
  exact cell_lt hb he

theorem transposed_groupPlace {elements size : Nat} {c : Nat × Nat} (hc : c ∈ elementCells elements size) :
    transposed size elements (groupPlace elements c) = elementPlace size c := by
  obtain ⟨he, -⟩ := mem_elementCells.mp hc
  unfold transposed groupPlace elementPlace
  rw [Nat.mul_add_mod_of_lt he, cell_div he]

theorem transposed_elementPlace {elements size : Nat} {c : Nat × Nat} (hc : c ∈ elementCells elements size) :
    transposed elements size (elementPlace size c) = groupPlace elements c := by
  obtain ⟨-, hb⟩ := mem_elementCells.mp hc
  unfold transposed groupPlace elementPlace
  rw [Nat.mul_add_mod_of_lt hb, cell_div hb]

section Transpose
variable {size : Nat} {src dest : Bytes}

theorem byteAt_transpose_groupPlace {c : Nat × Nat} (hc : c ∈ elementCells (src.size / size) size) :
    (transpose size (src.size / size) src).byteAt (groupPlace (src.size / size) c) =
      src.byteAt (elementPlace size c) := by
  have hbody : src.size / size * size ≤ src.size := Nat.div_mul_le_self _ _
  have hcomm : size * (src.size / size) = src.size / size * size := Nat.mul_comm _ _
  have hplace := groupPlace_lt hc
  rw [byteAt_transpose (by omega) (by omega), transposed_groupPlace hc]

variable (hdest : dest.size = src.size)
include hdest

theorem moveBytes?_transpose :
    moveBytes? size (elementPlace size) (groupPlace (src.size / size)) src dest =
      some (transpose size (src.size / size) src) := by
  have hbody : src.size / size * size ≤ src.size := Nat.div_mul_le_self _ _
  have hcomm : size * (src.size / size) = src.size / size * size := Nat.mul_comm _ _
  refine moveBytes?_eq_some hdest (size_transpose _ _ _) ?_ (fun p => groupPlace_covers) ?_
  · intro c hc
    have horigin := elementPlace_lt hc
    have hplace := groupPlace_lt hc
    exact ⟨by omega, by omega, byteAt_transpose_groupPlace hc⟩
  · intro p hp
    exact byteAt_transpose_of_le (by omega)

theorem moveBytes?_transpose_back :
    moveBytes? size (groupPlace (src.size / size)) (elementPlace size) src dest =
      some (transpose (src.size / size) size src) := by
  have hbody : src.size / size * size ≤ src.size := Nat.div_mul_le_self _ _
  refine moveBytes?_eq_some hdest (size_transpose _ _ _) ?_ (fun p => elementPlace_covers) ?_
  · intro c hc
    have horigin := groupPlace_lt hc
    have hplace := elementPlace_lt hc
    refine ⟨by omega, by omega, ?_⟩
    rw [byteAt_transpose hplace (by omega), transposed_elementPlace hc]
  · intro p hp
    exact byteAt_transpose_of_le hp

end Transpose

/-! ### Elements of one byte -/

theorem transpose_one_left {cols : Nat} {src : Bytes} : transpose 1 cols src = src := by
  refine ext_byteAt (size_transpose _ _ _) ?_
  intro p hp
  rw [size_transpose] at hp
  by_cases hbody : p < 1 * cols
  · rw [Nat.one_mul] at hbody
    rw [byteAt_transpose (by omega) hp]
    unfold transposed
    rw [Nat.mod_eq_of_lt hbody, Nat.div_eq_of_lt hbody, Nat.mul_one, Nat.add_zero]
  · exact byteAt_transpose_of_le (by omega)

theorem transpose_one_right {rows : Nat} {src : Bytes} : transpose rows 1 src = src := by
  refine ext_byteAt (size_transpose _ _ _) ?_
  intro p hp
  rw [size_transpose] at hp
  by_cases hbody : p < rows * 1
  · rw [byteAt_transpose hbody hp]
    unfold transposed
    rw [Nat.mod_one, Nat.div_one, Nat.zero_mul, Nat.zero_add]
  · exact byteAt_transpose_of_le (by omega)

/-! ## Bits of a byte -/

theorem bitOf_or (x y : UInt8) (m : Nat) : bitOf (x ||| y) m = (bitOf x m || bitOf y m) := by
  simp [bitOf, UInt8.toNat_or, Nat.testBit_or]

theorem bitOf_foldl_or {ι : Type} (l : List ι) (v : ι → UInt8) (x : UInt8) (m : Nat) :
    bitOf (l.foldl (fun old c => old ||| v c) x) m = (bitOf x m || l.any fun c => bitOf (v c) m) := by
  induction l generalizing x with
  | nil => simp
  | cons c l ih => rw [List.foldl_cons, ih, bitOf_or, List.any_cons, Bool.or_assoc]

theorem toNat_shift {i : Nat} (hi : i < 8) : i.toUInt8.toNat % 8 = i := by
  have hsize : i < UInt8.size := Nat.lt_trans hi (by decide)
  rw [UInt8.toNat_ofNat_of_lt' hsize, Nat.mod_eq_of_lt hi]

theorem bitOf_moveBit (x : UInt8) {i j m : Nat} (hi : i < 8) (hj : j < 8) (hm : m < 8) :
    bitOf (moveBit x i j) m = (decide (j = m) && bitOf x i) := by
  unfold bitOf moveBit
  rw [UInt8.toNat_shiftLeft, UInt8.toNat_and, UInt8.toNat_shiftRight, toNat_shift hi, toNat_shift hj,
    Nat.testBit_mod_two_pow, Nat.testBit_shiftLeft, Nat.testBit_and, Nat.testBit_shiftRight]
  by_cases h : j = m
  · subst h
    simp [hj]
  · -- the byte has no other bit than `j`
    have hone : j ≤ m → Nat.testBit 1 (m - j) = false := by
      intro hle
      have hpos : m - j ≠ 0 := by omega
      exact Bool.eq_false_iff.mpr (mt Nat.testBit_one_eq_true_iff_self_eq_zero.mp hpos)
    by_cases hle : j ≤ m
    · simp [h, hone hle]
    · simp [h, hle]

/-! ## Bit mode -/

theorem mem_planeCells {size groups b i k : Nat} :
    (b, i, k) ∈ planeCells size groups ↔ b < size ∧ i < 8 ∧ k < groups := by
  unfold planeCells
  simp only [List.mem_flatMap, List.mem_map, List.mem_range, Prod.mk.injEq]
  constructor
  · rintro ⟨b', hb, i', hi, k', hk, rfl, rfl, rfl⟩
    exact ⟨hb, hi, hk⟩
  · rintro ⟨hb, hi, hk⟩
    exact ⟨b, hb, i, hi, k, hk, rfl, rfl, rfl⟩

theorem mem_bitCells {size groups b i k j : Nat} :
    (b, i, k, j) ∈ bitCells size groups ↔ b < size ∧ i < 8 ∧ k < groups ∧ j < 8 := by
  unfold bitCells
  simp only [List.mem_flatMap, List.mem_map, List.mem_range]
  constructor
  · rintro ⟨⟨b', i', k'⟩, hcell, j', hj, heq⟩
    cases heq
    obtain ⟨hb, hi, hk⟩ := mem_planeCells.mp hcell
    exact ⟨hb, hi, hk, hj⟩
  · rintro ⟨hb, hi, hk, hj⟩
    exact ⟨(b, i, k), mem_planeCells.mpr ⟨hb, hi, hk⟩, j, hj, rfl⟩

theorem foldlM_read {ι : Type} {l : List ι} {value : ι → Option UInt8} {v : ι → UInt8}
    (h : ∀ c ∈ l, value c = some (v c)) (f : UInt8 → ι → UInt8 → UInt8) (x : UInt8) :
    l.foldlM (fun old c => do
      let y ← value c
      return f old c y) x = some (l.foldl (fun old c => f old c (v c)) x) := by
  induction l generalizing x with
  | nil => rfl
  | cons c l ih =>
    have hc := h c List.mem_cons_self
    rw [List.foldlM_cons, List.foldl_cons, hc]
    exact ih (fun c' hc' => h c' (List.mem_cons_of_mem c hc')) _

/-- What a cell adds to the byte that its bit belongs to. -/
def planeBit (groups : Nat) (src : Bytes) : Nat × Nat × Nat × Nat → UInt8 := fun (b, i, k, j) =>
  moveBit (src.byteAt (planePlace groups (b, i, k))) j i

section Planes
variable {size groups : Nat} {src dest : Bytes}

theorem bitPlace_lt {b i k j : Nat} (hb : b < size) (hk : k < groups) (hj : j < 8) :
    bitPlace size (b, i, k, j) < 8 * groups * size := by
  have helement : 8 * k + j < 8 * groups := by omega
  exact cell_lt helement hb

theorem planePlace_lt {b i k : Nat} (hb : b < size) (hi : i < 8) (hk : k < groups) :
    planePlace groups (b, i, k) < 8 * groups * size := by
  have hrow : 8 * b + i < 8 * size := by omega
  rw [Nat.mul_right_comm]
  exact cell_lt hrow hk

theorem planePlace_covers {p : Nat} (hp : p < 8 * groups * size) :
    ∃ c ∈ planeCells size groups, planePlace groups c = p := by
  rw [Nat.mul_right_comm] at hp
  obtain ⟨hrow, hk⟩ := exists_cell hp
  have hsplit : 8 * (p / groups / 8) + p / groups % 8 = p / groups := Nat.div_add_mod _ _
  refine ⟨(p / groups / 8, p / groups % 8, p % groups), mem_planeCells.mpr ⟨by omega, by omega, hk⟩, ?_⟩
  unfold planePlace
  dsimp only
  rw [hsplit, Nat.div_add_mod' p groups]

theorem bitPlace_covers {p i : Nat} (hp : p < 8 * groups * size) (hi : i < 8) :
    ∃ b k j, (b, i, k, j) ∈ bitCells size groups ∧ bitPlace size (b, i, k, j) = p := by
  obtain ⟨hrow, hb⟩ := exists_cell hp
  have hsplit : 8 * (p / size / 8) + p / size % 8 = p / size := Nat.div_add_mod _ _
  refine ⟨p % size, p / size / 8, p / size % 8, mem_bitCells.mpr ⟨hb, hi, by omega, by omega⟩, ?_⟩
  unfold bitPlace
  dsimp only
  rw [hsplit, Nat.div_add_mod' p size]

/-- What stands at the place of a plane byte, bit by bit. -/
theorem bitOf_planeByte_place {b i k m : Nat} (hi : i < 8) (hk : k < groups) (hm : m < 8) :
    bitOf (planeByte size groups src (planePlace groups (b, i, k))) m =
      bitOf (src.byteAt (bitPlace size (b, i, k, m))) i := by
  have hbyte : (8 * b + i) / 8 = b := by omega
  have hbit : (8 * b + i) % 8 = i := by omega
  unfold planePlace bitPlace
  rw [bitOf_planeByte _ _ _ _ hm, Nat.mul_add_mod_of_lt hk, cell_div hk, hbyte, hbit]

theorem packBits?_eq_some (h : 8 * groups * size ≤ src.size) {b i k : Nat} (hb : b < size) (hi : i < 8)
    (hk : k < groups) :
    packBits? size src (b, i, k) = some (planeByte size groups src (planePlace groups (b, i, k))) := by
  have hread : ∀ j ∈ List.range 8,
      src[bitPlace size (b, i, k, j)]? = some (src.byteAt (bitPlace size (b, i, k, j))) := by
    intro j hj
    have hlt := bitPlace_lt (i := i) hb hk (List.mem_range.mp hj)
    exact getElem?_eq_byteAt (by omega)
  have hfold := foldlM_read hread (fun packed j x => packed ||| moveBit x i j) 0
  refine hfold.trans (congrArg some (ext_bitOf ?_))
  intro m hm
  have hzero : bitOf 0 m = false := Nat.zero_testBit m
  rw [bitOf_planeByte_place hi hk hm,
    bitOf_foldl_or _ (fun j => moveBit (src.byteAt (bitPlace size (b, i, k, j))) i j), hzero, Bool.false_or,
    Bool.eq_iff_iff, List.any_eq_true]
  constructor
  · rintro ⟨j, hj, hbit⟩
    rw [bitOf_moveBit _ hi (List.mem_range.mp hj) hm, Bool.and_eq_true, decide_eq_true_eq] at hbit
    obtain ⟨rfl, hbit⟩ := hbit
    exact hbit
  · intro hbit
    refine ⟨m, List.mem_range.mpr hm, ?_⟩
    rw [bitOf_moveBit _ hi hm hm, hbit, decide_eq_true rfl, Bool.and_self]

theorem exists_cleared (h : 8 * groups * size ≤ dest.size) :
    ∃ cleared, dest.place? 0 (Array.replicate (8 * groups * size) 0) = some cleared ∧
      cleared.size = dest.size ∧ ∀ p < 8 * groups * size, cleared.byteAt p = 0 := by
  have hsize : (Array.replicate (8 * groups * size) (0 : UInt8)).size = 8 * groups * size := Array.size_replicate
  have hroom : 0 + (Array.replicate (8 * groups * size) (0 : UInt8)).size ≤ dest.size := by omega
  obtain ⟨cleared, hcleared, hsize', hbyte⟩ := exists_place? hroom
  refine ⟨cleared, hcleared, hsize', ?_⟩
  intro p hp
  have hp' := hbyte p (by omega)
  rw [Nat.zero_add] at hp'
  rw [hp', byteAt_eq_getElem (by omega), Array.getElem_replicate]

theorem planeBit?_eq_some (h : 8 * groups * size ≤ src.size) {c : Nat × Nat × Nat × Nat}
    (hc : c ∈ bitCells size groups) : planeBit? groups src c = some (planeBit groups src c) := by
  obtain ⟨b, i, k, j⟩ := c
  obtain ⟨hb, hi, hk, -⟩ := mem_bitCells.mp hc
  have hlt := planePlace_lt hb hi hk
  unfold planeBit? planeBit
  dsimp only
  rw [getElem?_eq_byteAt (by omega), Option.map_some]

variable (h : 8 * groups * size ≤ src.size) (hdest : dest.size = src.size)
include h

include hdest in
theorem packPlanes?_eq_some : packPlanes? size groups src dest = some (splitPlanes size groups src) := by
  obtain ⟨cleared, hcleared, hsize, -⟩ := exists_cleared (hdest ▸ h)
  have hplace : ∀ c ∈ planeCells size groups, planePlace groups c < cleared.size := by
    rintro ⟨b, i, k⟩ hc
    obtain ⟨hb, hi, hk⟩ := mem_planeCells.mp hc
    have hlt := planePlace_lt hb hi hk
    omega
  have hvalue : ∀ c ∈ planeCells size groups,
      packBits? size src c = some (planeByte size groups src (planePlace groups c)) := by
    rintro ⟨b, i, k⟩ hc
    obtain ⟨hb, hi, hk⟩ := mem_planeCells.mp hc
    exact packBits?_eq_some h hb hi hk
  obtain ⟨next, hnext, hsize', hbyte⟩ := exists_writeEach? (fun _ x => x) hplace hvalue
  have hlast : next.copyRest? (8 * groups * size) src = some (splitPlanes size groups src) := by
    refine copyRest?_eq_some h (by omega) (size_splitPlanes _ _ _) ?_ fun p hp => byteAt_splitPlanes_of_le hp
    intro p hp
    rw [hbyte p (by omega), byteAt_splitPlanes hp (by omega)]
    exact (history_overwrite (planePlace_covers hp) fun c _ hcp => hcp ▸ rfl).symm
  unfold packPlanes?
  dsimp only [bind]
  rw [hcleared, Option.bind_some, hnext, Option.bind_some, hlast]

/-- The same bits, seen from the bytes that the planes are merged into. -/
theorem bitOf_mergePlanes_place {b i k j : Nat} (hb : b < size) (hi : i < 8) (hk : k < groups) (hj : j < 8) :
    bitOf ((mergePlanes size groups src).byteAt (bitPlace size (b, i, k, j))) i =
      bitOf (src.byteAt (planePlace groups (b, i, k))) j := by
  have hlt := bitPlace_lt (i := i) hb hk hj
  have hbody : bitPlace size (b, i, k, j) < 8 * size * groups := by
    rw [Nat.mul_right_comm]
    exact hlt
  have hbit : bitOf (planeByte groups size src (bitPlace size (b, i, k, j))) i =
      bitOf (src.byteAt (planePlace groups (b, i, k))) j := bitOf_planeByte_place hj hb hi
  rw [mergePlanes_eq, byteAt_splitPlanes hbody (by omega), hbit]

/-- Of the cells with one place, only that of bit `m` can set bit `m`. -/
theorem any_bitCells {p m : Nat} (hp : p < 8 * groups * size) (hm : m < 8) :
    ((bitCells size groups).filter fun c => bitPlace size c = p).any
        (fun c => bitOf (planeBit groups src c) m) = bitOf ((mergePlanes size groups src).byteAt p) m := by
  rw [Bool.eq_iff_iff, List.any_eq_true]
  constructor
  · rintro ⟨⟨b, i, k, j⟩, hc, hbit⟩
    obtain ⟨hc, hplace⟩ := List.mem_filter.mp hc
    obtain ⟨hb, hi, hk, hj⟩ := mem_bitCells.mp hc
    unfold planeBit at hbit
    rw [bitOf_moveBit _ hj hi hm, Bool.and_eq_true, decide_eq_true_eq] at hbit
    obtain ⟨rfl, hbit⟩ := hbit
    rw [← of_decide_eq_true hplace, bitOf_mergePlanes_place h hb hi hk hj, hbit]
  · intro hbit
    obtain ⟨b, k, j, hc, hplace⟩ := bitPlace_covers hp hm
    obtain ⟨hb, -, hk, hj⟩ := mem_bitCells.mp hc
    rw [← hplace, bitOf_mergePlanes_place h hb hm hk hj] at hbit
    refine ⟨(b, m, k, j), List.mem_filter.mpr ⟨hc, decide_eq_true hplace⟩, ?_⟩
    unfold planeBit
    rw [bitOf_moveBit _ hj hm hm, hbit, decide_eq_true rfl, Bool.and_self]

include hdest

theorem unpackPlanes?_eq_some : unpackPlanes? size groups src dest = some (mergePlanes size groups src) := by
  obtain ⟨cleared, hcleared, hsize, hzero⟩ := exists_cleared (hdest ▸ h)
  have hplace : ∀ c ∈ bitCells size groups, bitPlace size c < cleared.size := by
    rintro ⟨b, i, k, j⟩ hc
    obtain ⟨hb, -, hk, hj⟩ := mem_bitCells.mp hc
    have hlt := bitPlace_lt (i := i) hb hk hj
    omega
  obtain ⟨next, hnext, hsize', hbyte⟩ :=
    exists_writeEach? (fun old x => old ||| x) hplace fun c hc => planeBit?_eq_some h hc
  have hlast : next.copyRest? (8 * groups * size) src = some (mergePlanes size groups src) := by
    have hmerged : (mergePlanes size groups src).size = src.size := by
      rw [mergePlanes_eq, size_splitPlanes]
    refine copyRest?_eq_some h (by omega) hmerged ?_ ?_
    · intro p hp
      refine ext_bitOf ?_
      intro m hm
      rw [hbyte p (by omega), hzero p hp, ← any_bitCells h hp hm]
      unfold history
      rw [bitOf_foldl_or]
      have hnone : bitOf 0 m = false := Nat.zero_testBit m
      rw [hnone, Bool.false_or]
    · intro p hp
      rw [mergePlanes_eq]
      exact byteAt_splitPlanes_of_le (by rwa [Nat.mul_right_comm])
  unfold unpackPlanes?
  dsimp only [bind]
  rw [hcleared, Option.bind_some, hnext, Option.bind_some, hlast]

end Planes

end Shuffle

/-! ## The filters -/

section Filters
variable {src dest : Bytes} (hdest : dest.size = src.size)
include hdest

theorem copyRest?_zero : dest.copyRest? 0 src = some src :=
  Bytes.copyRest?_eq_some (Nat.zero_le _) hdest rfl (fun _ hp => absurd hp (Nat.not_lt_zero _)) fun _ _ => rfl

theorem shuffleInto?_eq_some (mode : ShuffleMode) (typeSize : Nat) :
    shuffleInto? mode typeSize src dest = some (shuffle mode typeSize src) := by
  cases mode with
  | off => exact copyRest?_zero hdest
  | byte =>
    unfold shuffleInto? shuffle
    dsimp only
    by_cases hsize : typeSize ≤ 1
    · have hone : max typeSize 1 = 1 := by omega
      rw [if_pos hsize, copyRest?_zero hdest, hone, Nat.div_one, Shuffle.transpose_one_left]
    · have hmax : max typeSize 1 = typeSize := by omega
      rw [if_neg hsize, hmax, Shuffle.moveBytes?_transpose hdest]
  | bit =>
    unfold shuffleInto? shuffle
    dsimp only
    rw [Shuffle.packPlanes?_eq_some (planes_le _ _) hdest]

theorem unshuffleInto?_eq_some (mode : ShuffleMode) (typeSize : Nat) :
    unshuffleInto? mode typeSize src dest = some (unshuffle mode typeSize src) := by
  cases mode with
  | off => exact copyRest?_zero hdest
  | byte =>
    unfold unshuffleInto? unshuffle
    dsimp only
    by_cases hsize : typeSize ≤ 1
    · have hone : max typeSize 1 = 1 := by omega
      rw [if_pos hsize, copyRest?_zero hdest, hone, Nat.div_one, Shuffle.transpose_one_right]
    · have hmax : max typeSize 1 = typeSize := by omega
      rw [if_neg hsize, hmax, Shuffle.moveBytes?_transpose_back hdest]
  | bit =>
    unfold unshuffleInto? unshuffle
    dsimp only
    rw [Shuffle.unpackPlanes?_eq_some (planes_le _ _) hdest]

end Filters

/-- Whatever two buffers of the size of a block held before, shuffling into the first and unshuffling from
there into the second gives the block again, and so does unshuffling followed by shuffling. -/
theorem shuffle_inverses (mode : ShuffleMode) (typeSize : Nat) (x : Bytes) {dest dest' : Bytes}
    (hdest : dest.size = x.size) (hdest' : dest'.size = x.size) :
    ((shuffleInto? mode typeSize x dest).bind fun y => unshuffleInto? mode typeSize y dest') = some x ∧
      ((unshuffleInto? mode typeSize x dest).bind fun y => shuffleInto? mode typeSize y dest') = some x ∧
      unshuffle mode typeSize (shuffle mode typeSize x) = x ∧
      shuffle mode typeSize (unshuffle mode typeSize x) = x := by
  have hback := unshuffle_shuffle mode typeSize x
  have hforth := shuffle_unshuffle mode typeSize x
  refine ⟨?_, ?_, hback, hforth⟩
  · have hsize : dest'.size = (shuffle mode typeSize x).size := by rw [size_shuffle, hdest']
    rw [shuffleInto?_eq_some hdest, Option.bind_some, unshuffleInto?_eq_some hsize, hback]
  · have hsize : dest'.size = (unshuffle mode typeSize x).size := by rw [size_unshuffle, hdest']
    rw [unshuffleInto?_eq_some hdest, Option.bind_some, shuffleInto?_eq_some hsize, hforth]

/-- Eight elements of two bytes, and three bytes behind them, in buffers of other bytes. -/
theorem shuffle_inverses_nineteen :
    let x : Bytes := #[1, 0, 2, 0, 3, 0, 4, 0, 5, 1, 6, 1, 7, 1, 8, 1, 21, 22, 23]
    let dest : Bytes := Array.replicate 19 238
    let dest' : Bytes := Array.replicate 19 85
    dest.size = x.size ∧ dest'.size = x.size ∧
      shuffleInto? .bit 2 x dest =
        some #[85, 102, 120, 128, 0, 0, 0, 0, 240, 0, 0, 0, 0, 0, 0, 0, 21, 22, 23] ∧
      ((shuffleInto? .bit 2 x dest).bind fun y => unshuffleInto? .bit 2 y dest') = some x ∧
      ((unshuffleInto? .bit 2 x dest).bind fun y => shuffleInto? .bit 2 y dest') = some x := by
  intro x dest dest'
  have hdest : dest.size = x.size := rfl
  have hdest' : dest'.size = x.size := rfl
  have hinverses := shuffle_inverses .bit 2 x hdest hdest'
  exact ⟨hdest, hdest', by decide, hinverses.1, hinverses.2.1⟩

end FramePress
