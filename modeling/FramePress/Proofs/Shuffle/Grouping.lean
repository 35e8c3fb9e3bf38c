import FramePress.Proofs.Shuffle.InPlace

/-! # Where the filters put a byte and a bit

The layout of a shuffled block, said place by place and without the filters: `BytesGrouped` for bytes of
equal significance, `BitsGrouped` for bits.  A layout fixes all bytes of a block (`BytesGrouped.unique`,
`BitsGrouped.unique`).

Main statement: `shuffle_grouped`, the filters leave the one block with that layout in any buffer.
-/

namespace FramePress
set_option autoImplicit false

namespace Shuffle

open Bytes

/-- Of elements of `size` bytes, byte `b` of element `e` stands in the group of the bytes `b`, at `e`. -/
structure BytesGrouped (size elements : Nat) (src out : Bytes) : Prop where
  size_eq : out.size = src.size
  body : ∀ e < elements, ∀ b < size,
    ∃ x, src[e * size + b]? = some x ∧ out[b * elements + e]? = some x
  rest : ∀ p, elements * size ≤ p → out[p]? = src[p]?

/-- Of elements of `size` bytes in groups of eight, bit `i` of byte `b` of element `j` of group `k` stands in
the plane of the bits `i` of the bytes `b`, as bit `j` of byte `k`. -/
structure BitsGrouped (size groups : Nat) (src out : Bytes) : Prop where
  size_eq : out.size = src.size
  body : ∀ b < size, ∀ i < 8, ∀ k < groups, ∀ j < 8,
    ∃ x y, src[(8 * k + j) * size + b]? = some x ∧ out[(8 * b + i) * groups + k]? = some y ∧
      bitOf y j = bitOf x i
  rest : ∀ p, 8 * groups * size ≤ p → out[p]? = src[p]?

section Layout
variable {size : Nat} {src : Bytes}

/-! ## A layout fixes the block -/

theorem BytesGrouped.unique {elements : Nat} {a b : Bytes} (ha : BytesGrouped size elements src a)
    (hb : BytesGrouped size elements src b) : a = b := by
  refine Array.ext_getElem? ?_
  intro p
  by_cases hp : p < elements * size
  · obtain ⟨⟨e, i⟩, hc, hplace⟩ := groupPlace_covers hp
    obtain ⟨he, hi⟩ := mem_elementCells.mp hc
    obtain ⟨x, hx, hax⟩ := ha.body e he i hi
    obtain ⟨y, hy, hby⟩ := hb.body e he i hi
    have hxy : x = y := Option.some_inj.mp (hx.symm.trans hy)
    change i * elements + e = p at hplace
    rw [← hplace, hax, hby, hxy]
  · have hrest : elements * size ≤ p := Nat.le_of_not_lt hp
    rw [ha.rest p hrest, hb.rest p hrest]

theorem BitsGrouped.unique {groups : Nat} {a b : Bytes} (ha : BitsGrouped size groups src a)
    (hb : BitsGrouped size groups src b) : a = b := by
  refine Array.ext_getElem? ?_
  intro p
  by_cases hp : p < 8 * groups * size
  · obtain ⟨⟨s, i, k⟩, hc, hplace⟩ := planePlace_covers hp
    obtain ⟨hs, hi, hk⟩ := mem_planeCells.mp hc
    change (8 * s + i) * groups + k = p at hplace
    obtain ⟨-, y, -, hay, -⟩ := ha.body s hs i hi k hk 0 (by omega)
    obtain ⟨-, z, -, hbz, -⟩ := hb.body s hs i hi k hk 0 (by omega)
    -- the two bytes of the plane agree bit by bit, each bit with one of another element
    have hyz : y = z := by
      refine ext_bitOf ?_
      intro j hj
      obtain ⟨x, y', hx, hay', hbit⟩ := ha.body s hs i hi k hk j hj
      obtain ⟨x', z', hx', hbz', hbit'⟩ := hb.body s hs i hi k hk j hj
      obtain rfl : y = y' := Option.some_inj.mp (hay.symm.trans hay')
      obtain rfl : z = z' := Option.some_inj.mp (hbz.symm.trans hbz')
      obtain rfl : x = x' := Option.some_inj.mp (hx.symm.trans hx')
      rw [hbit, hbit']
    rw [← hplace, hay, hbz, hyz]
  · have hrest : 8 * groups * size ≤ p := Nat.le_of_not_lt hp
    rw [ha.rest p hrest, hb.rest p hrest]

/-! ## The filters have their layout -/

theorem bytesGrouped_transpose (size : Nat) (src : Bytes) :
    BytesGrouped size (src.size / size) src (transpose size (src.size / size) src) := by
  have hbody : src.size / size * size ≤ src.size := Nat.div_mul_le_self _ _
  have hsize := size_transpose size (src.size / size) src
  refine ⟨hsize, ?_, ?_⟩
  · intro e he b hb
    have hc : (e, b) ∈ elementCells (src.size / size) size := mem_elementCells.mpr ⟨he, hb⟩
    have horigin : e * size + b < src.size / size * size := elementPlace_lt hc
    have hplace : b * (src.size / size) + e < src.size / size * size := groupPlace_lt hc
    have hbyte : (transpose size (src.size / size) src).byteAt (b * (src.size / size) + e) =
        src.byteAt (e * size + b) := byteAt_transpose_groupPlace hc
    refine ⟨src.byteAt (e * size + b), getElem?_eq_byteAt (by omega), ?_⟩
    rw [getElem?_eq_byteAt (by omega), hbyte]
  · intro p hp
    rw [Nat.mul_comm] at hp
    exact getElem?_eq_of_byteAt hsize (byteAt_transpose_of_le hp)

theorem bitsGrouped_splitPlanes {groups : Nat} (h : 8 * groups * size ≤ src.size) :
    BitsGrouped size groups src (splitPlanes size groups src) := by
  have hsize := size_splitPlanes size groups src
  refine ⟨hsize, ?_, ?_⟩
  · intro b hb i hi k hk j hj
    have horigin : (8 * k + j) * size + b < 8 * groups * size := bitPlace_lt (i := i) hb hk hj
    have hplace : (8 * b + i) * groups + k < 8 * groups * size := planePlace_lt hb hi hk
    refine ⟨_, _, getElem?_eq_byteAt (by omega), getElem?_eq_byteAt (by omega), ?_⟩
    rw [byteAt_splitPlanes hplace (by omega)]
    exact bitOf_planeByte_place hi hk hj
  · intro p hp
    exact getElem?_eq_of_byteAt hsize (byteAt_splitPlanes_of_le hp)

end Layout

end Shuffle

open Shuffle

/-- A block of elements of one byte or more, shuffled into any buffer of its size: byte mode leaves the one
block with its bytes grouped, bit mode the one block with the bits of all whole groups of eight elements
grouped. -/
theorem shuffle_grouped {typeSize : Nat} {src dest : Bytes} (hone : 1 ≤ typeSize)
    (hdest : dest.size = src.size) :
    (shuffleInto? .byte typeSize src dest = some (shuffle .byte typeSize src) ∧
      ∀ out, BytesGrouped typeSize (src.size / typeSize) src out ↔ out = shuffle .byte typeSize src) ∧
    (shuffleInto? .bit typeSize src dest = some (shuffle .bit typeSize src) ∧
      ∀ out, BitsGrouped typeSize (src.size / typeSize / 8) src out ↔ out = shuffle .bit typeSize src) := by
  have hmax : max typeSize 1 = typeSize := Nat.max_eq_left hone
  have hbytes : BytesGrouped typeSize (src.size / typeSize) src (shuffle .byte typeSize src) := by
    unfold shuffle
    dsimp only
    rw [hmax]
    exact bytesGrouped_transpose typeSize src
  have hbits : BitsGrouped typeSize (src.size / typeSize / 8) src (shuffle .bit typeSize src) := by
    unfold shuffle
    dsimp only
    rw [hmax]
    exact bitsGrouped_splitPlanes (planes_le _ _)
  refine ⟨⟨shuffleInto?_eq_some hdest _ _, ?_⟩, ⟨shuffleInto?_eq_some hdest _ _, ?_⟩⟩
  · intro out
    constructor
    · intro hout
      exact hout.unique hbytes
    · rintro rfl
      exact hbytes
  · intro out
    constructor
    · intro hout
      exact hout.unique hbits
    · rintro rfl
      exact hbits

/-- Eight elements of two bytes and one byte behind them, all bits of the first bytes set: the ones fill the
group of the first bytes, and the eight planes of their bits. -/
theorem shuffle_grouped_seventeen :
    let src : Bytes := #[255, 1, 255, 2, 255, 3, 255, 4, 255, 5, 255, 6, 255, 7, 255, 8, 9]
    let dest : Bytes := Array.replicate 17 238
    1 ≤ 2 ∧ dest.size = src.size ∧
      shuffleInto? .byte 2 src dest =
        some #[255, 255, 255, 255, 255, 255, 255, 255, 1, 2, 3, 4, 5, 6, 7, 8, 9] ∧
      BytesGrouped 2 8 src #[255, 255, 255, 255, 255, 255, 255, 255, 1, 2, 3, 4, 5, 6, 7, 8, 9] ∧
      shuffleInto? .bit 2 src dest =
        some #[255, 255, 255, 255, 255, 255, 255, 255, 85, 102, 120, 128, 0, 0, 0, 0, 9] ∧
      BitsGrouped 2 1 src #[255, 255, 255, 255, 255, 255, 255, 255, 85, 102, 120, 128, 0, 0, 0, 0, 9] := by
  intro src dest
  have hone : 1 ≤ 2 := by decide
  have hdest : dest.size = src.size := rfl
  have helements : src.size / 2 = 8 := by decide
  have hgroups : src.size / 2 / 8 = 1 := by decide
  obtain ⟨⟨hbyte, hbytes⟩, ⟨hbit, hbits⟩⟩ := shuffle_grouped hone hdest
  rw [helements] at hbytes
  rw [hgroups] at hbits
  have hgrouped : shuffle .byte 2 src = #[255, 255, 255, 255, 255, 255, 255, 255, 1, 2, 3, 4, 5, 6, 7, 8, 9] := by
    decide
  have hplanes : shuffle .bit 2 src =
      #[255, 255, 255, 255, 255, 255, 255, 255, 85, 102, 120, 128, 0, 0, 0, 0, 9] := by
    decide
  exact ⟨hone, hdest, hgrouped ▸ hbyte, (hbytes _).mpr hgrouped.symm, hplanes ▸ hbit,
    (hbits _).mpr hplanes.symm⟩

end FramePress
