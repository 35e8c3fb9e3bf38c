import FramePress.Memory.Frame
import FramePress.Proofs.Bytes.Reading

/-! # Writing to a block

* `create_eq`, `resize_eq`: new blocks, and blocks of another size.
* `write_ok`: what is written stands at the front of the block, which keeps its identity.
* `write_error`: the one reason why a payload is turned away.
-/

namespace FramePress
set_option autoImplicit false

variable {grants : Grants}

namespace Block

/-! ## New and resized blocks -/

theorem create_eq (grants : Grants) (index capacity : Nat) : create grants index capacity =
    if grants capacity then .ok ⟨index, Array.replicate capacity 0⟩ else .error ⟨capacity⟩ := by
  unfold create zeroed
  split <;> rfl

/-- A block with another size than asked for becomes zero, or stays. -/
theorem resize_eq {b : Block} {capacity : Nat} (h : b.size ≠ capacity) : b.resize grants capacity =
    if grants capacity then .ok ⟨b.index, Array.replicate capacity 0⟩ else .error ⟨capacity⟩ := by
  unfold resize zeroed
  rw [if_neg h]
  split <;> rfl

/-! ## Payloads -/

/-- What is written to a block stands at its front; the block grows if it has to. -/
theorem write_ok {b b' : Block} {src : Bytes} (h : b.write grants src = .ok b') :
    b'.index = b.index ∧ b'.size = max b.size src.size ∧ b'.bytes.extract 0 src.size = src := by
  unfold write at h
  by_cases hgrow : b.size < src.size
  · rw [if_pos hgrow, resize_eq (Nat.ne_of_lt hgrow)] at h
    by_cases hgrants : grants src.size = true
    · rw [if_pos hgrants] at h
      cases h
      have hsize : (Array.replicate src.size (0 : UInt8)).size = src.size := Array.size_replicate
      refine ⟨rfl, ?_, Bytes.extract_overlay _ _⟩
      show (Bytes.overlay (Array.replicate src.size 0) src).size = _
      rw [Bytes.size_overlay (Nat.le_of_eq hsize.symm)]
      omega
    · rw [if_neg hgrants] at h
      cases h
  · rw [if_neg hgrow] at h
    cases h
    refine ⟨rfl, ?_, Bytes.extract_overlay _ _⟩
    show (b.bytes.overlay src).size = _
    rw [Bytes.size_overlay (Nat.not_lt.mp hgrow), Nat.max_eq_left (Nat.not_lt.mp hgrow)]
    rfl

/-- A block of the size of a payload becomes the payload. -/
theorem write_of_size_eq {b : Block} {src : Bytes} (h : b.size = src.size) :
    b.write grants src = .ok ⟨b.index, src⟩ := by
  have hwhole : b.bytes.overlay src = src := by
    unfold Bytes.overlay
    rw [Array.extract_empty_of_size_le_start (Nat.le_of_eq h), Array.append_empty]
  unfold Block.write
  rw [if_neg (by omega)]
  show Except.ok { b with bytes := b.bytes.overlay src } = _
  rw [hwhole]

/-- A payload is only turned away if the block would have to grow and may not. -/
theorem write_error {b : Block} {src : Bytes} {e : AllocationError} (h : b.write grants src = .error e) :
    grants src.size = false := by
  refine Bool.eq_false_iff.mpr fun hgrants => ?_
  unfold write at h
  by_cases hgrow : b.size < src.size
  · rw [if_pos hgrow, resize_eq (Nat.ne_of_lt hgrow), if_pos hgrants] at h
    cases h
  · rw [if_neg hgrow] at h
    cases h

end Block

theorem Frame.size_data_le (f : Frame) : f.data.size ≤ f.dataSize := by
  unfold data
  split
  · exact Nat.zero_le _
  · rw [Array.size_extract]
    omega

end FramePress
