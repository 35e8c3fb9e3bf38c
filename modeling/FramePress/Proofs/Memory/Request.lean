import FramePress.Proofs.Memory.Pool

/-! # Which block a request gets

The answer to a request is determined by the free list and the allocator: by the first free block of the right
size, if there is one, and otherwise by the last free block.

* `FirstFit`, `Vacated`: the block that fits, and the free list without the block at some place.
* `acquire_of_firstFit`, `acquire_of_nil`, `acquire_of_last`: a request, computed.
* `Serves`, `acquire_serves`: what becomes of every request.
-/

namespace FramePress.Pool
set_option autoImplicit false

variable {grants : Grants} {p : Pool} {next capacity : Nat} {free rest : List Block} {i : Nat} {b : Block}

/-! ## The first block that fits -/

/-- Block `b`, at place `i`, is the first one of the right size. -/
structure FirstFit (free : List Block) (capacity i : Nat) (b : Block) : Prop where
  place : free[i]? = some b
  size : b.size = capacity
  first : ∀ j x, j < i → free[j]? = some x → x.size ≠ capacity

/-- The block at place `i` is taken out, and the last block, if it is another one, has moved there. -/
structure Vacated (free : List Block) (i : Nat) (rest : List Block) : Prop where
  length : rest.length + 1 = free.length
  moved : i < rest.length → rest[i]? = free.getLast?
  others : ∀ j < rest.length, j ≠ i → rest[j]? = free[j]?

theorem exists_firstFit (h : ∃ x ∈ free, x.size = capacity) :
    ∃ i b, FirstFit free capacity i b ∧ choose? free capacity = some i := by
  unfold choose?
  cases hfind : free.findIdx? fun b => decide (b.size = capacity) with
  | none =>
    obtain ⟨x, hx, hsize⟩ := h
    have hne := List.findIdx?_eq_none_iff.mp hfind x hx
    exact absurd hsize (of_decide_eq_false hne)
  | some i =>
    obtain ⟨hi, hsize, hfirst⟩ := List.findIdx?_eq_some_iff_getElem.mp hfind
    refine ⟨i, free[i], ⟨List.getElem?_eq_getElem hi, of_decide_eq_true hsize, ?_⟩, rfl⟩
    intro j x hj hx
    obtain ⟨hj', rfl⟩ := List.getElem?_eq_some_iff.mp hx
    exact of_decide_eq_false (Bool.eq_false_iff.mpr (hfirst j hj))

theorem exists_vacated (h : free[i]? = some b) : ∃ rest, takeOut? free i = some (b, rest) ∧ Vacated free i rest := by
  obtain ⟨hi, -⟩ := List.getElem?_eq_some_iff.mp h
  have hne : free ≠ [] := List.ne_nil_of_length_pos (Nat.zero_lt_of_lt hi)
  have hlast := List.getLast?_eq_some_getLast hne
  have hlength : ((free.set i (free.getLast hne)).dropLast).length = free.length - 1 := by
    rw [List.length_dropLast, List.length_set]
  refine ⟨(free.set i (free.getLast hne)).dropLast, ?_, ?_, ?_, ?_⟩
  · simp [takeOut?, h, hlast]
  · omega
  · intro hlt
    rw [List.getElem?_dropLast, List.length_set, if_pos (by omega), List.getElem?_set_self hi, hlast]
  · intro j hj hne'
    rw [List.getElem?_dropLast, List.length_set, if_pos (by omega), List.getElem?_set_ne (Ne.symm hne')]

theorem acquire_of_firstFit (h : ∃ x ∈ p.free, x.size = capacity) :
    ∃ i b rest, FirstFit p.free capacity i b ∧ Vacated p.free i rest ∧ p.free.Perm (b :: rest) ∧
      p.acquire grants next capacity = (.ok b, { p with free := rest, hits := p.hits + 1 }, next) := by
  obtain ⟨i, b, hfit, hchoose⟩ := exists_firstFit h
  obtain ⟨rest, htake, hvacated⟩ := exists_vacated hfit.place
  refine ⟨i, b, rest, hfit, hvacated, perm_of_takeOut? htake, ?_⟩
  unfold acquire
  rw [hchoose, Option.bind_some, htake]
  exact if_pos hfit.size

/-! ## No block that fits -/

theorem acquire_of_nil (hfree : p.free = []) : p.acquire grants next capacity =
    if grants capacity then (.ok ⟨next, Array.replicate capacity 0⟩,
      { p with misses := p.misses + 1, total := p.total + 1 }, next + 1)
    else (.error ⟨capacity⟩, p, next) := by
  have hnone : (choose? p.free capacity).bind (takeOut? p.free) = none := by
    rw [hfree]
    rfl
  unfold acquire
  rw [hnone]
  dsimp only
  rw [Block.create_eq]
  by_cases hgrants : grants capacity = true
  · rw [if_pos hgrants, if_pos hgrants]
  · rw [if_neg hgrants, if_neg hgrants]

theorem choose?_of_forall_ne (h : ∀ x ∈ free, x.size ≠ capacity) :
    choose? free capacity = if free.isEmpty then none else some (free.length - 1) := by
  have hfind : (free.findIdx? fun b => decide (b.size = capacity)) = none :=
    List.findIdx?_eq_none_iff.mpr fun x hx => decide_eq_false (h x hx)
  unfold choose?
  rw [hfind]

section NoFit
variable (h : ∀ x ∈ p.free, x.size ≠ capacity)
include h

theorem acquire_of_last (hfree : p.free = rest ++ [b]) : p.acquire grants next capacity =
    if grants capacity then (.ok ⟨b.index, Array.replicate capacity 0⟩,
      { p with free := rest, hits := p.hits + 1, resizes := p.resizes + 1 }, next)
    else (.error ⟨capacity⟩, p, next) := by
  have hne : b.size ≠ capacity := h b (hfree ▸ List.mem_concat_self)
  have hnonempty : ¬ (rest ++ [b]).isEmpty = true := by simp
  have hlast : (choose? p.free capacity).bind (takeOut? p.free) = some (b, rest) := by
    rw [choose?_of_forall_ne h, hfree, if_neg hnonempty, Option.bind_some, takeOut?_last]
  unfold acquire
  rw [hlast]
  dsimp only
  rw [if_neg hne, Block.resize_eq hne, ← hfree]
  by_cases hgrants : grants capacity = true
  · rw [if_pos hgrants, if_pos hgrants]
  · -- the place was the last one, so the end is where the block belongs
    rw [if_neg hgrants, if_neg hgrants]

theorem acquire_of_refusal (hgrants : grants capacity = false) :
    p.acquire grants next capacity = (.error ⟨capacity⟩, p, next) := by
  have hno : ¬ grants capacity = true := Bool.eq_false_iff.mp hgrants
  rcases List.eq_nil_or_concat p.free with hfree | ⟨rest, b, hfree⟩
  · rw [acquire_of_nil hfree, if_neg hno]
  · rw [acquire_of_last h (hfree.trans List.concat_eq_append), if_neg hno]

end NoFit

/-! ## Every request -/

/-- `r` is the answer to a request: the result, the pool after it, and the number of the next new block. -/
structure Serves (grants : Grants) (p : Pool) (next capacity : Nat)
    (r : Except AllocationError Block × Pool × Nat) : Prop where
  size : ∀ b, r.1 = .ok b → b.size = capacity
  /-- A block that fits is handed out as it is, whatever the allocator would say. -/
  fitting : (∃ x ∈ p.free, x.size = capacity) →
    ∃ i b rest, FirstFit p.free capacity i b ∧ Vacated p.free i rest ∧ p.free.Perm (b :: rest) ∧
      r = (.ok b, { p with free := rest, hits := p.hits + 1 }, next)
  resized : ∀ b rest, p.free = rest ++ [b] → (∀ x ∈ p.free, x.size ≠ capacity) → grants capacity = true →
    r = (.ok ⟨b.index, Array.replicate capacity 0⟩,
      { p with free := rest, hits := p.hits + 1, resizes := p.resizes + 1 }, next)
  created : p.free = [] → grants capacity = true →
    r = (.ok ⟨next, Array.replicate capacity 0⟩,
      { p with misses := p.misses + 1, total := p.total + 1 }, next + 1)
  refused : (∀ x ∈ p.free, x.size ≠ capacity) → grants capacity = false → r.1 = .error ⟨capacity⟩
  unchanged : ∀ e, r.1 = .error e → r.2 = (p, next)

theorem acquire_serves (grants : Grants) (p : Pool) (next capacity : Nat) :
    Serves grants p next capacity (p.acquire grants next capacity) where
  size b hb := by
    obtain ⟨p', next', h⟩ : ∃ p' next', p.acquire grants next capacity = (.ok b, p', next') :=
      ⟨_, _, Prod.ext hb rfl⟩
    exact size_of_acquire h
  fitting := acquire_of_firstFit
  resized b rest hfree hnone hgrants := by rw [acquire_of_last hnone hfree, if_pos hgrants]
  created hfree hgrants := by rw [acquire_of_nil hfree, if_pos hgrants]
  refused hnone hgrants := by rw [acquire_of_refusal hnone hgrants]
  unchanged e he := by
    have h : p.acquire grants next capacity = (.error e, (p.acquire grants next capacity).2) := Prod.ext he rfl
    obtain ⟨-, hpool, hnext⟩ := acquire_error h
    exact Prod.ext hpool hnext

/-- Two of the four free blocks have the same size. -/
def twins : Pool := { free := [⟨0, #[1, 2]⟩, ⟨1, #[3]⟩, ⟨2, #[4]⟩, ⟨3, #[5, 6, 7]⟩], total := 4, misses := 4 }

theorem acquire_serves_twins :
    twins.acquire (fun n => n < 8) 4 5 =
      (.ok ⟨3, #[0, 0, 0, 0, 0]⟩,
        { twins with free := [⟨0, #[1, 2]⟩, ⟨1, #[3]⟩, ⟨2, #[4]⟩], hits := 1, resizes := 1 }, 4) ∧
    twins.acquire (fun n => n < 8) 4 9 = (.error ⟨9⟩, twins, 4) := by
  refine ⟨(acquire_serves (fun n => n < 8) twins 4 5).resized ⟨3, #[5, 6, 7]⟩ [⟨0, #[1, 2]⟩, ⟨1, #[3]⟩, ⟨2, #[4]⟩]
    rfl (by decide) rfl, ?_⟩
  have h := acquire_serves (fun n => n < 8) twins 4 9
  have herror := h.refused (by decide) rfl
  exact Prod.ext herror (h.unchanged _ herror)

example : (twins.acquire (fun _ => false) 4 1).1 = .ok ⟨1, #[3]⟩ := rfl

example : (twins.acquire (fun _ => false) 4 1).2.1.free = [⟨0, #[1, 2]⟩, ⟨3, #[5, 6, 7]⟩, ⟨2, #[4]⟩] := rfl

end FramePress.Pool
