import FramePress.Proofs.Memory.Block

/-! # What a request does to a pool

A pool has four answers to a request, and each is a statement about the free blocks: one of the right size
is handed out, or, if there is none, the last one with another size; a block is created if none is free;
and if the allocator refuses, nothing happens at all.

* `Choice`, `choose_cases`: which free block is used.
* `Pool.Acquires`, `Pool.acquire_cases`: the four answers.
* `Pool.outstanding`: blocks created here that are not free here.
* `Frame.Stores`, `Frame.store_cases`: the three things that become of a new payload.
-/

namespace FramePress
set_option autoImplicit false

open scoped List

variable {grants : Grants}

namespace Pool

/-! ## The free list -/

/-- The last block goes to the place of the one that is taken out. -/
theorem perm_of_takeOut? {free rest : List Block} {i : Nat} {b : Block}
    (h : takeOut? free i = some (b, rest)) : free.Perm (b :: rest) := by
  obtain ⟨a, ha, h⟩ := Option.bind_eq_some_iff.mp h
  obtain ⟨last, hlast, h⟩ := Option.bind_eq_some_iff.mp h
  cases h
  obtain ⟨front, rfl⟩ := List.getLast?_eq_some_iff.mp hlast
  obtain ⟨hi, rfl⟩ := List.getElem?_eq_some_iff.mp ha
  rw [List.length_append, List.length_singleton] at hi
  rcases Nat.lt_or_eq_of_le (Nat.le_of_lt_succ hi) with hlt | rfl
  · rw [List.set_append_left _ _ hlt, List.dropLast_concat, List.getElem_append_left hlt,
      List.set_eq_take_append_cons_drop, if_pos hlt]
    calc front ++ [last]
      _ = front.take i ++ front[i] :: front.drop (i + 1) ++ [last] := by
        rw [List.getElem_cons_drop, List.take_append_drop]
      _ = front.take i ++ front[i] :: (front.drop (i + 1) ++ [last]) := by
        rw [List.append_assoc, List.cons_append]
      _ ~ front[i] :: (front.take i ++ (front.drop (i + 1) ++ [last])) := List.perm_middle
      _ ~ front[i] :: (front.take i ++ last :: front.drop (i + 1)) :=
        ((List.perm_append_singleton _ _).append_left _).cons _
  · rw [List.getElem_concat_length rfl, List.set_append_right _ _ (Nat.le_refl _), Nat.sub_self,
      List.set_cons_zero, List.dropLast_concat]
    exact List.perm_append_singleton _ _

theorem takeOut?_last (front : List Block) (last : Block) :
    takeOut? (front ++ [last]) ((front ++ [last]).length - 1) = some (last, front) := by
  simp [takeOut?]

/-- Which free block is used, and the others. -/
inductive Choice (free : List Block) (capacity : Nat) : Option (Block × List Block) → Prop
  | nothing (h : free = []) : Choice free capacity none
  | fitting (b : Block) (rest : List Block) (h : free.Perm (b :: rest)) (hsize : b.size = capacity) :
      Choice free capacity (some (b, rest))
  | last (b : Block) (rest : List Block) (h : free = rest ++ [b])
      (hnone : ∀ x ∈ free, x.size ≠ capacity) : Choice free capacity (some (b, rest))

theorem choose_cases (free : List Block) (capacity : Nat) :
    Choice free capacity ((choose? free capacity).bind (takeOut? free)) := by
  unfold choose?
  cases hfind : free.findIdx? fun b => decide (b.size = capacity) with
  | some i =>
    obtain ⟨hi, hsize, -⟩ := List.findIdx?_eq_some_iff_getElem.mp hfind
    have hne : free ≠ [] := List.ne_nil_of_length_pos (Nat.zero_lt_of_lt hi)
    have htake : takeOut? free i = some (free[i], (free.set i (free.getLast hne)).dropLast) := by
      simp [takeOut?, List.getElem?_eq_getElem hi, List.getLast?_eq_some_getLast hne]
    dsimp only [Option.bind_some]
    rw [htake]
    exact .fitting _ _ (perm_of_takeOut? htake) (of_decide_eq_true hsize)
  | none =>
    have hnone : ∀ x ∈ free, x.size ≠ capacity := by
      simpa using List.findIdx?_eq_none_iff.mp hfind
    rcases List.eq_nil_or_concat free with rfl | ⟨front, b, hfree⟩
    · exact .nothing rfl
    · obtain rfl : free = front ++ [b] := hfree.trans List.concat_eq_append
      have hne : ¬ (front ++ [b]).isEmpty = true := by simp
      dsimp only
      rw [if_neg hne, Option.bind_some, takeOut?_last]
      exact .last _ _ rfl hnone

/-! ## Requests -/

/-- All that a request can do. -/
inductive Acquires (grants : Grants) (p : Pool) (next capacity : Nat) :
    Except AllocationError Block × Pool × Nat → Prop
  | reused (b : Block) (rest : List Block) (hfree : p.free.Perm (b :: rest)) (hsize : b.size = capacity) :
      Acquires grants p next capacity (.ok b, { p with free := rest, hits := p.hits + 1 }, next)
  | resized (b : Block) (rest : List Block) (hfree : p.free = rest ++ [b])
      (hnone : ∀ x ∈ p.free, x.size ≠ capacity) :
      Acquires grants p next capacity (.ok ⟨b.index, Array.replicate capacity 0⟩,
        { p with free := rest, hits := p.hits + 1, resizes := p.resizes + 1 }, next)
  | created (hfree : p.free = []) :
      Acquires grants p next capacity (.ok ⟨next, Array.replicate capacity 0⟩,
        { p with misses := p.misses + 1, total := p.total + 1 }, next + 1)
  | refused (hgrants : grants capacity = false) : Acquires grants p next capacity (.error ⟨capacity⟩, p, next)

theorem acquire_cases (grants : Grants) (p : Pool) (next capacity : Nat) :
    Acquires grants p next capacity (p.acquire grants next capacity) := by
  have hchoice := choose_cases p.free capacity
  unfold acquire
  generalize (choose? p.free capacity).bind (takeOut? p.free) = choice at hchoice
  cases hchoice with
  | nothing hfree =>
    dsimp only
    rw [Block.create_eq]
    by_cases hgrants : grants capacity = true
    · rw [if_pos hgrants]
      exact .created hfree
    · rw [if_neg hgrants]
      exact .refused (Bool.eq_false_iff.mpr hgrants)
  | fitting b rest hfree hsize =>
    dsimp only
    rw [if_pos hsize]
    exact .reused b rest hfree hsize
  | last b rest hfree hnone =>
    have hsize : b.size ≠ capacity := hnone b (hfree ▸ List.mem_concat_self)
    dsimp only
    rw [if_neg hsize, Block.resize_eq hsize]
    by_cases hgrants : grants capacity = true
    · rw [if_pos hgrants]
      exact .resized b rest hfree hnone
    · -- the block goes back to the end, where it was
      rw [if_neg hgrants]
      dsimp only
      rw [← hfree]
      exact .refused (Bool.eq_false_iff.mpr hgrants)

/-! ## Outstanding blocks -/

/-- The blocks created here, less those that are free here; foreign blocks make it smaller. -/
def outstanding (p : Pool) : Int := p.total - p.free.length

theorem outstanding_acquire {p p' : Pool} {next next' capacity : Nat} {b : Block}
    (h : p.acquire grants next capacity = (.ok b, p', next')) : p'.outstanding = p.outstanding + 1 := by
  unfold outstanding
  cases h ▸ acquire_cases grants p next capacity with
  | reused _ rest hfree hsize =>
    have hlength := hfree.length_eq
    rw [List.length_cons] at hlength
    dsimp only
    omega
  | resized b rest hfree hnone =>
    have hlength := congrArg List.length hfree
    rw [List.length_append, List.length_singleton] at hlength
    dsimp only
    omega
  | created hfree =>
    dsimp only
    omega

theorem acquire_error {p p' : Pool} {next next' capacity : Nat} {e : AllocationError}
    (h : p.acquire grants next capacity = (.error e, p', next')) :
    grants capacity = false ∧ p' = p ∧ next' = next := by
  cases h ▸ acquire_cases grants p next capacity with
  | refused hgrants => exact ⟨hgrants, rfl, rfl⟩

theorem size_of_acquire {p p' : Pool} {next next' capacity : Nat} {b : Block}
    (h : p.acquire grants next capacity = (.ok b, p', next')) : b.size = capacity := by
  cases h ▸ acquire_cases grants p next capacity with
  | reused _ rest hfree hsize => exact hsize
  | resized b rest hfree hnone => exact Array.size_replicate
  | created hfree => exact Array.size_replicate

theorem outstanding_release (p : Pool) (b : Block) : (p.release b).outstanding = p.outstanding - 1 := by
  unfold outstanding release
  rw [List.length_append, List.length_singleton]
  dsimp only
  omega

end Pool

/-! ## Heaps -/

namespace Heap

theorem pool_set (h : Heap) (id id' : PoolId) (p : Pool) (n : Nat) :
    pool ⟨h.pools.set id p, n⟩ id' = if id = id' ∧ id < h.pools.length then p else h.pool id' := by
  unfold pool
  rw [List.getD_eq_getElem?_getD, List.getD_eq_getElem?_getD, List.getElem?_set]
  by_cases hid : id = id'
  · subst hid
    by_cases hlt : id < h.pools.length
    · rw [if_pos rfl, if_pos hlt, if_pos ⟨rfl, hlt⟩]
      rfl
    · rw [if_pos rfl, if_neg hlt, if_neg fun h => hlt h.2, List.getElem?_eq_none (Nat.not_lt.mp hlt)]
  · rw [if_neg hid, if_neg fun h => hid h.1]

theorem set_pool (h : Heap) (id : PoolId) : h.pools.set id (h.pool id) = h.pools := by
  refine List.ext_getElem? fun i => ?_
  rw [List.getElem?_set]
  by_cases hid : id = i
  · subst hid
    unfold pool
    rw [if_pos rfl, List.getD_eq_getElem?_getD]
    by_cases hlt : id < h.pools.length
    · rw [if_pos hlt, List.getElem?_eq_getElem hlt]
      rfl
    · rw [if_neg hlt, List.getElem?_eq_none (Nat.not_lt.mp hlt)]
  · rw [if_neg hid]

/-- A refused request leaves no trace. -/
theorem acquire_error {h h' : Heap} {id : PoolId} {capacity : Nat} {e : AllocationError}
    (hacquire : h.acquire grants id capacity = (.error e, h')) : grants capacity = false ∧ h' = h := by
  unfold acquire at hacquire
  cases hr : (h.pool id).acquire grants h.next capacity with
  | mk result rest =>
    obtain ⟨p, next⟩ := rest
    rw [hr] at hacquire
    cases hacquire
    obtain ⟨hgrants, rfl, rfl⟩ := Pool.acquire_error hr
    exact ⟨hgrants, by rw [set_pool]⟩

theorem acquire_ok {h h' : Heap} {id : PoolId} {capacity : Nat} {b : Block}
    (hacquire : h.acquire grants id capacity = (.ok b, h')) :
    ∃ p next, (h.pool id).acquire grants h.next capacity = (.ok b, p, next) ∧
      h' = ⟨h.pools.set id p, next⟩ := by
  unfold acquire at hacquire
  cases hr : (h.pool id).acquire grants h.next capacity with
  | mk result rest =>
    obtain ⟨p, next⟩ := rest
    rw [hr] at hacquire
    cases hacquire
    exact ⟨p, next, rfl, rfl⟩

theorem size_of_acquire {h h' : Heap} {id : PoolId} {capacity : Nat} {b : Block}
    (hacquire : h.acquire grants id capacity = (.ok b, h')) : b.size = capacity := by
  obtain ⟨p, next, hp, -⟩ := acquire_ok hacquire
  exact Pool.size_of_acquire hp

/-- A block that is taken and given back is not missing anywhere. -/
theorem outstanding_release_acquire {h h' : Heap} {id : PoolId} {capacity : Nat} {b : Block}
    (hacquire : h.acquire grants id capacity = (.ok b, h')) (b' : Block) (id' : PoolId) :
    ((h'.release id b').pool id').outstanding = (h.pool id').outstanding := by
  obtain ⟨p, next, hp, rfl⟩ := acquire_ok hacquire
  have htaken := Pool.outstanding_acquire hp
  unfold release
  rw [pool_set, pool_set, pool_set, List.length_set]
  by_cases hid : id = id' ∧ id < h.pools.length
  · obtain ⟨rfl, hlt⟩ := hid
    rw [if_pos ⟨rfl, hlt⟩, if_pos ⟨rfl, hlt⟩, Pool.outstanding_release, htaken]
    omega
  · rw [if_neg hid, if_neg hid]

end Heap

/-! ## Payloads -/

namespace Frame

/-- All that can become of a new payload. -/
inductive Stores (grants : Grants) (f : Frame) (h : Heap) (src : Bytes) :
    Except AllocationError Unit × Frame × Heap → Prop
  | written (b b' : Block) (hb : f.block = some b) (hwrite : b.write grants src = .ok b') :
      Stores grants f h src (.ok (), { f with block := some b', dataSize := src.size }, h)
  | taken (b : Block) (h' : Heap) (hb : f.block = none)
      (hacquire : h.acquire grants f.pool src.size = (.ok b, h')) :
      Stores grants f h src
        (.ok (), { f with block := some ⟨b.index, src⟩, dataSize := src.size }, h')
  | refused (e : AllocationError) (hgrants : grants src.size = false) : Stores grants f h src (.error e, f, h)

theorem store_cases (grants : Grants) (f : Frame) (h : Heap) (src : Bytes) :
    Stores grants f h src (f.store grants h src) := by
  unfold store obtain
  cases hb : f.block with
  | some b =>
    dsimp only
    cases hwrite : b.write grants src with
    | error e => exact .refused e (Block.write_error hwrite)
    | ok b' => exact .written b b' hb hwrite
  | none =>
    dsimp only
    cases hacquire : h.acquire grants f.pool src.size with
    | mk result h' =>
      cases result with
      | error e =>
        obtain ⟨hgrants, rfl⟩ := Heap.acquire_error hacquire
        exact .refused e hgrants
      | ok b =>
        have hwrite : b.write grants src = .ok ⟨b.index, src⟩ :=
          Block.write_of_size_eq (Heap.size_of_acquire hacquire)
        dsimp only
        rw [hwrite]
        exact .taken b h' hb hacquire

end Frame
end FramePress
