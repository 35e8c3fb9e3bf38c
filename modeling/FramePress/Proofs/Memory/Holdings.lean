import FramePress.Proofs.Memory.Log

/-! # Who holds which block

A block is in a slot, in a frame or on the free list of a pool.  An operation takes at most one block from
its place, changes nothing of it but its bytes, and puts it in some place; all others stay where they are.

* `Place`, `Inventory.holdings`: all places in use, each with a block.
* `Swaps`: some holdings in place of others.
* `Trade`: what happens to the block an operation is about.
* `Inventory.Traded`, `Inventory.step_trades`: the holdings before and after an operation.
-/

namespace FramePress
set_option autoImplicit false

open scoped List

inductive Place
  | slot (name : String)
  | frame (name : String)
  | pool (id : PoolId)
  deriving DecidableEq, Repr

/-- A block at a place; a free list has one such pair for each of its blocks. -/
abbrev Holding := Place × Block

/-! ## Places -/

def Heap.holdings (h : Heap) : List Holding :=
  h.pools.zipIdx.flatMap fun (p, id) => p.free.map fun b => (.pool id, b)

def Dictionary.slotHoldings (d : Dictionary Block) : List Holding :=
  d.map fun (name, b) => (.slot name, b)

def Dictionary.frameHoldings (d : Dictionary Frame) : List Holding :=
  d.flatMap fun (name, f) => f.block.toList.map fun b => (.frame name, b)

def Inventory.holdings (v : Inventory) : List Holding :=
  v.blocks.slotHoldings ++ v.frames.frameHoldings ++ v.heap.holdings

variable {grants : Grants}

/-! ## Exchanges -/

/-- Up to order, `after` is `before` with `put` in place of `taken`. -/
def Swaps (before after taken put : List Holding) : Prop :=
  ∃ rest, before ~ taken ++ rest ∧ after ~ put ++ rest

namespace Swaps

variable {before after taken put before' after' taken' put' : List Holding}

theorem refl (l : List Holding) : Swaps l l [] [] := ⟨l, .refl l, .refl l⟩

theorem append (h : Swaps before after taken put) (h' : Swaps before' after' taken' put') :
    Swaps (before ++ before') (after ++ after') (taken ++ taken') (put ++ put') := by
  have hmiddle (a b c d : List Holding) : (a ++ b) ++ (c ++ d) ~ (a ++ c) ++ (b ++ d) := by
    rw [List.append_assoc, List.append_assoc]
    exact (List.perm_append_comm_assoc b c d).append_left a
  obtain ⟨rest, hbefore, hafter⟩ := h
  obtain ⟨rest', hbefore', hafter'⟩ := h'
  exact ⟨rest ++ rest', (hbefore.append hbefore').trans (hmiddle _ _ _ _),
    (hafter.append hafter').trans (hmiddle _ _ _ _)⟩

theorem of_perm (h : Swaps before after taken put) (htaken : taken ~ taken') (hput : put ~ put') :
    Swaps before after taken' put' := by
  obtain ⟨rest, hbefore, hafter⟩ := h
  exact ⟨rest, hbefore.trans (htaken.append_right rest), hafter.trans (hput.append_right rest)⟩

theorem cancel {l : List Holding} (h : Swaps before after l l) : Swaps before after [] [] := by
  obtain ⟨rest, hbefore, hafter⟩ := h
  exact ⟨l ++ rest, hbefore, hafter⟩

end Swaps

/-! ## Free lists -/

namespace Heap

variable {h h' : Heap} {id : PoolId} {capacity : Nat} {b : Block}

/-- The holdings of one pool beside those of the others. -/
theorem exists_others (hid : id < h.pools.length) :
    ∃ others, ∀ p n, holdings ⟨h.pools.set id p, n⟩ ~ (p.free.map fun b => (Place.pool id, b)) ++ others := by
  refine ⟨((h.pools.take id).zipIdx.flatMap fun (p, id) => p.free.map fun b => (.pool id, b)) ++
    ((h.pools.drop (id + 1)).zipIdx (id + 1)).flatMap fun (p, id) => p.free.map fun b => (.pool id, b),
    fun p n => ?_⟩
  have hfront : (h.pools.take id).length = id := List.length_take_of_le (Nat.le_of_lt hid)
  unfold holdings
  rw [List.set_eq_take_append_cons_drop, if_pos hid, List.zipIdx_append, List.flatMap_append, hfront,
    Nat.zero_add, List.zipIdx_cons, List.flatMap_cons, ← List.append_assoc, ← List.append_assoc]
  exact List.perm_append_comm.append_right _

/-- A pool that is changed, and the blocks that differ in its free list. -/
theorem swaps_set (hid : id < h.pools.length) {p : Pool} {rest : List Block} (taken put : List Block)
    (hbefore : (h.pool id).free ~ taken ++ rest) (hafter : p.free ~ put ++ rest) (next : Nat) :
    Swaps h.holdings (holdings ⟨h.pools.set id p, next⟩) (taken.map fun b => (.pool id, b))
      (put.map fun b => (.pool id, b)) := by
  obtain ⟨others, hothers⟩ := exists_others hid
  have hpool := hothers (h.pool id) h.next
  rw [set_pool] at hpool
  refine ⟨(rest.map fun b => (.pool id, b)) ++ others, ?_, ?_⟩
  · rw [← List.append_assoc, ← List.map_append]
    exact hpool.trans ((hbefore.map _).append_right others)
  · rw [← List.append_assoc, ← List.map_append]
    exact (hothers p next).trans ((hafter.map _).append_right others)

theorem swaps_release (hid : id < h.pools.length) (b : Block) :
    Swaps h.holdings (h.release id b).holdings [] [(.pool id, b)] :=
  swaps_set hid [] [b] (.refl _) List.perm_append_comm h.next

/-- What a pool hands out was free there, or is new if nothing was free there. -/
theorem swaps_acquire (hid : id < h.pools.length) (hacquire : h.acquire grants id capacity = (.ok b, h')) :
    ((h.pool id).free.isEmpty = true ∧ b.index = h.next ∧ h'.next = h.next + 1 ∧
      Swaps h.holdings h'.holdings [] []) ∨
    ((h.pool id).free.isEmpty = false ∧ h'.next = h.next ∧
      ∃ b', b.index = b'.index ∧ Swaps h.holdings h'.holdings [(.pool id, b')] []) := by
  obtain ⟨p, next, hp, rfl⟩ := acquire_ok hacquire
  have hne {b' : Block} {rest : List Block} (hfree : (h.pool id).free ~ [b'] ++ rest) :
      (h.pool id).free.isEmpty = false := by
    rw [List.isEmpty_eq_false_iff]
    exact fun hnil => List.cons_ne_nil b' rest (hnil ▸ hfree).symm.eq_nil
  cases hp ▸ Pool.acquire_cases grants (h.pool id) h.next capacity with
  | reused _ rest hfree hsize =>
    exact .inr ⟨hne hfree, rfl, b, rfl, swaps_set hid [_] [] hfree (.refl rest) _⟩
  | resized b rest hfree hnone =>
    have hfree' : (h.pool id).free ~ [b] ++ rest := hfree ▸ List.perm_append_singleton b rest
    exact .inr ⟨hne hfree', rfl, b, rfl, swaps_set hid [b] [] hfree' (.refl rest) _⟩
  | created hfree =>
    refine .inl ⟨List.isEmpty_iff.mpr hfree, rfl, rfl, swaps_set hid [] [] (.refl _) ?_ _⟩
    exact .refl _

theorem holdings_addPool (h : Heap) (name : String) : (h.addPool name).2.holdings = h.holdings := by
  unfold addPool holdings
  rw [List.zipIdx_append, List.flatMap_append]
  exact List.append_nil _

end Heap

/-! ## Slots -/

namespace Dictionary

section Blocks
variable {d : Dictionary Block}

theorem slotHoldings_perm (hd : d.Sorted) (name : String) :
    d.slotHoldings ~ ((d.find? name).toList.map fun b => (.slot name, b)) ++ (d.erase name).slotHoldings := by
  cases hfind : d.find? name with
  | none =>
    rw [erase_of_find?_eq_none hfind]
    exact .refl _
  | some b => exact (perm_of_find? hd hfind).map _

theorem swaps_slot_insert (hd : d.Sorted) (name : String) (b : Block) :
    Swaps d.slotHoldings (d.insert name b).slotHoldings
      ((d.find? name).toList.map fun b => (.slot name, b)) [(.slot name, b)] :=
  ⟨(d.erase name).slotHoldings, slotHoldings_perm hd name, (perm_insert hd name b).map _⟩

theorem swaps_slot_erase (hd : d.Sorted) (name : String) :
    Swaps d.slotHoldings (d.erase name).slotHoldings
      ((d.find? name).toList.map fun b => (.slot name, b)) [] :=
  ⟨(d.erase name).slotHoldings, slotHoldings_perm hd name, .refl _⟩

end Blocks

section Frames
variable {d : Dictionary Frame}

theorem frameHoldings_perm (hd : d.Sorted) (name : String) :
    d.frameHoldings ~ (((d.find? name).bind Frame.block).toList.map fun b => (.frame name, b)) ++
      (d.erase name).frameHoldings := by
  cases hfind : d.find? name with
  | none =>
    rw [erase_of_find?_eq_none hfind]
    exact .refl _
  | some f => exact (perm_of_find? hd hfind).flatMap_right _

theorem swaps_frame_insert (hd : d.Sorted) (name : String) (f : Frame) :
    Swaps d.frameHoldings (d.insert name f).frameHoldings
      (((d.find? name).bind Frame.block).toList.map fun b => (.frame name, b))
      (f.block.toList.map fun b => (.frame name, b)) :=
  ⟨(d.erase name).frameHoldings, frameHoldings_perm hd name, (perm_insert hd name f).flatMap_right _⟩

theorem swaps_frame_erase (hd : d.Sorted) (name : String) :
    Swaps d.frameHoldings (d.erase name).frameHoldings
      (((d.find? name).bind Frame.block).toList.map fun b => (.frame name, b)) [] :=
  ⟨(d.erase name).frameHoldings, frameHoldings_perm hd name, .refl _⟩

end Frames

end Dictionary

/-! ## Operations -/

/-- What happens to the block an operation is about, with its place before and after. -/
inductive Trade (next : Nat) : Log → List Holding → List Holding → Prop
  | nothing : Trade next [] [] []
  | created (name : String) (b : Block) (hindex : b.index = next) :
      Trade next [.created b.index] [] [(.slot name, b)]
  | grown (id : PoolId) (place : Place) (b : Block) (fills : Log) (hindex : b.index = next)
      (hplace : ∀ id, place ≠ .pool id) (hfills : fills = [] ∨ fills = [.filled b.index b.size]) :
      Trade next (.created b.index :: .taken id b.index b.size :: fills) [] [(place, b)]
  | reused (id : PoolId) (place : Place) (b b' : Block) (fills : Log) (hindex : b'.index = b.index)
      (hplace : ∀ id, place ≠ .pool id) (hfills : fills = [] ∨ fills = [.filled b'.index b'.size]) :
      Trade next (.taken id b'.index b'.size :: fills) [(.pool id, b)] [(place, b')]
  | filled (place : Place) (b b' : Block) (size : Nat) (hindex : b'.index = b.index)
      (hsize : b'.size = max b.size size) :
      Trade next [.filled b'.index size] [(place, b)] [(place, b')]
  | given (place : Place) (b : Block) (id : PoolId) :
      Trade next [.given id b.index] [(place, b)] [(.pool id, b)]

namespace Inventory

/-- One block is traded, those in `lost` cease to exist, and nothing happens to any other. -/
inductive Traded (v v' : Inventory) : Log → Prop
  | intro (es : Log) (old new lost : List Holding) (htrade : Trade v.heap.next es old new)
      (hswaps : Swaps v.holdings v'.holdings (old ++ lost) new)
      (hnext : v'.heap.next = v.heap.next + (Log.created es).length) :
      Traded v v' (es ++ lost.map fun p => .discarded p.2.index)

/-- The block in a slot that is given up. -/
def occupant (v : Inventory) (slot : String) : List Holding :=
  (v.blocks.find? slot).toList.map fun b => (.slot slot, b)

theorem replaced_eq (v : Inventory) (slot : String) :
    v.replaced slot = (v.occupant slot).map fun p => .discarded p.2.index := by
  unfold replaced occupant
  rw [List.map_map]
  rfl

variable {v v' : Inventory} {es : Log}

/-- A block from a pool for a slot or a frame. -/
theorem trade_acquire {h h' : Heap} {id : PoolId} {capacity : Nat} {b : Block} (hid : id < h.pools.length)
    (hacquire : h.acquire grants id capacity = (.ok b, h')) {place : Place} (hplace : ∀ id, place ≠ .pool id)
    (b' : Block) (hindex : b'.index = b.index) (hsize : b'.size = capacity) {fills : Log}
    (hfills : fills = [] ∨ fills = [.filled b'.index b'.size]) :
    ∃ old, Trade h.next (h.granted id b.index capacity ++ fills) old [(place, b')] ∧
      Swaps h.holdings h'.holdings old [] ∧
      h'.next = h.next + (Log.created (h.granted id b.index capacity ++ fills)).length := by
  have hfills' : Log.created fills = [] := by
    rcases hfills with rfl | rfl <;> rfl
  unfold Heap.granted
  rw [← hindex, ← hsize]
  rcases Heap.swaps_acquire hid hacquire with ⟨hempty, hnew, hnext, hswaps⟩ | ⟨hempty, hnext, b₀, hb₀, hswaps⟩
  · rw [if_pos hempty]
    refine ⟨[], .grown id place b' fills (hindex.trans hnew) hplace hfills, hswaps, ?_⟩
    rw [hnext, Log.created_append, hfills']
    rfl
  · rw [hempty, if_neg Bool.false_ne_true]
    refine ⟨_, .reused id place b₀ b' fills (hindex.trans hb₀) hplace hfills, hswaps, ?_⟩
    rw [hnext, Log.created_append, hfills']
    rfl

/-- The block of a dropped frame goes to the pool of the frame. -/
theorem trade_return (hv : v.Tidy) (slot : String) :
    ∃ new, Trade v.heap.next (v.returned slot)
        (((v.frames.find? slot).bind Frame.block).toList.map fun b => (.frame slot, b)) new ∧
      Swaps v.heap.holdings (v.heapWithout slot).holdings [] new ∧
      (v.heapWithout slot).next = v.heap.next + (Log.created (v.returned slot)).length := by
  unfold returned heapWithout
  cases hf : v.frames.find? slot with
  | none => exact ⟨[], .nothing, .refl _, rfl⟩
  | some f =>
    dsimp only [Option.bind_some, Frame.drop]
    cases hblock : f.block with
    | none => exact ⟨[], .nothing, .refl _, rfl⟩
    | some b => exact ⟨_, .given (.frame slot) b f.pool, Heap.swaps_release (hv.lt_of_frame hf) b, rfl⟩

theorem step_trades (hv : v.Tidy) (h : Steps grants v es v') : Traded v v' es := by
  cases h with
  | nothing => exact .intro [] [] [] [] .nothing (.refl _) rfl
  | pooled name =>
    refine .intro [] [] [] [] .nothing ?_ rfl
    unfold holdings
    rw [Heap.holdings_addPool]
    exact .refl _
  | created slot b hb =>
    have hslots := Dictionary.swaps_slot_insert hv.blocks slot b
    rw [replaced_eq]
    refine .intro [.created b.index] [] [(.slot slot, b)] (v.occupant slot) (.created slot b hb) ?_ rfl
    refine ((hslots.append (.refl _)).append (.refl _)).of_perm ?_ (.refl _)
    simp [occupant]
  | acquired pool slot id capacity b h hid hacquire =>
    have hplace : ∀ id, Place.slot slot ≠ .pool id := nofun
    obtain ⟨old, htrade, hfree, hnext⟩ := trade_acquire (hv.lt_of_name hid) hacquire hplace b rfl
      (Heap.size_of_acquire hacquire) (.inl rfl)
    have hslots := Dictionary.swaps_slot_insert hv.blocks slot b
    rw [List.append_nil] at htrade hnext
    rw [replaced_eq]
    refine .intro _ old [(.slot slot, b)] (v.occupant slot) htrade ?_ hnext
    refine ((hslots.append (.refl _)).append hfree).of_perm ?_ (.refl _)
    rw [List.append_nil]
    exact List.perm_append_comm
  | written slot src b b' hb hwrite =>
    obtain ⟨hindex, hsize, -⟩ := Block.write_ok hwrite
    have hslots := Dictionary.swaps_slot_insert hv.blocks slot b'
    rw [hb] at hslots
    exact .intro [_] [(.slot slot, b)] [(.slot slot, b')] [] (.filled _ b b' src.size hindex hsize)
      ((hslots.append (.refl _)).append (.refl _)) rfl
  | released pool slot id b hid hb =>
    have hslots := Dictionary.swaps_slot_erase hv.blocks slot
    rw [hb] at hslots
    exact .intro [_] [(.slot slot, b)] [(.pool id, b)] [] (.given (.slot slot) b id)
      ((hslots.append (.refl _)).append (Heap.swaps_release (hv.lt_of_name hid) b)) rfl
  | forgotten slot =>
    have hslots := Dictionary.swaps_slot_erase hv.blocks slot
    rw [replaced_eq]
    refine .intro [] [] [] (v.occupant slot) .nothing ?_ rfl
    refine ((hslots.append (.refl _)).append (.refl _)).of_perm ?_ (.refl _)
    simp [occupant]
  | framed pool slot f hid hblock =>
    obtain ⟨new, htrade, hfree, hnext⟩ := trade_return hv slot
    have hframes := Dictionary.swaps_frame_insert hv.frames slot f
    rw [hblock] at hframes
    rw [← List.append_nil (v.returned slot)]
    exact .intro _ _ new [] htrade (((Swaps.refl _).append hframes).append hfree) hnext
  | relabelled slot f f' hf hblock hpool =>
    have hframes := Dictionary.swaps_frame_insert hv.frames slot f'
    rw [hf, Option.bind_some, hblock] at hframes
    exact .intro [] [] [] [] .nothing (((Swaps.refl _).append hframes.cancel).append (.refl _)) rfl
  | stored slot src f f' b h hf hblock hpool hacquire hblock' =>
    have hplace : ∀ id, Place.frame slot ≠ .pool id := nofun
    obtain ⟨old, htrade, hfree, hnext⟩ := trade_acquire (hv.lt_of_frame hf) hacquire hplace ⟨b.index, src⟩
      rfl rfl (.inr rfl)
    have hframes := Dictionary.swaps_frame_insert hv.frames slot f'
    rw [hf, Option.bind_some, hblock, hblock'] at hframes
    rw [← List.append_nil (_ ++ _)]
    refine .intro _ old _ [] htrade ?_ hnext
    refine (((Swaps.refl _).append hframes).append hfree).of_perm ?_ (.refl _)
    simp
  | overwritten slot src f f' b b' hf hblock hpool hwrite hblock' =>
    obtain ⟨hindex, hsize, -⟩ := Block.write_ok hwrite
    have hframes := Dictionary.swaps_frame_insert hv.frames slot f'
    rw [hf, Option.bind_some, hblock, hblock'] at hframes
    exact .intro [_] [(.frame slot, b)] [(.frame slot, b')] [] (.filled _ b b' src.size hindex hsize)
      (((Swaps.refl _).append hframes).append (.refl _)) rfl
  | dropped slot =>
    obtain ⟨new, htrade, hfree, hnext⟩ := trade_return hv slot
    have hframes := Dictionary.swaps_frame_erase hv.frames slot
    rw [← List.append_nil (v.returned slot)]
    exact .intro _ _ new [] htrade (((Swaps.refl _).append hframes).append hfree) hnext

end Inventory
end FramePress
