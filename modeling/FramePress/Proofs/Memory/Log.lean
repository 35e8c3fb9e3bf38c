import FramePress.Memory.Inventory
import FramePress.Proofs.Dictionary
import FramePress.Proofs.Memory.Pool

/-! # The log of an inventory

What happens to blocks while an inventory is used is told by a log of events.  The log is read off the
operations and their results; that it agrees with the pools and slots is for theorems to say.

* `Event`, `Log`: events in order, and the blocks a log speaks of.
* `Inventory.events`, `Inventory.log`: what an operation does, and what a run does.
* `Inventory.Steps`, `Inventory.step_cases`: all that an operation can do.
* `Inventory.Tidy`: slots in order, and no pool that is not there.
* `Inventory.run_induction`: what every operation preserves holds after every run.
-/

namespace FramePress
set_option autoImplicit false

/-! ## Events -/

/-- Blocks are named by their indices. -/
inductive Event
  | created (index : Nat)
  | discarded (index : Nat)
  /-- A request to a pool has succeeded. -/
  | taken (pool : PoolId) (index capacity : Nat)
  /-- A block has gone to the free list of a pool. -/
  | given (pool : PoolId) (index : Nat)
  /-- A payload has been copied into a block. -/
  | filled (index size : Nat)
  deriving DecidableEq, Repr

abbrev Log := List Event

namespace Log

def created (log : Log) : List Nat :=
  log.filterMap fun
    | .created index => some index
    | _ => none

def discarded (log : Log) : List Nat :=
  log.filterMap fun
    | .discarded index => some index
    | _ => none

/-- The blocks that were taken from a pool, once for each request. -/
def takenFrom (pool : PoolId) (log : Log) : List Nat :=
  log.filterMap fun
    | .taken id index _ => if id = pool then some index else none
    | _ => none

def givenTo (pool : PoolId) (log : Log) : List Nat :=
  log.filterMap fun
    | .given id index => if id = pool then some index else none
    | _ => none

variable (log log' : Log)

@[simp] theorem created_append : created (log ++ log') = created log ++ created log' :=
  List.filterMap_append

@[simp] theorem discarded_append : discarded (log ++ log') = discarded log ++ discarded log' :=
  List.filterMap_append

@[simp] theorem takenFrom_append (pool : PoolId) :
    takenFrom pool (log ++ log') = takenFrom pool log ++ takenFrom pool log' :=
  List.filterMap_append

@[simp] theorem givenTo_append (pool : PoolId) :
    givenTo pool (log ++ log') = givenTo pool log ++ givenTo pool log' :=
  List.filterMap_append

end Log

/-- A request that is granted creates a block if none is free. -/
def Heap.granted (h : Heap) (id : PoolId) (index capacity : Nat) : Log :=
  (if (h.pool id).free.isEmpty then [.created index] else []) ++ [.taken id index capacity]

namespace Inventory

/-- The block in a slot, if any, ceases to exist. -/
def replaced (v : Inventory) (slot : String) : Log :=
  (v.blocks.find? slot).toList.map fun b => .discarded b.index

/-- The block of the frame in a slot, if any, goes back to the pool of the frame. -/
def returned (v : Inventory) (slot : String) : Log :=
  match v.frames.find? slot with
  | none => []
  | some f => f.block.toList.map fun b => .given f.pool b.index

/-- What an operation with a certain result has done to blocks. -/
def events (v : Inventory) (op : Op) (result : Result) : Log :=
  match op, result with
  | .newBlock slot _, .block b => .created b.index :: v.replaced slot
  | .acquire pool slot capacity, .block b =>
    match v.names.find? pool with
    | none => []
    | some id => v.heap.granted id b.index capacity ++ v.replaced slot
  | .write _ src, .block b => [.filled b.index src.size]
  | .release pool slot, .done =>
    match v.names.find? pool, v.blocks.find? slot with
    | some id, some b => [.given id b.index]
    | _, _ => []
  | .forget slot, .done => v.replaced slot
  | .newFrame _ slot _ _, .frame _ => v.returned slot
  | .store slot src, .frame f =>
    match (v.frames.find? slot).bind Frame.block, f.block with
    | none, some b => v.heap.granted f.pool b.index src.size ++ [.filled b.index src.size]
    | some _, some b => [.filled b.index src.size]
    | _, none => []
  | .dropFrame slot, .done => v.returned slot
  | _, _ => []

/-- What the operations of a run do to blocks. -/
def log (v : Inventory) : List (Grants × Op) → Log
  | [] => []
  | (grants, op) :: ops => v.events op (v.step grants op).1 ++ log (v.step grants op).2 ops

/-! ## Steps -/

variable {grants : Grants} {v v' : Inventory} {es : Log}

/-- All that an operation can do. -/
inductive Steps (grants : Grants) (v : Inventory) : Log → Inventory → Prop
  | nothing : Steps grants v [] v
  | pooled (name : String) :
      Steps grants v []
        { v with heap := (v.heap.addPool name).2, names := v.names.insert name v.heap.pools.length }
  | created (slot : String) (b : Block) (hb : b.index = v.heap.next) :
      Steps grants v (.created b.index :: v.replaced slot)
        { v with heap := { v.heap with next := v.heap.next + 1 }, blocks := v.blocks.insert slot b }
  | acquired (pool slot : String) (id : PoolId) (capacity : Nat) (b : Block) (h : Heap)
      (hid : v.names.find? pool = some id) (hacquire : v.heap.acquire grants id capacity = (.ok b, h)) :
      Steps grants v (v.heap.granted id b.index capacity ++ v.replaced slot)
        { v with heap := h, blocks := v.blocks.insert slot b }
  | written (slot : String) (src : Bytes) (b b' : Block) (hb : v.blocks.find? slot = some b)
      (hwrite : b.write grants src = .ok b') :
      Steps grants v [.filled b'.index src.size] { v with blocks := v.blocks.insert slot b' }
  | released (pool slot : String) (id : PoolId) (b : Block) (hid : v.names.find? pool = some id)
      (hb : v.blocks.find? slot = some b) :
      Steps grants v [.given id b.index]
        { v with heap := v.heap.release id b, blocks := v.blocks.erase slot }
  | forgotten (slot : String) : Steps grants v (v.replaced slot) { v with blocks := v.blocks.erase slot }
  | framed (pool slot : String) (f : Frame) (hid : v.names.find? pool = some f.pool)
      (hblock : f.block = none) :
      Steps grants v (v.returned slot)
        { v with heap := v.heapWithout slot, frames := v.frames.insert slot f }
  | relabelled (slot : String) (f f' : Frame) (hf : v.frames.find? slot = some f)
      (hblock : f'.block = f.block) (hpool : f'.pool = f.pool) :
      Steps grants v [] { v with frames := v.frames.insert slot f' }
  | stored (slot : String) (src : Bytes) (f f' : Frame) (b : Block) (h : Heap)
      (hf : v.frames.find? slot = some f) (hblock : f.block = none) (hpool : f'.pool = f.pool)
      (hacquire : v.heap.acquire grants f.pool src.size = (.ok b, h))
      (hblock' : f'.block = some ⟨b.index, src⟩) :
      Steps grants v (v.heap.granted f.pool b.index src.size ++ [.filled b.index src.size])
        { v with heap := h, frames := v.frames.insert slot f' }
  | overwritten (slot : String) (src : Bytes) (f f' : Frame) (b b' : Block)
      (hf : v.frames.find? slot = some f) (hblock : f.block = some b) (hpool : f'.pool = f.pool)
      (hwrite : b.write grants src = .ok b') (hblock' : f'.block = some b') :
      Steps grants v [.filled b'.index src.size] { v with frames := v.frames.insert slot f' }
  | dropped (slot : String) :
      Steps grants v (v.returned slot)
        { v with heap := v.heapWithout slot, frames := v.frames.erase slot }

theorem steps_newBlock (grants : Grants) (v : Inventory) (slot : String) (capacity : Nat) :
    Steps grants v (v.events (.newBlock slot capacity) (v.putBlock slot (v.heap.create grants capacity)).1)
      (v.putBlock slot (v.heap.create grants capacity)).2 := by
  unfold Heap.create
  rw [Block.create_eq]
  by_cases hgrants : grants capacity = true
  · rw [if_pos hgrants]
    exact .created slot ⟨v.heap.next, _⟩ rfl
  · rw [if_neg hgrants]
    exact .nothing

theorem steps_acquire (grants : Grants) (v : Inventory) (pool slot : String) (capacity : Nat) :
    Steps grants v (v.events (.acquire pool slot capacity) (v.acquire grants pool slot capacity).1)
      (v.acquire grants pool slot capacity).2 := by
  unfold acquire
  cases hid : v.names.find? pool with
  | none => exact .nothing
  | some id =>
    dsimp only
    cases hacquire : v.heap.acquire grants id capacity with
    | mk result h =>
      cases result with
      | error e =>
        obtain ⟨-, rfl⟩ := Heap.acquire_error hacquire
        exact .nothing
      | ok b =>
        have hsteps := Steps.acquired pool slot id capacity b h hid hacquire
        simpa only [putBlock, events, hid] using hsteps

theorem steps_write (grants : Grants) (v : Inventory) (slot : String) (src : Bytes) :
    Steps grants v (v.events (.write slot src) (v.write grants slot src).1) (v.write grants slot src).2 := by
  unfold write
  cases hb : v.blocks.find? slot with
  | none => exact .nothing
  | some b =>
    dsimp only
    cases hwrite : b.write grants src with
    | error e => exact .nothing
    | ok b' => exact .written slot src b b' hb hwrite

theorem steps_release (grants : Grants) (v : Inventory) (pool slot : String) :
    Steps grants v (v.events (.release pool slot) (v.release pool slot).1) (v.release pool slot).2 := by
  unfold release
  cases hid : v.names.find? pool with
  | none => exact .nothing
  | some id =>
    cases hb : v.blocks.find? slot with
    | none => exact .nothing
    | some b =>
      have hsteps := @Steps.released grants v pool slot id b hid hb
      simpa only [events, hid, hb] using hsteps

theorem steps_newFrame (grants : Grants) (v : Inventory) (pool slot dataset : String) (labels : Labels) :
    Steps grants v (v.events (.newFrame pool slot dataset labels) (v.newFrame pool slot dataset labels).1)
      (v.newFrame pool slot dataset labels).2 := by
  unfold newFrame
  cases hid : v.names.find? pool with
  | none => exact .nothing
  | some id => exact .framed pool slot _ hid rfl

theorem steps_store (grants : Grants) (v : Inventory) (slot : String) (src : Bytes) :
    Steps grants v (v.events (.store slot src) (v.store grants slot src).1) (v.store grants slot src).2 := by
  unfold store
  cases hf : v.frames.find? slot with
  | none => exact .nothing
  | some f =>
    have hcases := Frame.store_cases grants f v.heap src
    dsimp only
    generalize f.store grants v.heap src = r at hcases ⊢
    cases hcases with
    | written b b' hblock hwrite =>
      have hsteps := Steps.overwritten slot src f { f with block := some b', dataSize := src.size }
        b b' hf hblock rfl hwrite rfl
      simpa only [putFrame, events, hf, hblock, Option.bind_some] using hsteps
    | taken b h' hblock hacquire =>
      have hsteps := Steps.stored slot src f { f with block := some ⟨b.index, src⟩, dataSize := src.size }
        b h' hf hblock rfl hacquire rfl
      simpa only [putFrame, events, hf, hblock, Option.bind_some] using hsteps
    | refused e hgrants => exact .relabelled slot f f hf rfl rfl

theorem step_cases (grants : Grants) (v : Inventory) (op : Op) :
    Steps grants v (v.events op (v.step grants op).1) (v.step grants op).2 := by
  cases op with
  | newPool pool => exact .pooled pool
  | newBlock slot capacity => exact steps_newBlock grants v slot capacity
  | acquire pool slot capacity => exact steps_acquire grants v pool slot capacity
  | write slot src => exact steps_write grants v slot src
  | read slot =>
    dsimp only [step]
    cases v.blocks.find? slot <;> exact .nothing
  | release pool slot => exact steps_release grants v pool slot
  | forget slot =>
    dsimp only [step]
    by_cases hnone : (v.blocks.find? slot).isNone = true
    · rw [if_pos hnone]
      exact .nothing
    · rw [if_neg hnone]
      exact .forgotten slot
  | scratch capacity =>
    dsimp only [step]
    cases zeroed grants capacity <;> exact .nothing
  | newFrame pool slot dataset labels => exact steps_newFrame grants v pool slot dataset labels
  | store slot src => exact steps_store grants v slot src
  | relabel slot labels =>
    dsimp only [step]
    cases hf : v.frames.find? slot with
    | none => exact .nothing
    | some f => exact .relabelled slot f _ hf rfl rfl
  | inspect slot =>
    dsimp only [step]
    cases v.frames.find? slot <;> exact .nothing
  | dropFrame slot =>
    dsimp only [step, dropFrame]
    by_cases hnone : (v.frames.find? slot).isNone = true
    · rw [if_pos hnone]
      exact .nothing
    · rw [if_neg hnone]
      exact .dropped slot

/-! ## Order in the slots -/

structure Tidy (v : Inventory) : Prop where
  blocks : v.blocks.Sorted
  frames : v.frames.Sorted
  names : ∀ p ∈ v.names, p.2 < v.heap.pools.length
  pools : ∀ p ∈ v.frames, p.2.pool < v.heap.pools.length

theorem tidy_empty : Tidy {} := ⟨.nil, .nil, nofun, nofun⟩

theorem Tidy.lt_of_name (hv : v.Tidy) {pool : String} {id : PoolId} (hid : v.names.find? pool = some id) :
    id < v.heap.pools.length :=
  hv.names _ (Dictionary.mem_of_find? hid)

theorem Tidy.lt_of_frame (hv : v.Tidy) {slot : String} {f : Frame} (hf : v.frames.find? slot = some f) :
    f.pool < v.heap.pools.length :=
  hv.pools _ (Dictionary.mem_of_find? hf)

theorem length_acquire {h h' : Heap} {id : PoolId} {capacity : Nat} {b : Block}
    (hacquire : h.acquire grants id capacity = (.ok b, h')) : h'.pools.length = h.pools.length := by
  obtain ⟨p, next, -, rfl⟩ := Heap.acquire_ok hacquire
  exact List.length_set

theorem length_heapWithout (v : Inventory) (slot : String) :
    (v.heapWithout slot).pools.length = v.heap.pools.length := by
  unfold heapWithout Frame.drop Heap.release
  split
  · rfl
  · split
    · rfl
    · exact List.length_set

theorem tidy_step (hv : v.Tidy) (h : Steps grants v es v') : v'.Tidy := by
  have hframes {slot : String} {f : Frame} (hlt : f.pool < v.heap.pools.length) :
      ∀ p ∈ v.frames.insert slot f, p.2.pool < v.heap.pools.length := by
    intro p hp
    rcases Dictionary.mem_insert hp with rfl | hp
    · exact hlt
    · exact hv.pools p hp
  cases h with
  | nothing => exact hv
  | pooled name =>
    have hlength : (v.heap.addPool name).2.pools.length = v.heap.pools.length + 1 := List.length_append
    refine ⟨hv.blocks, hv.frames, fun p hp => ?_, fun p hp => ?_⟩
    · show p.2 < (v.heap.addPool name).2.pools.length
      rw [hlength]
      rcases Dictionary.mem_insert hp with rfl | hp
      · exact Nat.lt_succ_self _
      · exact Nat.lt_succ_of_lt (hv.names p hp)
    · show p.2.pool < (v.heap.addPool name).2.pools.length
      rw [hlength]
      exact Nat.lt_succ_of_lt (hv.pools p hp)
  | created slot b hb => exact ⟨Dictionary.sorted_insert hv.blocks _ _, hv.frames, hv.names, hv.pools⟩
  | acquired pool slot id capacity b h hid hacquire =>
    have hlength := length_acquire hacquire
    exact ⟨Dictionary.sorted_insert hv.blocks _ _, hv.frames,
      fun p hp => Nat.lt_of_lt_of_eq (hv.names p hp) hlength.symm,
      fun p hp => Nat.lt_of_lt_of_eq (hv.pools p hp) hlength.symm⟩
  | written slot src b b' hb hwrite =>
    exact ⟨Dictionary.sorted_insert hv.blocks _ _, hv.frames, hv.names, hv.pools⟩
  | released pool slot id b hid hb =>
    have hlength : (v.heap.release id b).pools.length = v.heap.pools.length := List.length_set
    exact ⟨Dictionary.sorted_erase hv.blocks _, hv.frames,
      fun p hp => Nat.lt_of_lt_of_eq (hv.names p hp) hlength.symm,
      fun p hp => Nat.lt_of_lt_of_eq (hv.pools p hp) hlength.symm⟩
  | forgotten slot => exact ⟨Dictionary.sorted_erase hv.blocks _, hv.frames, hv.names, hv.pools⟩
  | framed pool slot f hid hblock =>
    have hlength := length_heapWithout v slot
    exact ⟨hv.blocks, Dictionary.sorted_insert hv.frames _ _,
      fun p hp => Nat.lt_of_lt_of_eq (hv.names p hp) hlength.symm,
      fun p hp => Nat.lt_of_lt_of_eq (hframes (hv.lt_of_name hid) p hp) hlength.symm⟩
  | relabelled slot f f' hf hblock hpool =>
    exact ⟨hv.blocks, Dictionary.sorted_insert hv.frames _ _, hv.names,
      hframes (hpool ▸ hv.lt_of_frame hf)⟩
  | stored slot src f f' b h hf hblock hpool hacquire hblock' =>
    have hlength := length_acquire hacquire
    exact ⟨hv.blocks, Dictionary.sorted_insert hv.frames _ _,
      fun p hp => Nat.lt_of_lt_of_eq (hv.names p hp) hlength.symm,
      fun p hp => Nat.lt_of_lt_of_eq (hframes (hpool ▸ hv.lt_of_frame hf) p hp) hlength.symm⟩
  | overwritten slot src f f' b b' hf hblock hpool hwrite hblock' =>
    exact ⟨hv.blocks, Dictionary.sorted_insert hv.frames _ _, hv.names,
      hframes (hpool ▸ hv.lt_of_frame hf)⟩
  | dropped slot =>
    have hlength := length_heapWithout v slot
    exact ⟨hv.blocks, Dictionary.sorted_erase hv.frames _,
      fun p hp => Nat.lt_of_lt_of_eq (hv.names p hp) hlength.symm,
      fun p hp => Nat.lt_of_lt_of_eq (hv.pools p (Dictionary.mem_of_mem_erase hp)) hlength.symm⟩

/-! ## Runs -/

/-- The induction over a run, with the log so far. -/
theorem run_induction {P : Log → Inventory → Prop} (hstart : P [] {})
    (hstep : ∀ past v grants es v', v.Tidy → Steps grants v es v' → P past v → P (past ++ es) v')
    (ops : List (Grants × Op)) : P (log {} ops) (run {} ops) := by
  have hfrom : ∀ ops past v, v.Tidy → P past v → P (past ++ log v ops) (run v ops) := by
    intro ops
    induction ops with
    | nil =>
      intro past v _ hpast
      rw [log, List.append_nil]
      exact hpast
    | cons op ops ih =>
      intro past v hv hpast
      have hsteps := step_cases op.1 v op.2
      rw [log, ← List.append_assoc]
      exact ih _ _ (tidy_step hv hsteps) (hstep past v op.1 _ _ hv hsteps hpast)
  exact hfrom ops [] {} tidy_empty hstart

theorem tidy_run (ops : List (Grants × Op)) : (run {} ops).Tidy :=
  run_induction (P := fun _ v => v.Tidy) tidy_empty (fun _ _ _ _ _ _ hsteps hv => tidy_step hv hsteps) ops

end Inventory
end FramePress
