import FramePress.Proofs.Memory.Log

/-! # A frame shows what it was given last

Blocks are handed out with old bytes in them, and they can be larger than the payload.  What is seen of a
frame is told by its story alone, which is made of the operations on its slot and their results.

* `trace`, `payloads`: the results of a run, and the payloads of the frame that is in a slot.
* `Frame.Given`: a frame that has been given some payloads.
* `Touches`, `touches_step`: all that an operation can do to the frame in a slot.
* `KeepsPayload`, `keepsPayload`: what holds for every slot after every run.
-/

namespace FramePress
set_option autoImplicit false

/-! ## Payloads -/

theorem max?_concat (l : List Nat) (n : Nat) : (l ++ [n]).max? = some ((l.max?.map (max · n)).getD n) := by
  cases l with
  | nil => rfl
  | cons m l =>
    rw [List.cons_append, List.max?_cons', List.max?_cons', List.foldl_append]
    rfl

namespace Frame

variable {grants : Grants} {f f' : Frame} {payloads : List Bytes}

/-- The number of the block that holds the payload. -/
def blockIndex (f : Frame) : Option Nat := f.block.map Block.index

/-- The frame has been given these payloads since it was made, the latest last. -/
structure Given (f : Frame) (payloads : List Bytes) : Prop where
  data : f.data = payloads.getLast?.getD #[]
  dataSize : f.dataSize = f.data.size
  fits : ∀ b, f.block = some b → f.dataSize ≤ b.size
  /-- There is a block once there is a payload, and it has the size of the largest one. -/
  capacity : f.block.map Block.size = (payloads.map Array.size).max?

theorem given_nil (hblock : f.block = none) (hsize : f.dataSize = 0) : f.Given [] := by
  have hdata : f.data = #[] := by simp [data, hblock]
  refine ⟨hdata, by rw [hdata, hsize]; rfl, fun b hb => ?_, by rw [hblock]; rfl⟩
  rw [hblock] at hb
  cases hb

theorem Given.relabel (h : f.Given payloads) (l : Labels) : (f.relabel l).Given payloads :=
  ⟨h.data, h.dataSize, h.fits, h.capacity⟩

/-- A payload at the front of a block that is as large as the largest payload so far. -/
theorem given_concat {b : Block} {src : Bytes} (hblock : f.block = some b) (hsize : f.dataSize = src.size)
    (hfront : b.bytes.extract 0 src.size = src)
    (hcapacity : b.size = ((payloads.map Array.size).max?.map (max · src.size)).getD src.size) :
    f.Given (payloads ++ [src]) := by
  have hdata : f.data = src := by
    unfold data
    rw [hblock]
    dsimp only
    rw [hsize, hfront]
  have hle : src.size ≤ b.size := by
    have hfront' := congrArg Array.size hfront
    rw [Array.size_extract] at hfront'
    unfold Block.size
    omega
  constructor
  · rw [hdata, List.getLast?_concat]
    rfl
  · rw [hdata, hsize]
  · intro b' hb'
    rw [hblock] at hb'
    cases hb'
    rw [hsize]
    exact hle
  · rw [hblock, List.map_append, List.map_singleton, max?_concat, ← hcapacity]
    rfl

theorem Given.store {h h' : Heap} {src : Bytes} (hf : f.Given payloads)
    (hstores : Stores grants f h src (.ok (), f', h')) : f'.Given (payloads ++ [src]) := by
  have hcapacity := hf.capacity
  cases hstores with
  | written b b' hb hwrite =>
    obtain ⟨-, hsize, hfront⟩ := Block.write_ok hwrite
    rw [hb] at hcapacity
    refine given_concat rfl rfl hfront ?_
    rw [← hcapacity, hsize]
    rfl
  | taken b h' hb hacquire =>
    rw [hb] at hcapacity
    refine given_concat rfl rfl Array.extract_size ?_
    rw [← hcapacity]
    rfl

end Frame

namespace Inventory

variable {grants : Grants} {slot : String} {v : Inventory}

/-! ## Stories -/

/-- The operations of a run, each with its result. -/
def trace (v : Inventory) : List (Grants × Op) → List (Op × Result)
  | [] => []
  | (grants, op) :: ops => (op, (v.step grants op).1) :: trace (v.step grants op).2 ops

/-- The payloads of the frame in a slot after an operation.  They depend on those before, and on the
operation and whether it has succeeded. -/
def tell (slot : String) (story : Option (List Bytes)) : Op × Result → Option (List Bytes)
  | (.newFrame _ name _ _, .frame _) => if name = slot then some [] else story
  | (.store name src, .frame _) => if name = slot then story.map (· ++ [src]) else story
  | (.dropFrame name, .done) => if name = slot then none else story
  | _ => story

/-- The payloads that the frame in a slot has been given since it was made, if there is a frame. -/
def payloads (slot : String) (trace : List (Op × Result)) : Option (List Bytes) := trace.foldl (tell slot) none

/-- The frame in a slot is dropped, perhaps for another one. -/
def Ends (slot : String) : Op × Result → Prop
  | (.newFrame _ name _ _, .frame _) => name = slot
  | (.dropFrame name, .done) => name = slot
  | _ => False

/-- The slot of the frame that an operation is about. -/
def Op.frame? : Op → Option String
  | newFrame _ slot _ _ | store slot _ | relabel slot _ | inspect slot | dropFrame slot => some slot
  | newPool _ | newBlock _ _ | acquire _ _ _ | write _ _ | read _ | release _ _ | forget _ | scratch _ => none

/-! ## Steps -/

theorem frames_putBlock (v : Inventory) (slot : String) (r : Except AllocationError Block × Heap) :
    (v.putBlock slot r).2.frames = v.frames := by
  obtain ⟨result, h⟩ := r
  cases result <;> rfl

/-- Operations on pools and single blocks are about no frame. -/
theorem frames_step {op : Op} (hop : op.frame? = none) : (v.step grants op).2.frames = v.frames := by
  cases op with
  | newPool pool => rfl
  | newBlock slot capacity => exact frames_putBlock v slot _
  | acquire pool slot capacity =>
    dsimp only [step, acquire]
    split
    · rfl
    · exact frames_putBlock v slot _
  | write slot src =>
    dsimp only [step, write]
    split
    · rfl
    · exact frames_putBlock v slot _
  | read slot =>
    dsimp only [step]
    split <;> rfl
  | release pool slot =>
    dsimp only [step, release]
    split <;> rfl
  | forget slot =>
    dsimp only [step]
    split <;> rfl
  | scratch capacity =>
    dsimp only [step]
    split <;> rfl
  | newFrame pool slot dataset labels => cases hop
  | store slot src => cases hop
  | relabel slot labels => cases hop
  | inspect slot => cases hop
  | dropFrame slot => cases hop

/-- All that an operation can do to the frame in a slot. -/
inductive Touches (grants : Grants) (h : Heap) (slot : String) :
    Op × Result → Option Frame → Option Frame → Prop
  | kept (e : Op × Result) (f : Option Frame) (hstory : ∀ story, tell slot story e = story) :
      Touches grants h slot e f f
  | made (pool dataset : String) (labels : Labels) (f : Option Frame) (f' : Frame)
      (hblock : f'.block = none) (hsize : f'.dataSize = 0) :
      Touches grants h slot (.newFrame pool slot dataset labels, .frame f') f (some f')
  | stored (src : Bytes) (f f' : Frame) (h' : Heap) (hstores : f.Stores grants h src (.ok (), f', h')) :
      Touches grants h slot (.store slot src, .frame f') (some f) (some f')
  | relabelled (labels : Labels) (f : Frame) :
      Touches grants h slot (.relabel slot labels, .frame (f.relabel labels)) (some f)
        (some (f.relabel labels))
  | dropped (f : Frame) : Touches grants h slot (.dropFrame slot, .done) (some f) none

theorem find?_putFrame (v : Inventory) (name slot : String) (f : Frame) :
    (v.putFrame name f).2.frames.find? slot = if slot = name then some f else v.frames.find? slot :=
  Dictionary.find?_insert v.frames name f slot

/-- An operation on another slot, or on none, changes nothing of the frame. -/
theorem find?_step_of_ne {op : Op} (hop : op.frame? ≠ some slot) :
    (v.step grants op).2.frames.find? slot = v.frames.find? slot := by
  have hother {name : String} (h : some name ≠ some slot) : slot ≠ name := fun heq => h (congrArg some heq.symm)
  cases hframe : op.frame? with
  | none => rw [frames_step hframe]
  | some name =>
    rw [hframe] at hop
    cases op with
    | newFrame pool name dataset labels =>
      cases hframe
      dsimp only [step, newFrame]
      split
      · rfl
      · rw [find?_putFrame, if_neg (hother hop)]
    | store name src =>
      cases hframe
      dsimp only [step, store]
      split
      · rfl
      · split
        · rw [find?_putFrame, if_neg (hother hop)]
        · rw [find?_putFrame, if_neg (hother hop)]
    | relabel name labels =>
      cases hframe
      dsimp only [step]
      split
      · rfl
      · rw [find?_putFrame, if_neg (hother hop)]
    | inspect name =>
      dsimp only [step]
      split <;> rfl
    | dropFrame name =>
      cases hframe
      dsimp only [step, dropFrame]
      split
      · rfl
      · rw [Dictionary.find?_erase, if_neg (hother hop)]
    | _ => cases hframe

theorem tell_of_ne {op : Op} (hop : op.frame? ≠ some slot) (story : Option (List Bytes)) (r : Result) :
    tell slot story (op, r) = story := by
  cases op with
  | newFrame pool name dataset labels =>
    have hne : name ≠ slot := fun heq => hop (congrArg some heq)
    cases r <;> simp [tell, hne]
  | store name src =>
    have hne : name ≠ slot := fun heq => hop (congrArg some heq)
    cases r <;> simp [tell, hne]
  | dropFrame name =>
    have hne : name ≠ slot := fun heq => hop (congrArg some heq)
    cases r <;> simp [tell, hne]
  | _ => rfl

theorem touches_store (grants : Grants) (v : Inventory) (slot : String) (src : Bytes) :
    Touches grants v.heap slot (.store slot src, (v.store grants slot src).1) (v.frames.find? slot)
      ((v.store grants slot src).2.frames.find? slot) := by
  unfold store
  cases hf : v.frames.find? slot with
  | none =>
    dsimp only
    rw [hf]
    exact .kept _ _ fun _ => rfl
  | some f =>
    have hstores := Frame.store_cases grants f v.heap src
    dsimp only
    cases hr : f.store grants v.heap src with
    | mk result rest =>
      obtain ⟨f', h'⟩ := rest
      rw [hr] at hstores
      cases result with
      | error e =>
        -- the frame that is put back is the one that was there
        cases hstores
        dsimp only
        rw [find?_putFrame, if_pos rfl]
        exact .kept _ _ fun _ => rfl
      | ok u =>
        dsimp only
        rw [find?_putFrame, if_pos rfl]
        exact .stored src f f' h' hstores

theorem touches_step (grants : Grants) (v : Inventory) (slot : String) (op : Op) :
    Touches grants v.heap slot (op, (v.step grants op).1) (v.frames.find? slot)
      ((v.step grants op).2.frames.find? slot) := by
  by_cases hop : op.frame? = some slot
  · cases op with
    | newFrame pool name dataset labels =>
      cases hop
      dsimp only [step, newFrame]
      split
      · exact .kept _ _ fun _ => rfl
      · rw [find?_putFrame, if_pos rfl]
        exact .made pool dataset labels _ _ rfl rfl
    | store name src =>
      cases hop
      exact touches_store grants v slot src
    | relabel name labels =>
      cases hop
      dsimp only [step]
      cases hf : v.frames.find? slot with
      | none =>
        dsimp only
        rw [hf]
        exact .kept _ _ fun _ => rfl
      | some f =>
        dsimp only
        rw [find?_putFrame, if_pos rfl]
        exact .relabelled labels f
    | inspect name =>
      dsimp only [step]
      split <;> exact .kept _ _ fun _ => rfl
    | dropFrame name =>
      cases hop
      dsimp only [step, dropFrame]
      cases hf : v.frames.find? slot with
      | none =>
        rw [if_pos Option.isNone_none, hf]
        exact .kept _ _ fun _ => rfl
      | some f =>
        rw [if_neg (by simp), Dictionary.find?_erase, if_pos rfl]
        exact .dropped f
    | _ => cases hop
  · rw [find?_step_of_ne hop]
    exact .kept _ _ fun story => tell_of_ne hop story _

/-! ## Preservation -/

section Step
variable {h : Heap} {e : Op × Result}

theorem given_step {f f' : Option Frame} {story : Option (List Bytes)} (htouches : Touches grants h slot e f f')
    (hf : Option.Rel Frame.Given f story) : Option.Rel Frame.Given f' (tell slot story e) := by
  cases htouches with
  | kept e f hstory =>
    rw [hstory]
    exact hf
  | made pool dataset labels f f' hblock hsize =>
    rw [tell, if_pos rfl]
    exact .some (Frame.given_nil hblock hsize)
  | stored src f f' h' hstores =>
    cases hf with
    | some hf =>
      rw [tell, if_pos rfl]
      exact .some (hf.store hstores)
  | relabelled labels f =>
    cases hf with
    | some hf => exact .some (hf.relabel labels)
  | dropped f =>
    rw [tell, if_pos rfl]
    exact .none

/-- A block stays with its frame until the frame is dropped. -/
theorem blockIndex_step {f : Frame} {f' : Option Frame} {i : Nat}
    (htouches : Touches grants h slot e (some f) f') (hi : f.blockIndex = some i) (hlives : ¬ Ends slot e) :
    ∃ f₁, f' = some f₁ ∧ f₁.blockIndex = some i := by
  cases htouches with
  | kept e _ hstory => exact ⟨f, rfl, hi⟩
  | made pool dataset labels _ f' hblock hsize => exact absurd rfl hlives
  | stored src _ f' h' hstores =>
    refine ⟨f', rfl, ?_⟩
    cases hstores with
    | written b b' hb hwrite =>
      obtain ⟨hindex, -⟩ := Block.write_ok hwrite
      rw [Frame.blockIndex, hb] at hi
      exact (congrArg some hindex).trans hi
    | taken b h' hb hacquire =>
      rw [Frame.blockIndex, hb] at hi
      cases hi
  | relabelled labels f => exact ⟨_, rfl, hi⟩
  | dropped f => exact absurd rfl hlives

end Step

/-! ## Runs -/

theorem given_run (ops : List (Grants × Op)) (v : Inventory) (story : Option (List Bytes))
    (hv : Option.Rel Frame.Given (v.frames.find? slot) story) :
    Option.Rel Frame.Given ((run v ops).frames.find? slot) ((trace v ops).foldl (tell slot) story) := by
  induction ops generalizing v story with
  | nil => exact hv
  | cons op ops ih => exact ih _ _ (given_step (touches_step op.1 v slot op.2) hv)

theorem blockIndex_run (ops : List (Grants × Op)) (v : Inventory) {f : Frame} {i : Nat}
    (hf : v.frames.find? slot = some f) (hi : f.blockIndex = some i)
    (hlives : ∀ e ∈ trace v ops, ¬ Ends slot e) :
    ∃ f', (run v ops).frames.find? slot = some f' ∧ f'.blockIndex = some i := by
  induction ops generalizing v f with
  | nil => exact ⟨f, hf, hi⟩
  | cons op ops ih =>
    have htouches := touches_step op.1 v slot op.2
    rw [hf] at htouches
    obtain ⟨f₁, hf₁, hi₁⟩ := blockIndex_step htouches hi (hlives _ List.mem_cons_self)
    exact ih _ hf₁ hi₁ fun e he => hlives e (List.mem_cons_of_mem _ he)

/-- A payload that is turned away leaves everything as it was. -/
theorem store_failed (hv : v.Tidy) {src : Bytes} {e : AllocationError}
    (hfailed : (v.step grants (.store slot src)).1 = .failed e) : (v.step grants (.store slot src)).2 = v := by
  dsimp only [step, store] at hfailed ⊢
  cases hf : v.frames.find? slot with
  | none => rfl
  | some f =>
    have hstores := Frame.store_cases grants f v.heap src
    rw [hf] at hfailed
    dsimp only at hfailed ⊢
    generalize f.store grants v.heap src = r at hstores hfailed ⊢
    cases hstores with
    | written b b' hb hwrite => cases hfailed
    | taken b h' hb hacquire => cases hfailed
    | refused e hgrants =>
      show { v with frames := v.frames.insert slot f } = v
      rw [Dictionary.insert_of_find? hv.frames hf]

/-- What holds for a slot, in an inventory in which its frame has a certain story. -/
structure KeepsPayload (v : Inventory) (slot : String) (story : Option (List Bytes)) : Prop where
  /-- There is a frame if the story says so, and it shows the last payload. -/
  given : Option.Rel Frame.Given (v.frames.find? slot) story
  /-- Whatever is done next, the payload stays in the same block until the frame is dropped. -/
  blockIndex : ∀ ops f i, v.frames.find? slot = some f → f.blockIndex = some i →
    (∀ e ∈ trace v ops, ¬ Ends slot e) →
      ∃ f', (run v ops).frames.find? slot = some f' ∧ f'.blockIndex = some i
  failed : ∀ grants src e, (v.step grants (.store slot src)).1 = .failed e →
    (v.step grants (.store slot src)).2 = v
  others : ∀ grants op, op.frame? ≠ some slot →
    (v.step grants op).2.frames.find? slot = v.frames.find? slot

theorem keepsPayload (ops : List (Grants × Op)) (slot : String) :
    KeepsPayload (run {} ops) slot (payloads slot (trace {} ops)) where
  given := given_run ops {} none .none
  blockIndex ops' _ _ := blockIndex_run ops' _
  failed _ _ _ := store_failed (tidy_run ops)
  others _ _ := find?_step_of_ne

end Inventory
end FramePress
