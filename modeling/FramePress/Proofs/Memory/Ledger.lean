import FramePress.Proofs.Memory.Ownership

/-! # The ledger of a pool

The counters of a pool say what its log says.  A block is created only if none is free, so a pool has created
as many blocks as were ever taken and not given back at the same time.

* `Turns`, `turns_step`: all that an operation can do to a pool.
* `Log.balance`, `IsPeak`: requests less returns, and the most that it has been.
* `Ledger`, `ledger_run`: the counters over a run.
-/

namespace FramePress
set_option autoImplicit false

variable {grants : Grants} {id : PoolId} {past es : Log} {p p' : Pool}

/-! ## What happens to a pool -/

/-- A log without requests to the pool or returns to it. -/
structure Quiet (id : PoolId) (es : Log) : Prop where
  taken : es.takenFrom id = []
  given : es.givenTo id = []

/-- All that an operation can do to a pool. -/
inductive Turns (grants : Grants) (id : PoolId) (p : Pool) : Log → Pool → Prop
  | idle (es : Log) (name : String) (hquiet : Quiet id es) : Turns grants id p es { p with name := name }
  | taken (front rest : Log) (next next' capacity : Nat) (b : Block) (p' : Pool) (hfront : Quiet id front)
      (hrest : Quiet id rest) (hacquire : p.acquire grants next capacity = (.ok b, p', next')) :
      Turns grants id p (front ++ .taken id b.index capacity :: rest) p'
  | given (b : Block) : Turns grants id p [.given id b.index] (p.release b)

theorem quiet_replaced (v : Inventory) (slot : String) : Quiet id (v.replaced slot) := by
  unfold Inventory.replaced
  cases v.blocks.find? slot <;> exact ⟨rfl, rfl⟩

theorem turns_acquire {h h' : Heap} {id' : PoolId} {capacity : Nat} {b : Block}
    (hid : id' < h.pools.length) (hacquire : h.acquire grants id' capacity = (.ok b, h')) {rest : Log}
    (hrest : Quiet id rest) :
    Turns grants id (h.pool id) (h.granted id' b.index capacity ++ rest) (h'.pool id) := by
  obtain ⟨p, next, hp, rfl⟩ := Heap.acquire_ok hacquire
  have hfront : Quiet id (if (h.pool id').free.isEmpty then [.created b.index] else []) := by
    split <;> exact ⟨rfl, rfl⟩
  have hpool := Heap.pool_set h id' id p next
  unfold Heap.granted
  by_cases heq : id' = id
  · subst heq
    rw [if_pos ⟨rfl, hid⟩] at hpool
    rw [hpool, List.append_assoc]
    exact .taken _ rest h.next next capacity b p hfront hrest hp
  · have htaken : Quiet id [.taken id' b.index capacity] := by
      constructor
      · simp [Log.takenFrom, heq]
      · rfl
    rw [if_neg fun hboth => heq hboth.1] at hpool
    rw [hpool]
    refine .idle _ _ ⟨?_, ?_⟩
    · rw [Log.takenFrom_append, Log.takenFrom_append, hfront.taken, htaken.taken, hrest.taken]
      rfl
    · rw [Log.givenTo_append, Log.givenTo_append, hfront.given, htaken.given, hrest.given]
      rfl

theorem turns_release {h : Heap} {id' : PoolId} (hid : id' < h.pools.length) (b : Block) :
    Turns grants id (h.pool id) [.given id' b.index] ((h.release id' b).pool id) := by
  unfold Heap.release
  rw [Heap.pool_set]
  by_cases heq : id' = id
  · subst heq
    rw [if_pos ⟨rfl, hid⟩]
    exact .given b
  · rw [if_neg fun hboth => heq hboth.1]
    refine .idle _ _ ⟨rfl, ?_⟩
    simp [Log.givenTo, heq]

theorem turns_addPool (h : Heap) (name : String) :
    Turns grants id (h.pool id) [] ((h.addPool name).2.pool id) := by
  unfold Heap.addPool Heap.pool
  rw [List.getD_eq_getElem?_getD, List.getD_eq_getElem?_getD]
  rcases Nat.lt_trichotomy id h.pools.length with hlt | rfl | hgt
  · rw [List.getElem?_append_left hlt]
    exact .idle [] _ ⟨rfl, rfl⟩
  · rw [List.getElem?_concat_length, List.getElem?_eq_none (Nat.le_refl _)]
    exact .idle [] name ⟨rfl, rfl⟩
  · rw [List.getElem?_eq_none (Nat.le_of_lt hgt), List.getElem?_eq_none (by simp; omega)]
    exact .idle [] _ ⟨rfl, rfl⟩

namespace Inventory

variable {v v' : Inventory}

theorem turns_return (hv : v.Tidy) (slot : String) :
    Turns grants id (v.heap.pool id) (v.returned slot) ((v.heapWithout slot).pool id) := by
  unfold returned heapWithout
  cases hf : v.frames.find? slot with
  | none => exact .idle [] _ ⟨rfl, rfl⟩
  | some f =>
    dsimp only [Frame.drop]
    cases f.block with
    | none => exact .idle [] _ ⟨rfl, rfl⟩
    | some b => exact turns_release (hv.lt_of_frame hf) b

theorem turns_step (hv : v.Tidy) (h : Steps grants v es v') (id : PoolId) :
    Turns grants id (v.heap.pool id) es (v'.heap.pool id) := by
  cases h with
  | nothing => exact .idle _ _ ⟨rfl, rfl⟩
  | pooled name => exact turns_addPool v.heap name
  | created slot b hb => exact .idle _ _ ⟨(quiet_replaced v slot).taken, (quiet_replaced v slot).given⟩
  | acquired pool slot id capacity b h hid hacquire =>
    exact turns_acquire (hv.lt_of_name hid) hacquire (quiet_replaced v slot)
  | written slot src b b' hb hwrite => exact .idle _ _ ⟨rfl, rfl⟩
  | released pool slot id b hid hb => exact turns_release (hv.lt_of_name hid) b
  | forgotten slot => exact .idle _ _ (quiet_replaced v slot)
  | framed pool slot f hid hblock => exact turns_return hv slot
  | relabelled slot f f' hf hblock hpool => exact .idle _ _ ⟨rfl, rfl⟩
  | stored slot src f f' b h hf hblock hpool hacquire hblock' =>
    exact turns_acquire (hv.lt_of_frame hf) hacquire ⟨rfl, rfl⟩
  | overwritten slot src f f' b b' hf hblock hpool hwrite hblock' => exact .idle _ _ ⟨rfl, rfl⟩
  | dropped slot => exact turns_return hv slot

end Inventory

/-! ## The peak -/

/-- Successful requests to a pool less returns to it. -/
def Log.balance (past : Log) (id : PoolId) : Int := (past.takenFrom id).length - (past.givenTo id).length

theorem Log.balance_append (past es : Log) (id : PoolId) :
    (past ++ es).balance id = past.balance id + es.balance id := by
  unfold balance
  rw [takenFrom_append, givenTo_append, List.length_append, List.length_append]
  omega

/-- The largest balance that a log has reached. -/
structure IsPeak (id : PoolId) (past : Log) (peak : Int) : Prop where
  reached : ∃ front : Log, front <+: past ∧ front.balance id = peak
  bound : ∀ front : Log, front <+: past → front.balance id ≤ peak

namespace IsPeak

variable {peak : Int}

theorem nil (id : PoolId) : IsPeak id [] 0 := by
  refine ⟨⟨[], List.prefix_refl [], rfl⟩, fun front hfront => ?_⟩
  rw [List.prefix_nil.mp hfront]
  exact Int.le_refl 0

theorem quiet (h : IsPeak id past peak) (hquiet : Quiet id es) : IsPeak id (past ++ es) peak := by
  obtain ⟨front, hfront, hbalance⟩ := h.reached
  refine ⟨⟨front, hfront.trans (List.prefix_append _ _), hbalance⟩, fun front hfront => ?_⟩
  rcases List.prefix_or_prefix_of_prefix hfront (List.prefix_append past es) with hshort | ⟨more, rfl⟩
  · exact h.bound front hshort
  · obtain ⟨rest, rfl⟩ := (List.prefix_append_right_inj past).mp hfront
    have htaken := hquiet.taken
    have hgiven := hquiet.given
    rw [Log.takenFrom_append, List.append_eq_nil_iff] at htaken
    rw [Log.givenTo_append, List.append_eq_nil_iff] at hgiven
    have hmore : Log.balance more id = 0 := by
      unfold Log.balance
      rw [htaken.1, hgiven.1]
      rfl
    rw [Log.balance_append, hmore, Int.add_zero]
    exact h.bound past (List.prefix_refl past)

theorem concat_of_le (h : IsPeak id past peak) {e : Event} (hle : (past ++ [e]).balance id ≤ peak) :
    IsPeak id (past ++ [e]) peak := by
  obtain ⟨front, hfront, hbalance⟩ := h.reached
  refine ⟨⟨front, hfront.trans (List.prefix_append _ _), hbalance⟩, fun front hfront => ?_⟩
  rcases List.prefix_concat_iff.mp hfront with rfl | hshort
  · exact hle
  · exact h.bound front hshort

theorem concat_of_ge (h : IsPeak id past peak) {e : Event} {peak' : Int}
    (hbalance : (past ++ [e]).balance id = peak') (hge : peak ≤ peak') : IsPeak id (past ++ [e]) peak' := by
  refine ⟨⟨_, List.prefix_refl _, hbalance⟩, fun front hfront => ?_⟩
  rcases List.prefix_concat_iff.mp hfront with rfl | hshort
  · exact Int.le_of_eq hbalance
  · exact Int.le_trans (h.bound front hshort) hge

end IsPeak

/-! ## Counters -/

structure Ledger (id : PoolId) (past : Log) (p : Pool) : Prop where
  total : p.total = p.misses
  taken : p.hits + p.misses = (past.takenFrom id).length
  resizes : p.resizes ≤ p.hits
  given : p.free.length + p.hits = (past.givenTo id).length
  peak : IsPeak id past p.total

namespace Ledger

theorem nil (id : PoolId) : Ledger id [] {} := ⟨rfl, rfl, Nat.le_refl 0, rfl, .nil id⟩

/-- What has been handed out and not come back was created here, less what is free here. -/
theorem balance_eq (h : Ledger id past p) : past.balance id = p.total - p.free.length := by
  have htotal := h.total
  have htaken := h.taken
  have hgiven := h.given
  unfold Log.balance
  omega

theorem quiet (h : Ledger id past p) (hquiet : Quiet id es) : Ledger id (past ++ es) p := by
  refine ⟨h.total, ?_, h.resizes, ?_, h.peak.quiet hquiet⟩
  · rw [Log.takenFrom_append, hquiet.taken, List.append_nil]
    exact h.taken
  · rw [Log.givenTo_append, hquiet.given, List.append_nil]
    exact h.given

theorem balance_taken (h : Ledger id past p) (index capacity : Nat) :
    Log.balance (past ++ [.taken id index capacity]) id = p.total - p.free.length + 1 := by
  have htaken : Log.balance [.taken id index capacity] id = 1 := by
    simp [Log.balance, Log.takenFrom, Log.givenTo]
  rw [Log.balance_append, h.balance_eq, htaken]

theorem length_takenFrom_taken (past : Log) (id : PoolId) (index capacity : Nat) :
    (Log.takenFrom id (past ++ [.taken id index capacity])).length = (past.takenFrom id).length + 1 := by
  simp [Log.takenFrom]

theorem givenTo_taken (past : Log) (id id' : PoolId) (index capacity : Nat) :
    Log.givenTo id (past ++ [.taken id' index capacity]) = past.givenTo id := by
  simp [Log.givenTo]

/-- A free block is handed out, resized or as it is. -/
theorem reuse (h : Ledger id past p) {free : List Block} (index capacity : Nat) {resizes : Nat}
    (hfree : p.free.length = free.length + 1) (hresizes : resizes ≤ p.hits + 1) :
    Ledger id (past ++ [.taken id index capacity])
      { p with free := free, hits := p.hits + 1, resizes := resizes } := by
  have htaken := h.taken
  have hgiven := h.given
  refine ⟨h.total, ?_, hresizes, ?_, h.peak.concat_of_le ?_⟩
  · rw [length_takenFrom_taken]
    dsimp only
    omega
  · rw [givenTo_taken]
    dsimp only
    omega
  · rw [h.balance_taken]
    omega

theorem create (h : Ledger id past p) (index capacity : Nat) (hfree : p.free = []) :
    Ledger id (past ++ [.taken id index capacity]) { p with misses := p.misses + 1, total := p.total + 1 } := by
  have htaken := h.taken
  have hbalance := h.balance_taken index capacity
  -- nothing is free, so all blocks of the pool are out, and now one more
  have hlength : p.free.length = 0 := congrArg List.length hfree
  refine ⟨congrArg (· + 1) h.total, ?_, h.resizes, ?_, h.peak.concat_of_ge (hbalance.trans ?_) ?_⟩
  · rw [length_takenFrom_taken]
    dsimp only
    omega
  · rw [givenTo_taken]
    exact h.given
  · dsimp only
    omega
  · dsimp only
    omega

theorem take (h : Ledger id past p) {next next' capacity : Nat} {b : Block}
    (hacquire : p.acquire grants next capacity = (.ok b, p', next')) :
    Ledger id (past ++ [.taken id b.index capacity]) p' := by
  cases hacquire ▸ Pool.acquire_cases grants p next capacity with
  | reused _ rest hfree hsize => exact h.reuse b.index capacity hfree.length_eq (Nat.le_succ_of_le h.resizes)
  | resized b rest hfree hnone =>
    have hlength := congrArg List.length hfree
    rw [List.length_append, List.length_singleton] at hlength
    exact h.reuse b.index capacity hlength (Nat.succ_le_succ h.resizes)
  | created hfree => exact h.create next capacity hfree

theorem give (h : Ledger id past p) (b : Block) : Ledger id (past ++ [.given id b.index]) (p.release b) := by
  have hgiven : Log.balance [.given id b.index] id = -1 := by
    simp [Log.balance, Log.takenFrom, Log.givenTo]
  refine ⟨h.total, ?_, h.resizes, ?_, h.peak.concat_of_le ?_⟩
  · have htaken : Log.takenFrom id (past ++ [.given id b.index]) = past.takenFrom id := by
      simp [Log.takenFrom]
    rw [htaken]
    exact h.taken
  · have hlength : (Log.givenTo id (past ++ [.given id b.index])).length = (past.givenTo id).length + 1 := by
      simp [Log.givenTo]
    have hfreed := h.given
    rw [hlength]
    unfold Pool.release
    rw [List.length_append, List.length_singleton]
    dsimp only
    omega
  · rw [Log.balance_append, hgiven, h.balance_eq]
    show _ ≤ (p.total : Int)
    omega

theorem turn (h : Ledger id past p) (hturns : Turns grants id p es p') : Ledger id (past ++ es) p' := by
  cases hturns with
  | idle es name hquiet =>
    have hledger := h.quiet hquiet
    exact ⟨hledger.total, hledger.taken, hledger.resizes, hledger.given, hledger.peak⟩
  | taken front rest next next' capacity b p' hfront hrest hacquire =>
    have hledger := ((h.quiet hfront).take hacquire).quiet hrest
    rwa [List.append_assoc, List.append_assoc] at hledger
  | given b => exact h.give b

end Ledger

theorem ledger_run (ops : List (Grants × Inventory.Op)) (id : PoolId) :
    Ledger id (Inventory.log {} ops) ((Inventory.run {} ops).heap.pool id) :=
  Inventory.run_induction (P := fun past v => Ledger id past (v.heap.pool id)) (.nil id)
    (fun _ _ _ _ _ hv hsteps hpast => hpast.turn (Inventory.turns_step hv hsteps id)) ops

end FramePress
