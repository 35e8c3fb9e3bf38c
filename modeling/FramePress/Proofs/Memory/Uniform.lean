import FramePress.Proofs.Memory.Ledger
import Mathlib.Algebra.GroupWithZero.Nat

/-! # Pools whose blocks have one size

A pool to which only its own blocks come back, and for whose blocks only one size is ever asked for, resizes
nothing: whatever is free there has that size already.

* `Event.Fits`, `Uniform`: such a pool, told by the log.
* `Settled`, `settled_run`: the sizes of its blocks, wherever they are.
* `Balanced`, `balanced`: the ledger of every pool over every run.
-/

namespace FramePress
set_option autoImplicit false

variable {grants : Grants} {id : PoolId} {past es : Log} {p p' : Pool} {length : Nat}

/-- The event gives the pool only what came from it, and asks for no other size for what came from it and
fills it with no payload of another length. -/
def Event.Fits (id : PoolId) (length : Nat) (front : Log) : Event → Prop
  | .given pool index => pool = id → index ∈ front.takenFrom id
  | .taken pool index capacity => pool = id ∨ index ∈ front.takenFrom id → capacity = length
  | .filled index size => index ∈ front.takenFrom id → size = length
  | .created _ | .discarded _ => True

/-- Only blocks that came from the pool go back to it, and for them all sizes that are asked for and all
payloads have one length. -/
def Uniform (id : PoolId) (length : Nat) (past : Log) : Prop :=
  ∀ (front : Log) (e : Event), front ++ [e] <+: past → e.Fits id length front

namespace Uniform

theorem nil : Uniform id length [] := fun front e hfront => by
  cases front <;> cases List.prefix_nil.mp hfront

theorem concat {e : Event} (h : Uniform id length past) (he : e.Fits id length past) :
    Uniform id length (past ++ [e]) := by
  intro front e' hfront
  rcases List.prefix_concat_iff.mp hfront with hall | hshort
  · obtain ⟨rfl, hsame⟩ := List.append_inj' hall rfl
    cases hsame
    exact he
  · exact h front e' hshort

theorem of_append (h : Uniform id length (past ++ es)) : Uniform id length past :=
  fun front e hfront => h front e (hfront.trans (List.prefix_append past es))

theorem capacity_eq {pool : PoolId} {index capacity : Nat} {front rest : Log}
    (h : Uniform id length (front ++ .taken pool index capacity :: rest)) (hrest : Quiet id rest)
    (htaken : index ∈ (front ++ .taken pool index capacity :: rest).takenFrom id) : capacity = length := by
  refine h front (.taken pool index capacity) ⟨rest, by simp⟩ ?_
  by_cases hpool : pool = id
  · exact .inl hpool
  · have hskip : Log.takenFrom id (.taken pool index capacity :: rest) = rest.takenFrom id := by
      simp [Log.takenFrom, hpool]
    rw [Log.takenFrom_append, hskip, hrest.taken, List.append_nil] at htaken
    exact .inr htaken

end Uniform

/-- A request is about the block it hands out. -/
theorem Trade.mem_of_taken {next index : Nat} {old new : List Holding} (h : Trade next es old new)
    (htaken : index ∈ es.takenFrom id) : index ∈ indices new := by
  cases h with
  | nothing => cases htaken
  | created name b hindex => cases htaken
  | grown id' place b fills hindex hplace hfills =>
    rcases hfills with rfl | rfl <;> simp [Log.takenFrom, indices] at htaken ⊢ <;> exact htaken.2.symm
  | reused id' place b b' fills hindex hplace hfills =>
    rcases hfills with rfl | rfl <;> simp [Log.takenFrom, indices] at htaken ⊢ <;> exact htaken.2.symm
  | filled place b b' size hindex hsize => cases htaken
  | given place b id' => cases htaken

namespace Inventory

variable {v v' : Inventory} {next : Nat} {old new : List Holding}

/-- The blocks of a uniform pool, wherever they are. -/
structure Settled (id : PoolId) (length : Nat) (past : Log) (v : Inventory) : Prop where
  own : ∀ b, (.pool id, b) ∈ v.holdings → b.index ∈ past.takenFrom id
  size : ∀ q ∈ v.holdings, q.2.index ∈ past.takenFrom id → q.2.size = length
  known : ∀ index ∈ past.takenFrom id, index < v.heap.next
  resizes : (v.heap.pool id).resizes = 0

theorem settled_empty : Settled id length [] {} := ⟨nofun, nofun, nofun, rfl⟩

theorem own_of_trade (htrade : Trade next es old new) (h : Settled id length past v)
    (hold : ∀ q ∈ old, q ∈ v.holdings) (huniform : Uniform id length (past ++ es)) {b : Block}
    (hb : (.pool id, b) ∈ new) : b.index ∈ (past ++ es).takenFrom id := by
  rw [Log.takenFrom_append]
  cases htrade with
  | nothing => cases hb
  | created name b' hindex => cases List.mem_singleton.mp hb
  | grown id' place b' fills hindex hplace hfills =>
    cases List.mem_singleton.mp hb
    exact absurd rfl (hplace id)
  | reused id' place b₀ b' fills hindex hplace hfills =>
    cases List.mem_singleton.mp hb
    exact absurd rfl (hplace id)
  | filled place b₀ b' size hindex hsize =>
    cases List.mem_singleton.mp hb
    rw [hindex]
    exact List.mem_append_left _ (h.own b₀ (hold _ List.mem_cons_self))
  | given place b' id' =>
    cases List.mem_singleton.mp hb
    exact List.mem_append_left _ (huniform past (.given id b.index) (List.prefix_refl _) rfl)

theorem size_of_trade (htrade : Trade v.heap.next es old new) (h : Settled id length past v)
    (hold : ∀ q ∈ old, q ∈ v.holdings) (huniform : Uniform id length (past ++ es)) {q : Holding}
    (hq : q ∈ new) (htaken : q.2.index ∈ (past ++ es).takenFrom id) : q.2.size = length := by
  have hquiet {fills : Log} {b : Block} (hfills : fills = [] ∨ fills = [.filled b.index b.size]) :
      Quiet id fills := by
    rcases hfills with rfl | rfl <;> exact ⟨rfl, rfl⟩
  -- where no request is made, the block was taken earlier
  have hearlier (h : es.takenFrom id = []) : q.2.index ∈ past.takenFrom id := by
    rwa [Log.takenFrom_append, h, List.append_nil] at htaken
  cases htrade with
  | nothing => cases hq
  | created name b hindex =>
    cases List.mem_singleton.mp hq
    exact absurd hindex (Nat.ne_of_lt (h.known _ (hearlier rfl)))
  | grown id' place b fills hindex hplace hfills =>
    cases List.mem_singleton.mp hq
    rw [List.append_cons] at huniform htaken
    exact huniform.capacity_eq (hquiet hfills) htaken
  | reused id' place b₀ b' fills hindex hplace hfills =>
    cases List.mem_singleton.mp hq
    exact huniform.capacity_eq (hquiet hfills) htaken
  | filled place b₀ b' size hindex hsize =>
    cases List.mem_singleton.mp hq
    have hfill := huniform past (.filled b'.index size) (List.prefix_refl _) (hearlier rfl)
    have hb₀ := h.size (place, b₀) (hold _ List.mem_cons_self) (hindex ▸ hearlier rfl)
    dsimp only at hb₀ ⊢
    omega
  | given place b id' =>
    cases List.mem_singleton.mp hq
    exact h.size (place, b) (hold _ List.mem_cons_self) (hearlier rfl)

theorem resizes_of_turns (hturns : Turns grants id p es p') (huniform : Uniform id length (past ++ es))
    (hfree : ∀ b ∈ p.free, b.size = length) (h : p.resizes = 0) : p'.resizes = 0 := by
  cases hturns with
  | idle es name hquiet => exact h
  | taken front rest next next' capacity b p' hfront hrest hacquire =>
    have hcapacity : capacity = length :=
      huniform (past ++ front) (.taken id b.index capacity) ⟨rest, by simp⟩ (.inl rfl)
    cases hacquire ▸ Pool.acquire_cases grants p next capacity with
    | reused _ rest hperm hsize => exact h
    | resized b rest hlast hnone =>
      have hmem : b ∈ p.free := hlast ▸ List.mem_concat_self
      exact absurd ((hfree b hmem).trans hcapacity.symm) (hnone b hmem)
    | created hnil => exact h
  | given b => exact h

theorem takenFrom_lost (lost : List Holding) :
    Log.takenFrom id (lost.map fun q => .discarded q.2.index) = [] :=
  List.filterMap_eq_nil_iff.mpr fun e he => by
    obtain ⟨q, -, rfl⟩ := List.mem_map.mp he
    rfl

theorem settled_step (htraded : Traded v v' es)
    (hturns : Turns grants id (v.heap.pool id) es (v'.heap.pool id)) (hv : v.Tidy)
    (haccounted : Accounted past v) (huniform : Uniform id length (past ++ es))
    (h : Settled id length past v) : Settled id length (past ++ es) v' := by
  have haccounted' := accounted_step htraded haccounted
  have hnodup : (indices v'.holdings).Nodup := (List.nodup_append.mp haccounted'.nodup).1
  have hresizes := resizes_of_turns hturns huniform (fun b hb => ?_) h.resizes
  · cases htraded with
    | intro es old new lost htrade hswaps hnext =>
      obtain ⟨rest, hbefore, hafter⟩ := hswaps
      rw [← List.append_assoc] at huniform ⊢
      replace huniform := Uniform.of_append huniform
      have hold : ∀ q ∈ old, q ∈ v.holdings := fun q hq =>
        hbefore.mem_iff.mpr (List.mem_append_left _ (List.mem_append_left _ hq))
      have hrest : ∀ q ∈ rest, q ∈ v.holdings := fun q hq => hbefore.mem_iff.mpr (List.mem_append_right _ hq)
      have htaken : Log.takenFrom id (past ++ es ++ lost.map fun q => .discarded q.2.index) =
          Log.takenFrom id (past ++ es) := by
        rw [Log.takenFrom_append, takenFrom_lost, List.append_nil]
      refine ⟨fun b hb => ?_, fun q hq hindex => ?_, fun index hindex => ?_, hresizes⟩
      · rw [htaken]
        rcases List.mem_append.mp (hafter.mem_iff.mp hb) with hb | hb
        · exact own_of_trade htrade h hold huniform hb
        · rw [Log.takenFrom_append]
          exact List.mem_append_left _ (h.own b (hrest _ hb))
      · rw [htaken] at hindex
        rcases List.mem_append.mp (hafter.mem_iff.mp hq) with hnew | hold'
        · exact size_of_trade htrade h hold huniform hnew hindex
        · rw [Log.takenFrom_append, List.mem_append] at hindex
          rcases hindex with hpast | hes
          · exact h.size q (hrest q hold') hpast
          · -- no other block has the number of the one that was taken
            obtain ⟨q', hq', hsame⟩ := List.mem_map.mp (htrade.mem_of_taken hes)
            have hheld := hafter.mem_iff.mpr (List.mem_append_left rest hq')
            obtain rfl := List.inj_on_of_nodup_map hnodup hheld hq hsame
            exact size_of_trade htrade h hold huniform hq' (by
              rw [Log.takenFrom_append]
              exact List.mem_append_right _ hes)
      · rw [htaken, Log.takenFrom_append, List.mem_append] at hindex
        rcases hindex with hpast | hes
        · have hknown := h.known index hpast
          omega
        · refine haccounted'.lt_next ((indices_perm hafter).mem_iff.mpr ?_)
          rw [indices_append]
          exact List.mem_append_left _ (htrade.mem_of_taken hes)
  · have hmem : (.pool id, b) ∈ v.holdings := (mem_holdings hv).mpr hb
    exact h.size _ hmem (h.own b hmem)

theorem settled_run (ops : List (Grants × Op)) :
    Accounted (log {} ops) (run {} ops) ∧
      (Uniform id length (log {} ops) → Settled id length (log {} ops) (run {} ops)) := by
  refine run_induction
    (P := fun past v => Accounted past v ∧ (Uniform id length past → Settled id length past v))
    ⟨accounted_empty, fun _ => settled_empty⟩ ?_ ops
  intro past v grants es v' hv hsteps ⟨haccounted, hpast⟩
  have htraded := step_trades hv hsteps
  exact ⟨accounted_step htraded haccounted, fun huniform =>
    settled_step htraded (turns_step hv hsteps id) hv haccounted huniform (hpast huniform.of_append)⟩

end Inventory

/-! ## Every pool over every run -/

theorem freeBytes_eq (p : Pool) : p.freeBytes = (p.free.map Block.size).sum := by
  unfold Pool.freeBytes
  induction p.free with
  | nil => rfl
  | cons b rest ih => rw [List.foldr_cons, ih, List.map_cons, List.sum_cons]

/-- What the log says of a pool: its ledger, the bytes it keeps, and no resizing where one size is used. -/
structure Balanced (id : PoolId) (past : Log) (p : Pool) : Prop extends Ledger id past p where
  freeBytes : p.freeBytes = (p.free.map Block.size).sum
  uniform : ∀ length, Uniform id length past → p.resizes = 0

theorem balanced (ops : List (Grants × Inventory.Op)) (id : PoolId) :
    Balanced id (Inventory.log {} ops) ((Inventory.run {} ops).heap.pool id) :=
  ⟨ledger_run ops id, freeBytes_eq _, fun _ huniform => ((Inventory.settled_run ops).2 huniform).resizes⟩

/-- A block that is taken, given back, taken again and filled, all with two bytes. -/
def recycling : List (Grants × Inventory.Op) :=
  [.newPool "pool", .acquire "pool" "slot" 2, .release "pool" "slot", .acquire "pool" "slot" 2,
    .write "slot" #[1, 2]].map fun op => (fun _ => true, op)

theorem balanced_recycling :
    Uniform 0 2 (Inventory.log {} recycling) ∧ ((Inventory.run {} recycling).heap.pool 0).hits = 1 ∧
      ((Inventory.run {} recycling).heap.pool 0).resizes = 0 := by
  have huniform : Uniform 0 2 [.created 0, .taken 0 0 2, .given 0 0, .taken 0 0 2, .filled 0 2] :=
    ((((Uniform.nil.concat (e := .created 0) trivial).concat (e := .taken 0 0 2) fun _ => rfl).concat
      (e := .given 0 0) fun _ => by decide).concat (e := .taken 0 0 2) fun _ => rfl).concat
      (e := .filled 0 2) fun _ => rfl
  exact ⟨huniform, rfl, (balanced recycling 0).uniform 2 huniform⟩

end FramePress
