import FramePress.Proofs.Memory.Holdings
import Mathlib.Data.List.Nodup
import Mathlib.Logic.ExistsUnique

/-! # Every block has one holder

Blocks are numbered as they are created, and a number is never used twice.  The numbers given out so far are
those of the blocks that are held and those of the blocks that have been discarded, each of them once.

* `indices`, `Inventory.contents`, `Inventory.Holds`: the numbers of blocks, and who holds them.
* `Accounted`, `accounted`: the account of all numbers, kept over a run.
* `Owned`, `Moves`, `owned`: what follows for holders, at every point of a run and in every operation.
-/

namespace FramePress
set_option autoImplicit false

open scoped List

def indices (l : List Holding) : List Nat := l.map fun p => p.2.index

theorem indices_append (l l' : List Holding) : indices (l ++ l') = indices l ++ indices l' := List.map_append

theorem indices_perm {l l' : List Holding} (h : l ~ l') : indices l ~ indices l' := h.map _

/-! ## The account -/

namespace Trade

variable {next : Nat} {es : Log} {old new : List Holding}

theorem indices_eq (h : Trade next es old new) : indices new = indices old ++ Log.created es := by
  cases h with
  | nothing => rfl
  | created name b hindex => rfl
  | grown id place b fills hindex hplace hfills => rcases hfills with rfl | rfl <;> rfl
  | reused id place b b' fills hindex hplace hfills =>
    rcases hfills with rfl | rfl <;> exact congrArg (fun i => [i]) hindex
  | filled place b b' size hindex hsize => exact congrArg (fun i => [i]) hindex
  | given place b id => rfl

theorem discarded_eq (h : Trade next es old new) : Log.discarded es = [] := by
  cases h with
  | nothing => rfl
  | created name b hindex => rfl
  | grown id place b fills hindex hplace hfills => rcases hfills with rfl | rfl <;> rfl
  | reused id place b b' fills hindex hplace hfills => rcases hfills with rfl | rfl <;> rfl
  | filled place b b' size hindex hsize => rfl
  | given place b id => rfl

theorem created_eq (h : Trade next es old new) : Log.created es = [] ∨ Log.created es = [next] := by
  cases h with
  | nothing => exact .inl rfl
  | created name b hindex => exact .inr (congrArg (fun i => [i]) hindex)
  | grown id place b fills hindex hplace hfills =>
    rcases hfills with rfl | rfl <;> exact .inr (congrArg (fun i => [i]) hindex)
  | reused id place b b' fills hindex hplace hfills => rcases hfills with rfl | rfl <;> exact .inl rfl
  | filled place b b' size hindex hsize => exact .inl rfl
  | given place b id => exact .inl rfl

theorem length_le (h : Trade next es old new) : new.length ≤ 1 := by
  cases h <;> simp

end Trade

theorem created_lost (lost : List Holding) : Log.created (lost.map fun p => .discarded p.2.index) = [] :=
  List.filterMap_eq_nil_iff.mpr fun e he => by
    obtain ⟨p, -, rfl⟩ := List.mem_map.mp he
    rfl

theorem discarded_lost (lost : List Holding) :
    Log.discarded (lost.map fun p => .discarded p.2.index) = indices lost := by
  unfold Log.discarded indices
  rw [List.filterMap_map]
  exact congrFun List.filterMap_eq_map lost

namespace Inventory

variable {grants : Grants} {v v' : Inventory} {past es : Log}

structure Accounted (past : Log) (v : Inventory) : Prop where
  created : past.created = List.range v.heap.next
  balanced : indices v.holdings ++ past.discarded ~ past.created

theorem accounted_empty : Accounted [] {} := ⟨rfl, .refl _⟩

theorem accounted_step (h : Traded v v' es) (hpast : Accounted past v) : Accounted (past ++ es) v' := by
  cases h with
  | intro es old new lost htrade hswaps hnext =>
    obtain ⟨rest, hbefore, hafter⟩ := hswaps
    constructor
    · rw [Log.created_append, Log.created_append, created_lost, List.append_nil, hpast.created, hnext]
      rcases htrade.created_eq with hcreated | hcreated
      · rw [hcreated]
        exact List.append_nil _
      · rw [hcreated]
        exact List.range_succ.symm
    · rw [Log.created_append, Log.created_append, created_lost, List.append_nil, Log.discarded_append,
        Log.discarded_append, htrade.discarded_eq, discarded_lost, List.nil_append]
      -- the traded block keeps its number or gets the new one; the lost ones go to the discarded
      have hold : indices v.holdings ~ (indices old ++ indices lost) ++ indices rest := by
        simpa only [indices_append] using indices_perm hbefore
      have hnew : indices v'.holdings ~ (indices old ++ es.created) ++ indices rest := by
        simpa only [indices_append, htrade.indices_eq] using indices_perm hafter
      refine List.perm_iff_count.mpr fun i => ?_
      have hcount := hpast.balanced.count_eq i
      have hold' := hold.count_eq i
      have hnew' := hnew.count_eq i
      simp only [List.count_append] at hcount hold' hnew' ⊢
      omega

theorem accounted (ops : List (Grants × Op)) : Accounted (log {} ops) (run {} ops) :=
  run_induction accounted_empty
    (fun _ _ _ _ _ hv hsteps hpast => accounted_step (step_trades hv hsteps) hpast) ops

theorem Accounted.nodup (h : Accounted past v) : (indices v.holdings ++ past.discarded).Nodup := by
  rw [h.balanced.nodup_iff, h.created]
  exact List.nodup_range

theorem Accounted.lt_next (h : Accounted past v) {index : Nat} (hindex : index ∈ indices v.holdings) :
    index < v.heap.next := by
  have hcreated := h.balanced.mem_iff.mp (List.mem_append_left _ hindex)
  rw [h.created] at hcreated
  exact List.mem_range.mp hcreated

/-! ## Holders -/

/-- The blocks at a place, in order. -/
def contents (v : Inventory) : Place → List Block
  | .slot name => (v.blocks.find? name).toList
  | .frame name => ((v.frames.find? name).bind Frame.block).toList
  | .pool id => (v.heap.pool id).free

/-- A holder is a place with a position there; slots and frames have one position. -/
def Holds (v : Inventory) (holder : Place × Nat) (index : Nat) : Prop :=
  ∃ b, (v.contents holder.1)[holder.2]? = some b ∧ b.index = index

theorem exists_rest (hv : v.Tidy) (place : Place) :
    ∃ rest, v.holdings ~ ((v.contents place).map fun b => (place, b)) ++ rest := by
  cases place with
  | slot name =>
    have hslots := Dictionary.slotHoldings_perm hv.blocks name
    exact ⟨_, ((hslots.append_right _).append_right _).trans (.of_eq (by
      rw [List.append_assoc, List.append_assoc]
      rfl))⟩
  | frame name =>
    have hframes := Dictionary.frameHoldings_perm hv.frames name
    refine ⟨v.blocks.slotHoldings ++ ((v.frames.erase name).frameHoldings ++ v.heap.holdings), ?_⟩
    calc v.holdings
      _ = v.blocks.slotHoldings ++ (v.frames.frameHoldings ++ v.heap.holdings) := List.append_assoc _ _ _
      _ ~ _ := (hframes.append_right _).append_left _
      _ ~ _ := by
        rw [List.append_assoc]
        exact List.perm_append_comm_assoc _ _ _
  | pool id =>
    by_cases hid : id < v.heap.pools.length
    · obtain ⟨others, hothers⟩ := Heap.exists_others hid
      have hheap := hothers (v.heap.pool id) v.heap.next
      rw [Heap.set_pool] at hheap
      exact ⟨_, (hheap.append_left _).trans (List.perm_append_comm_assoc _ _ _)⟩
    · have hpool : v.heap.pool id = {} := by
        unfold Heap.pool
        rw [List.getD_eq_getElem?_getD, List.getElem?_eq_none (Nat.not_lt.mp hid)]
        rfl
      exact ⟨v.holdings, by rw [contents, hpool]; exact .refl _⟩

theorem mem_contents (hv : v.Tidy) {place : Place} {b : Block} (h : (place, b) ∈ v.holdings) :
    b ∈ v.contents place := by
  unfold holdings at h
  rcases List.mem_append.mp h with h | h
  · rcases List.mem_append.mp h with h | h
    · obtain ⟨p, hp, heq⟩ := List.mem_map.mp h
      cases heq
      rw [contents, Dictionary.find?_of_mem hv.blocks hp]
      exact List.mem_singleton.mpr rfl
    · obtain ⟨p, hp, hmem⟩ := List.mem_flatMap.mp h
      obtain ⟨b', hb', heq⟩ := List.mem_map.mp hmem
      cases heq
      rw [contents, Dictionary.find?_of_mem hv.frames hp]
      exact hb'
  · obtain ⟨p, hp, hmem⟩ := List.mem_flatMap.mp h
    obtain ⟨b', hb', heq⟩ := List.mem_map.mp hmem
    cases heq
    rw [contents, Heap.pool, List.getD_eq_getElem?_getD, List.mem_zipIdx_iff_getElem?.mp hp]
    exact hb'

theorem mem_holdings (hv : v.Tidy) {place : Place} {b : Block} :
    (place, b) ∈ v.holdings ↔ b ∈ v.contents place := by
  refine ⟨mem_contents hv, fun hb => ?_⟩
  obtain ⟨rest, hrest⟩ := exists_rest hv place
  rw [hrest.mem_iff]
  exact List.mem_append_left _ (List.mem_map_of_mem hb)

theorem mem_holdings_of_holds (hv : v.Tidy) {holder : Place × Nat} {index : Nat}
    (h : v.Holds holder index) : ∃ b, (holder.1, b) ∈ v.holdings ∧ b.index = index := by
  obtain ⟨b, hb, hindex⟩ := h
  exact ⟨b, (mem_holdings hv).mpr (List.mem_of_getElem? hb), hindex⟩

theorem exists_holds (hv : v.Tidy) {place : Place} {b : Block} (h : (place, b) ∈ v.holdings) :
    ∃ holder, v.Holds holder b.index := by
  obtain ⟨n, hn, hb⟩ := List.getElem_of_mem (mem_contents hv h)
  exact ⟨(place, n), b, hb ▸ List.getElem?_eq_getElem hn, rfl⟩

/-- Two holders of one number are the same place, and the same position there. -/
theorem holds_unique (hv : v.Tidy) (hnodup : (indices v.holdings).Nodup) {holder holder' : Place × Nat}
    {index : Nat} (h : v.Holds holder index) (h' : v.Holds holder' index) : holder = holder' := by
  obtain ⟨place, n⟩ := holder
  obtain ⟨place', n'⟩ := holder'
  obtain ⟨b, hmem, hindex⟩ := mem_holdings_of_holds hv h
  obtain ⟨b', hmem', hindex'⟩ := mem_holdings_of_holds hv h'
  have hsame := List.inj_on_of_nodup_map hnodup hmem hmem' (hindex.trans hindex'.symm)
  obtain rfl : place = place' := congrArg Prod.fst hsame
  obtain ⟨rest, hrest⟩ := exists_rest hv place
  have hplace : ((v.contents place).map Block.index).Nodup := by
    have hparts := (indices_perm hrest).nodup_iff.mp hnodup
    rw [indices_append] at hparts
    have hfront := (List.nodup_append.mp hparts).1
    unfold indices at hfront
    rwa [List.map_map] at hfront
  obtain ⟨c, hc, hcindex⟩ := h
  obtain ⟨c', hc', hcindex'⟩ := h'
  have hn : n < (v.contents place).length := (List.getElem?_eq_some_iff.mp hc).1
  have hget : ((v.contents place).map Block.index)[n]? = ((v.contents place).map Block.index)[n']? := by
    rw [List.getElem?_map, List.getElem?_map, hc, hc', Option.map_some, Option.map_some, hcindex, hcindex']
  rw [List.getElem?_inj (by rwa [List.length_map]) hplace] at hget
  rw [hget]

/-! ## Runs -/

/-- What holds at every point of a run. -/
structure Owned (past : Log) (v : Inventory) : Prop where
  /-- Blocks have the numbers 0, 1, 2, … in the order of their creation, and the counter has counted them. -/
  created : past.created = List.range v.heap.next
  holder : ∀ index ∈ past.created, index ∉ past.discarded → ∃! holder, v.Holds holder index
  /-- What is held exists. -/
  exist : ∀ holder index, v.Holds holder index → index ∈ past.created ∧ index ∉ past.discarded
  distinct : (indices v.holdings).Nodup
  below : ∀ p ∈ v.holdings, p.2.index < v.heap.next
  /-- No block ceases to exist twice. -/
  discarded : past.discarded.Nodup

/-- What an operation with a certain result has done. -/
structure Moves (v : Inventory) (op : Op) (r : Result × Inventory) : Prop where
  /-- At most one block changes its place or its content, and it keeps its number; every other block stays
  as it is where it is, unless it is discarded. -/
  kept : ∃ old new lost, Swaps v.holdings r.2.holdings (old ++ lost) new ∧ new.length ≤ 1 ∧
    indices new = indices old ++ (v.events op r.1).created ∧ indices lost = (v.events op r.1).discarded
  /-- The counter advances by one when a block is created, and else not at all. -/
  counter : (v.events op r.1).created = [] ∧ r.2.heap.next = v.heap.next ∨
    (v.events op r.1).created = [v.heap.next] ∧ r.2.heap.next = v.heap.next + 1
  failed : ∀ e, r.1 = .failed e → r.2.heap.next = v.heap.next ∧ r.2.holdings ~ v.holdings

theorem owned_of_accounted (hv : v.Tidy) (h : Accounted past v) : Owned past v := by
  have hnodup := List.nodup_append.mp h.nodup
  have hheld {index : Nat} : index ∈ indices v.holdings ↔ index ∈ past.created ∧ index ∉ past.discarded := by
    rw [← h.balanced.mem_iff, List.mem_append]
    constructor
    · exact fun hindex => ⟨.inl hindex, fun hdis => hnodup.2.2 _ hindex _ hdis rfl⟩
    · exact fun ⟨hor, hnot⟩ => hor.resolve_right hnot
  constructor
  · exact h.created
  · intro index hcreated hdiscarded
    obtain ⟨p, hp, rfl⟩ := List.mem_map.mp (hheld.mpr ⟨hcreated, hdiscarded⟩)
    obtain ⟨holder, hholder⟩ := exists_holds hv hp
    exact ⟨holder, hholder, fun holder' h' => holds_unique hv hnodup.1 h' hholder⟩
  · intro holder index hholds
    obtain ⟨b, hb, rfl⟩ := mem_holdings_of_holds hv hholds
    exact hheld.mp (List.mem_map_of_mem (f := fun p : Holding => p.2.index) hb)
  · exact hnodup.1
  · exact fun p hp => h.lt_next (List.mem_map_of_mem (f := fun p : Holding => p.2.index) hp)
  · exact hnodup.2.1

theorem not_traded_of_nil (h : Traded v v' []) : v'.heap.next = v.heap.next ∧ v'.holdings ~ v.holdings := by
  generalize hes : ([] : Log) = es at h
  cases h with
  | intro es old new lost htrade hswaps hnext =>
    obtain ⟨rfl, hlost⟩ := List.append_eq_nil_iff.mp hes.symm
    obtain rfl := List.map_eq_nil_iff.mp hlost
    cases htrade with
    | nothing =>
      obtain ⟨rest, hbefore, hafter⟩ := hswaps
      exact ⟨hnext, hafter.trans hbefore.symm⟩

theorem moves_step (hv : v.Tidy) (grants : Grants) (op : Op) : Moves v op (v.step grants op) := by
  have htraded := step_trades hv (step_cases grants v op)
  constructor
  · generalize v.events op (v.step grants op).1 = es at htraded ⊢
    cases htraded with
    | intro es old new lost htrade hswaps hnext =>
      refine ⟨old, new, lost, hswaps, htrade.length_le, ?_, ?_⟩
      · rw [Log.created_append, created_lost, List.append_nil, htrade.indices_eq]
      · rw [Log.discarded_append, htrade.discarded_eq, discarded_lost, List.nil_append]
  · generalize v.events op (v.step grants op).1 = es at htraded ⊢
    cases htraded with
    | intro es old new lost htrade hswaps hnext =>
      rw [Log.created_append, created_lost, List.append_nil, hnext]
      rcases htrade.created_eq with hcreated | hcreated
      · exact .inl ⟨hcreated, by rw [hcreated]; rfl⟩
      · exact .inr ⟨hcreated, by rw [hcreated]; rfl⟩
  · intro e he
    have hnil : v.events op (v.step grants op).1 = [] := by
      rw [he]
      cases op <;> rfl
    exact not_traded_of_nil (hnil ▸ htraded)

theorem owned (ops : List (Grants × Op)) :
    Owned (log {} ops) (run {} ops) ∧ ∀ grants op, Moves (run {} ops) op ((run {} ops).step grants op) :=
  ⟨owned_of_accounted (tidy_run ops) (accounted ops), moves_step (tidy_run ops)⟩

end Inventory
end FramePress
