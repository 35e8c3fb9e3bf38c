import FramePress.Dictionary

/-! # Dictionaries up to order

* `find?_insert`, `find?_erase`: what is found after a change.
* `Sorted`: the keys ascend strictly; `insert` and `erase` keep that.
* `perm_insert`, `perm_of_find?`: a dictionary is one entry beside the others.
* `find?_of_mem`: what is in a dictionary is found.
* `find?_ofList`: what is found in a dictionary of pairs.
* `under`, `find?_under`: the entries whose keys have a common beginning, without it.
-/

namespace FramePress.Dictionary
set_option autoImplicit false

open scoped List

variable {α : Type} {d : Dictionary α} {key : String} {value : α}

def Sorted (d : Dictionary α) : Prop := d.Pairwise fun p q => p.1 < q.1

theorem mem_insert {p : String × α} (h : p ∈ d.insert key value) : p = (key, value) ∨ p ∈ d := by
  induction d with
  | nil => exact .inl (List.mem_singleton.mp h)
  | cons q rest ih =>
    unfold insert at h
    by_cases hlt : key < q.1
    · rw [if_pos hlt] at h
      exact List.mem_cons.mp h
    · rw [if_neg hlt] at h
      by_cases heq : key = q.1
      · rw [if_pos heq] at h
        exact (List.mem_cons.mp h).imp_right (List.mem_cons_of_mem q)
      · rw [if_neg heq] at h
        rcases List.mem_cons.mp h with rfl | h
        · exact .inr List.mem_cons_self
        · exact (ih h).imp_right (List.mem_cons_of_mem q)

theorem mem_of_find? (h : d.find? key = some value) : (key, value) ∈ d := by
  obtain ⟨front, rest, rfl, -⟩ := List.lookup_eq_some_iff.mp h
  exact List.mem_append_right _ List.mem_cons_self

theorem mem_of_mem_erase {p : String × α} (h : p ∈ d.erase key) : p ∈ d := (List.mem_filter.mp h).1

/-! ## Finding -/

theorem find?_cons (p : String × α) (rest : Dictionary α) (other : String) :
    find? (p :: rest) other = if other = p.1 then some p.2 else rest.find? other := by
  unfold find?
  rw [List.lookup_cons]
  by_cases h : other = p.1
  · simp [h]
  · have hbeq : (other == p.1) = false := beq_false_of_ne h
    rw [hbeq, if_neg h]

theorem find?_insert (d : Dictionary α) (key : String) (value : α) (other : String) :
    (d.insert key value).find? other = if other = key then some value else d.find? other := by
  induction d with
  | nil => exact find?_cons _ _ _
  | cons q rest ih =>
    unfold insert
    by_cases hlt : key < q.1
    · rw [if_pos hlt, find?_cons]
    · rw [if_neg hlt]
      by_cases heq : key = q.1
      · rw [if_pos heq, find?_cons, find?_cons]
        by_cases hother : other = key
        · rw [if_pos hother, if_pos hother]
        · have hne : other ≠ q.1 := fun h => hother (h.trans heq.symm)
          rw [if_neg hother, if_neg hother, if_neg hne]
      · rw [if_neg heq, find?_cons, find?_cons, ih]
        by_cases hq : other = q.1
        · have hne : other ≠ key := fun h => heq (h.symm.trans hq)
          rw [if_pos hq, if_neg hne, if_pos hq]
        · rw [if_neg hq, if_neg hq]

theorem find?_erase (d : Dictionary α) (key other : String) :
    (d.erase key).find? other = if other = key then none else d.find? other := by
  induction d with
  | nil => exact (ite_self none).symm
  | cons q rest ih =>
    by_cases heq : q.1 = key
    · have herase : erase (q :: rest) key = erase rest key := List.filter_cons_of_neg (by simp [heq])
      rw [herase, ih, find?_cons]
      by_cases hother : other = key
      · rw [if_pos hother, if_pos hother]
      · have hne : other ≠ q.1 := fun h => hother (h.trans heq)
        rw [if_neg hother, if_neg hother, if_neg hne]
    · have herase : erase (q :: rest) key = q :: erase rest key := List.filter_cons_of_pos (by simp [heq])
      rw [herase, find?_cons, find?_cons, ih]
      by_cases hq : other = q.1
      · have hne : other ≠ key := fun h => heq (hq.symm.trans h)
        rw [if_pos hq, if_neg hne, if_pos hq]
      · rw [if_neg hq, if_neg hq]

/-! ## Order -/

theorem sorted_insert (h : d.Sorted) (key : String) (value : α) : (d.insert key value).Sorted := by
  induction d with
  | nil => exact List.pairwise_singleton _ _
  | cons q rest ih =>
    have hrest : ∀ p ∈ rest, q.1 < p.1 := fun p hp => List.rel_of_pairwise_cons h hp
    unfold insert
    by_cases hlt : key < q.1
    · rw [if_pos hlt]
      refine List.Pairwise.cons (fun p hp => ?_) h
      rcases List.mem_cons.mp hp with rfl | hp
      · exact hlt
      · exact String.lt_trans hlt (hrest p hp)
    · rw [if_neg hlt]
      by_cases heq : key = q.1
      · rw [if_pos heq]
        exact List.Pairwise.cons (fun p hp => heq ▸ hrest p hp) h.of_cons
      · rw [if_neg heq]
        have hgt : q.1 < key := Decidable.byContradiction fun hge =>
          heq (String.le_antisymm (String.not_lt.mp hge) (String.not_lt.mp hlt))
        refine List.Pairwise.cons (fun p hp => ?_) (ih h.of_cons)
        rcases mem_insert hp with rfl | hp
        · exact hgt
        · exact hrest p hp

theorem sorted_erase (h : d.Sorted) (key : String) : (d.erase key).Sorted := h.filter _

/-! ## One entry and the others -/

theorem erase_of_forall_ne (h : ∀ p ∈ d, p.1 ≠ key) : d.erase key = d :=
  List.filter_eq_self.mpr fun p hp => decide_eq_true (h p hp)

theorem erase_of_forall_lt (h : ∀ p ∈ d, key < p.1) : d.erase key = d :=
  erase_of_forall_ne fun p hp heq => String.lt_irrefl key (heq ▸ h p hp)

theorem erase_of_find?_eq_none (h : d.find? key = none) : d.erase key = d :=
  erase_of_forall_ne fun p hp heq => by
    have hne := List.lookup_eq_none_iff.mp h p hp
    rw [heq, bne_self_eq_false] at hne
    cases hne

theorem perm_insert (h : d.Sorted) (key : String) (value : α) :
    d.insert key value ~ (key, value) :: d.erase key := by
  induction d with
  | nil => exact .refl _
  | cons q rest ih =>
    have hrest : ∀ p ∈ rest, q.1 < p.1 := fun p hp => List.rel_of_pairwise_cons h hp
    unfold insert
    by_cases hlt : key < q.1
    · rw [if_pos hlt, erase_of_forall_lt]
      exact fun p hp => (List.mem_cons.mp hp).elim (fun heq => heq ▸ hlt)
        fun hp => String.lt_trans hlt (hrest p hp)
    · rw [if_neg hlt]
      by_cases heq : key = q.1
      · have hsame : erase (q :: rest) key = erase rest key :=
          List.filter_cons_of_neg (by rw [heq, decide_eq_true_eq]; exact fun hne => hne rfl)
        rw [if_pos heq, hsame, erase_of_forall_lt fun p hp => heq ▸ hrest p hp]
      · have hother : erase (q :: rest) key = q :: erase rest key :=
          List.filter_cons_of_pos (decide_eq_true (Ne.symm heq))
        rw [if_neg heq, hother]
        exact ((ih h.of_cons).cons q).trans (List.Perm.swap _ _ _)

theorem perm_of_find? (h : d.Sorted) (hfind : d.find? key = some value) :
    d ~ (key, value) :: d.erase key := by
  obtain ⟨front, rest, rfl, hfront⟩ := List.lookup_eq_some_iff.mp hfind
  have hrest : ∀ p ∈ rest, key < p.1 := fun p hp =>
    List.rel_of_pairwise_cons (List.pairwise_append.mp h).2.1 hp
  have herase : erase (front ++ (key, value) :: rest) key = front ++ rest := by
    calc erase (front ++ (key, value) :: rest) key
      _ = erase front key ++ erase ((key, value) :: rest) key := List.filter_append _ _
      _ = erase front key ++ erase rest key := by
        congr 1
        exact List.filter_cons_of_neg (by simp)
      _ = front ++ rest := by
        have hne : ∀ p ∈ front, p.1 ≠ key := fun p hp heq => by simpa [heq] using hfront p hp
        rw [erase_of_forall_ne hne, erase_of_forall_lt hrest]
  rw [herase]
  exact List.perm_middle

theorem find?_of_mem (h : d.Sorted) (hmem : (key, value) ∈ d) : d.find? key = some value := by
  cases hfind : d.find? key with
  | none =>
    have hne := List.lookup_eq_none_iff.mp hfind _ hmem
    rw [bne_self_eq_false] at hne
    cases hne
  | some other =>
    rcases List.mem_cons.mp ((perm_of_find? h hfind).mem_iff.mp hmem) with heq | hmem
    · cases heq
      rfl
    · exact absurd rfl (of_decide_eq_true (List.mem_filter.mp hmem).2)

/-- Putting a value where it is already changes nothing. -/
theorem insert_of_find? (h : d.Sorted) (hfind : d.find? key = some value) : d.insert key value = d := by
  induction d with
  | nil => cases hfind
  | cons q rest ih =>
    have hmem := mem_of_find? hfind
    rw [find?_cons] at hfind
    unfold insert
    by_cases heq : key = q.1
    · rw [if_pos heq] at hfind
      obtain rfl := Option.some.inj hfind
      rw [if_neg (heq ▸ String.lt_irrefl _), if_pos heq, heq]
    · rw [if_neg heq] at hfind
      -- the key is further back, so it is larger
      have hrest : (key, value) ∈ rest := (List.mem_cons.mp hmem).resolve_left fun h => heq (congrArg Prod.fst h)
      have hgt : q.1 < key := List.rel_of_pairwise_cons h hrest
      rw [if_neg (String.lt_asymm hgt), if_neg heq, ih h.of_cons hfind]

theorem eq_nil_of_find? (h : ∀ key, d.find? key = none) : d = [] := by
  cases d with
  | nil => rfl
  | cons p rest =>
    have hfirst := h p.1
    rw [find?_cons, if_pos rfl] at hfirst
    cases hfirst

/-! ## Dictionaries of pairs -/

theorem find?_foldl_insert (pairs : List (String × α)) (d : Dictionary α) (key : String) :
    (pairs.foldl (fun d (k, v) => insert d k v) d).find? key =
      (pairs.reverse.lookup key).or (d.find? key) := by
  induction pairs generalizing d with
  | nil => rfl
  | cons p rest ih =>
    have hone : (List.lookup key [p]).or (d.find? key) = (d.insert p.1 p.2).find? key := by
      have hlookup : List.lookup key [p] = if key = p.1 then some p.2 else none := find?_cons p [] key
      rw [hlookup, find?_insert]
      split <;> rfl
    rw [List.foldl_cons, ih, List.reverse_cons, List.lookup_append, Option.or_assoc, hone]

/-- What is found is in the last of the pairs with the key. -/
theorem find?_ofList (pairs : List (String × α)) (key : String) :
    (ofList pairs).find? key = pairs.reverse.lookup key :=
  (find?_foldl_insert pairs [] key).trans Option.or_none

/-! ## Keys with a common beginning -/

/-- The entries whose keys begin with `pre`, each under the rest of its key. -/
def under (d : Dictionary α) (pre : String) : Dictionary α :=
  d.filterMap fun (key, value) =>
    if pre.toList <+: key.toList then some (String.ofList (key.toList.drop pre.toList.length), value) else none

theorem find?_under (d : Dictionary α) (pre key : String) :
    (d.under pre).find? key = d.find? (pre ++ key) := by
  induction d with
  | nil => rfl
  | cons p rest ih =>
    obtain ⟨k, value⟩ := p
    by_cases hpre : pre.toList <+: k.toList
    · obtain ⟨suffix, hk⟩ := hpre
      obtain rfl : pre ++ String.ofList suffix = k := by
        rw [← String.toList_inj, String.toList_append, String.toList_ofList, hk]
      have hunder : under ((pre ++ String.ofList suffix, value) :: rest) pre =
          (String.ofList suffix, value) :: under rest pre := by
        refine List.filterMap_cons_some ?_
        dsimp only
        rw [String.toList_append, if_pos (List.prefix_append _ _), List.drop_left, String.ofList_toList]
      rw [hunder, find?_cons, find?_cons, ih]
      simp only [String.append_right_inj]
    · have hunder : under ((k, value) :: rest) pre = under rest pre :=
        List.filterMap_cons_none (if_neg hpre)
      have hne : pre ++ key ≠ k := by
        rintro rfl
        rw [String.toList_append] at hpre
        exact hpre (List.prefix_append _ _)
      rw [hunder, ih, find?_cons, if_neg hne]

end FramePress.Dictionary
