import FramePress.Bytes

/-! # Parts of byte strings

* `join` and `total`: how they grow part by part, and `size_join`, which ties them together.
* `join_eq_split`: one part of a join between those before it and those after it.
* `size_getElem_pieces`, `join_pieces`: the pieces of a byte string have the length asked for, the last
  one what is left, and together they are the byte string.
* `pieces_join`, `pieces_map`: parts of such sizes are the pieces of their join.
* `pieces_append`, `flatMap_pieces`: cuts into short pieces go on across a cut that is one of them.
-/

namespace FramePress.Bytes
set_option autoImplicit false

/-! ## Joining -/

@[simp] theorem join_nil : join [] = #[] := rfl

@[simp] theorem join_cons (b : Bytes) (parts : List Bytes) : join (b :: parts) = b ++ join parts := by
  apply Array.toList_inj.mp
  simp [join]

@[simp] theorem join_append (l m : List Bytes) : join (l ++ m) = join l ++ join m := by
  induction l with
  | nil => simp
  | cons b l ih => rw [List.cons_append, join_cons, join_cons, ih, Array.append_assoc]

@[simp] theorem total_nil : total [] = 0 := rfl

@[simp] theorem total_cons (b : Bytes) (parts : List Bytes) : total (b :: parts) = b.size + total parts :=
  rfl

@[simp] theorem total_append (l m : List Bytes) : total (l ++ m) = total l + total m := by
  induction l with
  | nil => simp
  | cons b l ih => rw [List.cons_append, total_cons, total_cons, ih, Nat.add_assoc]

theorem size_join (parts : List Bytes) : (join parts).size = total parts := by
  induction parts with
  | nil => rfl
  | cons b parts ih => rw [join_cons, Array.size_append, ih, total_cons]

/-- Part `i` stands behind the parts before it. -/
theorem join_eq_split {parts : List Bytes} {i : Nat} (h : i < parts.length) :
    join parts = join (parts.take i) ++ (parts[i] ++ join (parts.drop (i + 1))) := by
  have hparts : parts = parts.take i ++ parts[i] :: parts.drop (i + 1) := by
    rw [List.getElem_cons_drop, List.take_append_drop]
  conv => lhs; rw [hparts, join_append, join_cons]

/-- Parts of one size. -/
theorem total_eq_mul {parts : List Bytes} {n : Nat} (h : ∀ b ∈ parts, b.size = n) :
    total parts = n * parts.length := by
  induction parts with
  | nil => rfl
  | cons b parts ih =>
    rw [total_cons, h b (List.mem_cons_self ..), ih (fun c hc => h c (List.mem_cons_of_mem b hc)),
      List.length_cons, Nat.mul_succ, Nat.add_comm]

/-! ## Cutting -/

/-- Parts of `n` bytes, as many as it takes for `size` bytes and a rest, have room for all of them. -/
theorem size_le_count_mul {size n : Nat} (hn : 0 < n) : size ≤ (size + n - 1) / n * n := by
  have hdiv := Nat.div_add_mod (size + n - 1) n
  have hmod := Nat.mod_lt (size + n - 1) hn
  rw [Nat.mul_comm] at hdiv
  omega

theorem pos_of_lt_count {size n i : Nat} (h : i < (size + n - 1) / n) : 0 < n := by
  refine Nat.pos_of_ne_zero fun h0 => ?_
  rw [h0, Nat.div_zero] at h
  omega

theorem mul_lt_of_lt_count {size n i : Nat} (h : i < (size + n - 1) / n) : i * n < size := by
  have hn := pos_of_lt_count h
  have hle : (i + 1) * n ≤ (size + n - 1) / n * n := Nat.mul_le_mul_right n h
  have hdiv := Nat.div_mul_le_self (size + n - 1) n
  rw [Nat.succ_mul] at hle
  omega

/-- The sizes of the first `k` parts that a byte string of `size` bytes is cut into. -/
theorem total_cuts {f : Nat → Bytes} {size n k : Nat}
    (h : ∀ i < k, (f i).size = min n (size - i * n)) :
    total ((List.range k).map f) = min (k * n) size := by
  induction k with
  | zero => simp
  | succ k ih =>
    have hk := h k (Nat.lt_succ_self k)
    rw [List.range_succ, List.map_append, total_append, List.map_singleton, total_cons, total_nil,
      ih fun i hi => h i (Nat.lt_succ_of_lt hi), hk, Nat.succ_mul]
    omega

theorem length_pieces (b : Bytes) (n : Nat) : (b.pieces n).length = (b.size + n - 1) / n := by
  simp [pieces]

theorem getElem_pieces (b : Bytes) (n i : Nat) (h : i < (b.pieces n).length) :
    (b.pieces n)[i] = b.extract (i * n) ((i + 1) * n) := by
  simp [pieces]

theorem size_getElem_pieces (b : Bytes) (n i : Nat) (h : i < (b.pieces n).length) :
    (b.pieces n)[i].size = min n (b.size - i * n) := by
  rw [length_pieces] at h
  have hlt := mul_lt_of_lt_count h
  rw [getElem_pieces, Array.size_extract, Nat.succ_mul]
  omega

/-- The first `k` cuts give the first `k * n` bytes. -/
theorem join_extracts (b : Bytes) (n k : Nat) :
    join ((List.range k).map fun i => b.extract (i * n) ((i + 1) * n)) = b.extract 0 (k * n) := by
  induction k with
  | zero => simp
  | succ k ih =>
    rw [List.range_succ, List.map_append, join_append, ih, List.map_singleton, join_cons, join_nil,
      Array.append_empty, Array.extract_append_extract, Nat.succ_mul,
      Nat.min_eq_left (Nat.zero_le _), Nat.max_eq_right (Nat.le_add_right _ _)]

theorem join_pieces (b : Bytes) {n : Nat} (hn : 0 < n) : join (b.pieces n) = b := by
  unfold pieces
  rw [join_extracts, Array.extract_eq_self_of_le (size_le_count_mul hn)]

/-! ## Cutting what was joined -/

theorem take_eq_map_range (parts : List Bytes) {k : Nat} (hk : k ≤ parts.length) :
    parts.take k = (List.range k).map fun i => parts.getD i #[] := by
  refine List.ext_getElem (by simp [hk]) fun i hi hi' => ?_
  rw [List.length_take] at hi
  have hlt : i < parts.length := by omega
  simp [hlt]

theorem extract_join {parts : List Bytes} {k : Nat} (hk : k < parts.length) :
    (join parts).extract (total (parts.take k)) (total (parts.take k) + parts[k].size) = parts[k] := by
  rw [join_eq_split hk, ← size_join, Array.extract_append_right, Array.extract_append_left, Array.extract_size]

/-- Parts whose sizes are those of pieces are the pieces of what they make up. -/
theorem pieces_join {parts : List Bytes} {size n : Nat} (hn : 0 < n)
    (hlength : parts.length = (size + n - 1) / n)
    (hsize : ∀ (i : Nat) (hi : i < parts.length), parts[i].size = min n (size - i * n)) :
    (join parts).pieces n = parts := by
  have hfront (k : Nat) (hk : k ≤ parts.length) : total (parts.take k) = min (k * n) size := by
    rw [take_eq_map_range parts hk]
    refine total_cuts fun i hi => ?_
    have hlt : i < parts.length := Nat.lt_of_lt_of_le hi hk
    rw [List.getD_eq_getElem?_getD, List.getElem?_eq_getElem hlt]
    exact hsize i hlt
  have htotal : total parts = size := by
    have hall := hfront parts.length (Nat.le_refl _)
    rw [List.take_length] at hall
    rw [hall, hlength]
    exact Nat.min_eq_right (size_le_count_mul hn)
  refine List.ext_getElem ?_ fun k hk hk' => ?_
  · rw [length_pieces, size_join, htotal, hlength]
  · have hstart : k * n < size := mul_lt_of_lt_count (hlength ▸ hk')
    have hbefore : total (parts.take k) = k * n := by
      rw [hfront k (Nat.le_of_lt hk')]
      exact Nat.min_eq_left (Nat.le_of_lt hstart)
    have hpart := extract_join hk'
    rw [hbefore, hsize k hk'] at hpart
    -- the last piece may ask for more than there is
    have hstop : min ((k + 1) * n - k * n) ((join parts).size - k * n) =
        min (k * n + min n (size - k * n) - k * n) ((join parts).size - k * n) := by
      rw [size_join, htotal, Nat.succ_mul]
      omega
    rw [getElem_pieces]
    exact (Array.extract_eq_extract_right.mpr hstop).trans hpart

/-- Pieces that are changed, but not in size, are the pieces of what they make up then. -/
theorem pieces_map {b : Bytes} {n : Nat} (hn : 0 < n) {g : Bytes → Bytes} (hg : ∀ x, (g x).size = x.size) :
    (join ((b.pieces n).map g)).pieces n = (b.pieces n).map g := by
  have hlength : ((b.pieces n).map g).length = (b.size + n - 1) / n := by
    rw [List.length_map, length_pieces]
  refine pieces_join hn hlength fun i hi => ?_
  rw [List.getElem_map, hg, size_getElem_pieces]

/-! ## Pieces of pieces -/

theorem pos_of_mem_pieces {b part : Bytes} {n : Nat} (h : part ∈ b.pieces n) : 0 < part.size := by
  obtain ⟨i, hi, rfl⟩ := List.getElem_of_mem h
  have hcount : i < (b.size + n - 1) / n := length_pieces b n ▸ hi
  have hn := pos_of_lt_count hcount
  have hlt := mul_lt_of_lt_count hcount
  rw [size_getElem_pieces]
  omega

/-- A piece that another one follows has the length asked for, and is not all there is. -/
theorem size_of_mem_dropLast_pieces {b part : Bytes} {n : Nat} (h : part ∈ (b.pieces n).dropLast) :
    part.size = n ∧ n < b.size := by
  obtain ⟨i, hi, rfl⟩ := List.getElem_of_mem h
  rw [List.length_dropLast, length_pieces] at hi
  have hnext : (i + 1) * n < b.size := mul_lt_of_lt_count (by omega)
  rw [Nat.succ_mul] at hnext
  rw [List.getElem_dropLast, size_getElem_pieces]
  omega

theorem pieces_empty (n : Nat) : pieces #[] n = [] := by
  rcases Nat.eq_zero_or_pos n with rfl | hn
  · simp [pieces]
  · simp [pieces, Nat.div_eq_of_lt (Nat.sub_one_lt_of_lt hn)]

/-- Where one piece ends and the next begins, the pieces of both sides are pieces of the whole. -/
theorem pieces_append {a : Bytes} {n : Nat} (h : n ∣ a.size) (b : Bytes) :
    (a ++ b).pieces n = a.pieces n ++ b.pieces n := by
  rcases Nat.eq_zero_or_pos n with rfl | hn
  · simp [pieces]
  obtain ⟨k, hk⟩ := h
  rw [Nat.mul_comm] at hk
  have hfront : (a.pieces n).length = k := by
    rw [length_pieces, hk, Nat.add_sub_assoc hn, Nat.add_comm, Nat.add_mul_div_right _ _ hn,
      Nat.div_eq_of_lt (Nat.sub_one_lt_of_lt hn), Nat.zero_add]
  have hlength : (a.pieces n ++ b.pieces n).length = ((a ++ b).size + n - 1) / n := by
    have hsum : (a ++ b).size + n - 1 = b.size + n - 1 + k * n := by
      rw [Array.size_append, hk]
      omega
    rw [List.length_append, hfront, length_pieces, hsum, Nat.add_mul_div_right _ _ hn, Nat.add_comm]
  have hsize : ∀ (i : Nat) (hi : i < (a.pieces n ++ b.pieces n).length),
      (a.pieces n ++ b.pieces n)[i].size = min n ((a ++ b).size - i * n) := by
    intro i hi
    rw [Array.size_append, hk]
    by_cases hik : i < k
    · have hle : (i + 1) * n ≤ k * n := Nat.mul_le_mul_right n hik
      rw [Nat.succ_mul] at hle
      rw [List.getElem_append_left (hfront ▸ hik), size_getElem_pieces, hk]
      omega
    · have hsub : (i - k) * n = i * n - k * n := Nat.sub_mul i k n
      have hle : k * n ≤ i * n := Nat.mul_le_mul_right n (Nat.le_of_not_lt hik)
      rw [List.getElem_append_right (by omega), size_getElem_pieces, hfront, hsub]
      omega
  have hparts := pieces_join hn hlength hsize
  rwa [join_append, join_pieces a hn, join_pieces b hn] at hparts

theorem pieces_join_of_dvd {parts : List Bytes} {n : Nat} (h : ∀ part ∈ parts.dropLast, n ∣ part.size) :
    (join parts).pieces n = parts.flatMap fun part => part.pieces n := by
  induction parts with
  | nil => exact pieces_empty n
  | cons part rest ih =>
    cases rest with
    | nil => simp
    | cons next rest =>
      rw [List.dropLast_cons_cons] at h
      have hpart := h part (List.mem_cons_self ..)
      rw [join_cons, pieces_append hpart, List.flatMap_cons, ih fun b hb => h b (List.mem_cons_of_mem _ hb)]

/-- Large pieces that begin where small ones do are cut into just these. -/
theorem flatMap_pieces {b : Bytes} {m n : Nat} (hm : 0 < m) (h : ∀ i, i * m < b.size → n ∣ i * m) :
    ((b.pieces m).flatMap fun part => part.pieces n) = b.pieces n := by
  have hdvd : ∀ part ∈ (b.pieces m).dropLast, n ∣ part.size := by
    intro part hpart
    obtain ⟨hsize, hlt⟩ := size_of_mem_dropLast_pieces hpart
    have hfirst := h 1 ((Nat.one_mul m).symm ▸ hlt)
    rwa [Nat.one_mul, ← hsize] at hfirst
  rw [← pieces_join_of_dvd hdvd, join_pieces b hm]

end FramePress.Bytes
