import FramePress.Buffer
import FramePress.Proofs.Bytes.Reading

/-! # What a buffer holds after it was written

* `exists_writeEach?`: a loop of single writes inside a buffer succeeds; what it leaves at a place is the
  work of the cells with that place, in their order.
* `history_overwrite`: nothing else is left where all cells with one place write the same byte.
* `place?_middle`, `copyRest?_eq_some`: ranges.
-/

namespace FramePress.Bytes
set_option autoImplicit false

theorem getElem?_eq_byteAt {b : Bytes} {i : Nat} (h : i < b.size) : b[i]? = some (b.byteAt i) := by
  rw [byteAt_eq_getElem h, Array.getElem?_eq_getElem h]

theorem getElem?_eq_of_byteAt {a b : Bytes} {p : Nat} (hsize : a.size = b.size)
    (h : a.byteAt p = b.byteAt p) : a[p]? = b[p]? := by
  by_cases hp : p < b.size
  · rw [getElem?_eq_byteAt hp, getElem?_eq_byteAt (hsize ▸ hp), h]
  · rw [Array.getElem?_eq_none (by omega), Array.getElem?_eq_none (by omega)]

/-! ## One byte after the other -/

section Loop
variable {ι : Type} {cells : List ι} {place : ι → Nat} {value : ι → Option UInt8} {v : ι → UInt8}
  {combine : UInt8 → UInt8 → UInt8} {dest out : Bytes}

theorem exists_update? {i : Nat} (h : i < dest.size) (f : UInt8 → UInt8) :
    ∃ out, dest.update? i f = some out ∧ out.size = dest.size ∧
      ∀ p < dest.size, out.byteAt p = if i = p then f (dest.byteAt p) else dest.byteAt p := by
  have hsize : (dest.modify i f).size = dest.size := Array.size_modify
  refine ⟨dest.modify i f, if_pos h, hsize, ?_⟩
  intro p hp
  have hp' : p < (dest.modify i f).size := by omega
  rw [byteAt_eq_getElem hp', byteAt_eq_getElem hp, Array.getElem_modify]

theorem writeEach?_cons (dest : Bytes) (c : ι) (cells : List ι) (place : ι → Nat) (value : ι → Option UInt8)
    (combine : UInt8 → UInt8 → UInt8) :
    dest.writeEach? (c :: cells) place value combine =
      (value c).bind fun x => (dest.update? (place c) fun old => combine old x).bind fun next =>
        next.writeEach? cells place value combine := by
  unfold writeEach?
  rw [List.foldlM_cons]
  cases value c with
  | none => rfl
  | some x => rfl

/-- The cells with some place, in their order, applied to the byte there. -/
def history (cells : List ι) (place : ι → Nat) (v : ι → UInt8) (combine : UInt8 → UInt8 → UInt8) (p : Nat)
    (x : UInt8) : UInt8 :=
  (cells.filter fun c => place c = p).foldl (fun old c => combine old (v c)) x

theorem history_cons (c : ι) (p : Nat) (x : UInt8) :
    history (c :: cells) place v combine p x =
      history cells place v combine p (if place c = p then combine x (v c) else x) := by
  unfold history
  by_cases h : place c = p
  · rw [if_pos h, List.filter_cons_of_pos (by simpa using h), List.foldl_cons]
  · rw [if_neg h, List.filter_cons_of_neg (by simpa using h)]

theorem exists_writeEach? (combine : UInt8 → UInt8 → UInt8) (hplace : ∀ c ∈ cells, place c < dest.size)
    (hvalue : ∀ c ∈ cells, value c = some (v c)) :
    ∃ out, dest.writeEach? cells place value combine = some out ∧ out.size = dest.size ∧
      ∀ p < dest.size, out.byteAt p = history cells place v combine p (dest.byteAt p) := by
  induction cells generalizing dest with
  | nil => exact ⟨dest, rfl, rfl, fun p hp => rfl⟩
  | cons c cells ih =>
    have hc : place c < dest.size := hplace c List.mem_cons_self
    have hx : value c = some (v c) := hvalue c List.mem_cons_self
    obtain ⟨next, hnext, hsize, hbyte⟩ := exists_update? hc fun old => combine old (v c)
    have hplace' : ∀ c' ∈ cells, place c' < next.size := by
      intro c' hc'
      rw [hsize]
      exact hplace c' (List.mem_cons_of_mem c hc')
    obtain ⟨out, hout, hsize', hbyte'⟩ := ih hplace' fun c' hc' => hvalue c' (List.mem_cons_of_mem c hc')
    refine ⟨out, ?_, hsize'.trans hsize, ?_⟩
    · rw [writeEach?_cons, hx, Option.bind_some, hnext, Option.bind_some, hout]
    · intro p hp
      rw [hbyte' p (by omega), hbyte p hp, history_cons]

/-! ### Bytes written over others -/

theorem history_overwrite {p : Nat} {x y : UInt8} (hmem : ∃ c ∈ cells, place c = p)
    (hv : ∀ c ∈ cells, place c = p → v c = x) : history cells place v (fun _ new => new) p y = x := by
  have hlast : ∀ (l : List ι) (y : UInt8), (∀ c ∈ l, v c = x) → l ≠ [] ∨ y = x →
      l.foldl (fun _ c => v c) y = x := by
    intro l
    induction l with
    | nil =>
      intro y _ hy
      exact hy.resolve_left fun h => h rfl
    | cons c l ih =>
      intro y hl _
      rw [List.foldl_cons]
      exact ih (v c) (fun c' hc' => hl c' (List.mem_cons_of_mem c hc')) (.inr (hl c List.mem_cons_self))
  obtain ⟨c, hc, hp⟩ := hmem
  refine hlast _ y ?_ (.inl (List.ne_nil_of_mem (a := c) ?_))
  · intro c' hc'
    obtain ⟨hc', hp'⟩ := List.mem_filter.mp hc'
    exact hv c' hc' (of_decide_eq_true hp')
  · exact List.mem_filter.mpr ⟨hc, decide_eq_true hp⟩

end Loop

/-! ## Ranges -/

theorem exists_place? {dest part : Bytes} {start : Nat} (h : start + part.size ≤ dest.size) :
    ∃ out, dest.place? start part = some out ∧ out.size = dest.size ∧
      ∀ p < part.size, out.byteAt (start + p) = part.byteAt p := by
  have hsize : (dest.extract 0 start).size = start := by
    rw [Array.size_extract]
    omega
  refine ⟨_, if_pos h, ?_, ?_⟩
  · simp only [Array.size_append, hsize, Array.size_extract]
    omega
  · intro p hp
    rw [Array.append_assoc]
    conv => lhs; arg 2; rw [← hsize]
    rw [byteAt_append_right, byteAt_append_left hp]

/-- A part is written over the one of its size that stands behind `front`. -/
theorem place?_middle {front old part rest : Bytes} {start : Nat} (hstart : start = front.size)
    (hsize : old.size = part.size) :
    (front ++ (old ++ rest)).place? start part = some (front ++ (part ++ rest)) := by
  have htotal : (front ++ (old ++ rest)).size = front.size + (old.size + rest.size) := by
    rw [Array.size_append, Array.size_append]
  have hfront : (front ++ (old ++ rest)).extract 0 start = front := by
    rw [hstart, Array.extract_append_left, Array.extract_size]
  have hrest : (front ++ (old ++ rest)).extract (start + part.size) (front ++ (old ++ rest)).size = rest := by
    have hbehind : start + part.size = (front ++ old).size := by
      rw [Array.size_append, hstart, hsize]
    have hend : (front ++ (old ++ rest)).size = (front ++ old).size + rest.size := by
      rw [← Array.append_assoc, Array.size_append]
    rw [hbehind, hend, ← Array.append_assoc, Array.extract_append_right, Array.extract_size]
  have hroom : start + part.size ≤ (front ++ (old ++ rest)).size := by omega
  unfold place?
  rw [if_pos hroom, hfront, hrest, Array.append_assoc]

theorem overlay_front {old part rest : Bytes} (hsize : old.size = part.size) :
    (old ++ rest).overlay part = part ++ rest := by
  unfold overlay
  rw [← hsize, Array.size_append, Array.extract_append_right, Array.extract_size]

theorem overlay_append {old rest part more : Bytes} (hsize : old.size = part.size) :
    (old ++ rest).overlay (part ++ more) = part ++ rest.overlay more := by
  have hbehind : (part ++ more).size = old.size + more.size := by
    rw [Array.size_append, hsize]
  unfold overlay
  rw [hbehind, Array.size_append, Array.append_assoc, Array.extract_append]
  have hold : old.extract (old.size + more.size) (old.size + rest.size) = #[] :=
    Array.extract_empty_of_size_le_start (Nat.le_add_right _ _)
  rw [hold, Array.empty_append, Nat.add_sub_cancel_left, Nat.add_sub_cancel_left]

theorem copyRest?_eq_some {dest src out : Bytes} {start : Nat} (hstart : start ≤ src.size)
    (hdest : dest.size = src.size) (hout : out.size = src.size)
    (hfront : ∀ p < start, out.byteAt p = dest.byteAt p)
    (hrest : ∀ p, start ≤ p → out.byteAt p = src.byteAt p) : dest.copyRest? start src = some out := by
  have hsize : (dest.extract 0 start).size = start := by
    rw [Array.size_extract]
    omega
  have hsize' : (dest.extract 0 start ++ src.extract start src.size).size = out.size := by
    rw [Array.size_append, hsize, Array.size_extract]
    omega
  unfold copyRest?
  rw [if_pos ⟨hstart, hdest.symm⟩]
  refine congrArg some (ext_byteAt hsize' ?_)
  intro p hp
  by_cases h : p < start
  · rw [hfront p h, byteAt_append_left (by omega), byteAt_extract (by omega), Nat.zero_add]
  · have hp' : p = (dest.extract 0 start).size + (p - start) := by omega
    rw [hrest p (by omega)]
    conv => lhs; rw [hp', byteAt_append_right, byteAt_extract (by omega)]
    congr 1
    omega

end FramePress.Bytes
