import FramePress.Bytes

/-! # Workers

* `map_of_mapM`, `exists_of_mapM_eq_none`: the results of some parts, got one after the other.
* `Workers`: a pool of worker threads, and what it promises of the parts that it works on.
* `Workers.inOrder`: the pool that does one part after the other.
-/

namespace FramePress
set_option autoImplicit false

section Parts
variable {α β : Type} {f : α → Option β} {parts : List α}

theorem map_of_mapM {results : List β} (h : parts.mapM f = some results) :
    parts.map f = results.map some := by
  induction parts generalizing results with
  | nil =>
    cases h
    rfl
  | cons part rest ih =>
    rw [List.mapM_cons] at h
    obtain ⟨result, hresult, h⟩ := Option.bind_eq_some_iff.mp h
    obtain ⟨results', hresults', h⟩ := Option.bind_eq_some_iff.mp h
    cases h
    rw [List.map_cons, List.map_cons, hresult, ih hresults']

theorem exists_of_mapM_eq_none (h : parts.mapM f = none) : ∃ part ∈ parts, f part = none := by
  induction parts with
  | nil => cases h
  | cons part rest ih =>
    cases hpart : f part with
    | none => exact ⟨part, List.mem_cons_self, hpart⟩
    | some result =>
      cases hrest : rest.mapM f with
      | none =>
        obtain ⟨part', hmem, hnone⟩ := ih hrest
        exact ⟨part', List.mem_cons_of_mem part hmem, hnone⟩
      | some results =>
        rw [List.mapM_cons, hpart, hrest] at h
        cases h

end Parts

/-- A pool of workers.  In which order they do the parts, and how many at a time, is up to them. -/
structure Workers where
  map : (Bytes → Option Bytes) → List Bytes → Option (List Bytes)
  /-- The results are in the order of the parts. -/
  ordered : ∀ {f parts results}, map f parts = some results → parts.map f = results.map some
  /-- There are none only if one part has none. -/
  complete : ∀ {f parts}, map f parts = none → ∃ part ∈ parts, f part = none

def Workers.inOrder : Workers where
  map f parts := parts.mapM f
  ordered := map_of_mapM
  complete := exists_of_mapM_eq_none

end FramePress
