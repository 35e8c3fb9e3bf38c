import FramePress.Proofs.Stage.Run

/-! # Which settings are in force

* `LastBinding`: the last call that bound the stage.
* `BoundByFrame`: what the last frame says about the binding.
* `InForce`: the invariant of runs.  It has one case for each kind of call, and for a frame one for each
  outcome of its commit; `inForce` is the induction over the run.
-/

namespace FramePress.Stage
set_option autoImplicit false

variable {σ : Type}

section Binding
variable (c : Codec σ) (s : Stage σ) (calls : List Call)

/-- Call `j` is the last before call `i` that binds the stage. -/
structure LastBinding (j i : Nat) : Prop where
  lt : j < i
  binds : BindsAt c s calls j
  last : ∀ k, j < k → k < i → ¬ BindsAt c s calls k

/-- The last frame before call `i`, if there is one, tells whether and to what the stage is bound. -/
inductive BoundByFrame (i : Nat) : Prop
  | none (h : ∀ k < i, frameAt calls k = none) (hbinding : (after c s calls i).binding = none)
  | refused (k : Nat) (h : Precedes calls k i) (hrefused : RefusedAt c s calls k)
      (hbinding : (after c s calls i).binding = none)
  | committed (k : Nat) (f : Frame) (h : Precedes calls k i) (hf : frameAt calls k = some f)
      (hrefused : ¬ RefusedAt c s calls k)
      (hbinding : (after c s calls i).binding = some f.acquisition)

/-- What holds before call `i`. -/
structure InForce (i : Nat) : Prop where
  settings : ∀ id, (after c s calls i).binding = some id → ∃ j, LastBinding c s calls j i ∧
    (after c s calls i).active = (after c s calls j).commanded ∧
      Selected c (after c s calls i).codecState (after c s calls i).active
  frame : BoundByFrame c s calls i

end Binding

/-! ## One call -/

section Run
variable {c : Codec σ} {s : Stage σ} {calls : List Call} {i : Nat}

/-- A binding stays the last one if the next call does not bind. -/
theorem LastBinding.succ {j : Nat} (h : LastBinding c s calls j i) (hi : ¬ BindsAt c s calls i) :
    LastBinding c s calls j (i + 1) := by
  refine ⟨Nat.lt_succ_of_lt h.lt, h.binds, fun k hjk hk => ?_⟩
  rcases Nat.lt_or_eq_of_le (Nat.le_of_lt_succ hk) with hlt | rfl
  · exact h.last k hjk hlt
  · exact hi

theorem inForce_zero (hs : IsNew c s) : InForce c s calls 0 := by
  refine ⟨fun id hid => ?_, .none (fun k hk => absurd hk (Nat.not_lt_zero k)) hs.fresh.1⟩
  rw [after_zero, hs.fresh.1] at hid
  cases hid

theorem inForce_succ_of_no_frame (h : InForce c s calls i) (hframe : frameAt calls i = none) :
    InForce c s calls (i + 1) := by
  obtain ⟨commanded, hafter⟩ := after_succ_of_no_frame (c := c) (s := s) hframe
  constructor
  · intro id hid
    rw [hafter] at hid ⊢
    obtain ⟨j, hj, hactive, hselected⟩ := h.settings id hid
    exact ⟨j, hj.succ (not_bindsAt_of_no_frame hframe), hactive, hselected⟩
  · have hbinding : (after c s calls (i + 1)).binding = (after c s calls i).binding := by rw [hafter]
    cases h.frame with
    | none hnone hb =>
      refine .none (fun k hk => ?_) (hbinding.trans hb)
      rcases Nat.lt_or_eq_of_le (Nat.le_of_lt_succ hk) with hlt | rfl
      · exact hnone k hlt
      · exact hframe
    | refused k hk hrefused hb => exact .refused k (hk.succ hframe) hrefused (hbinding.trans hb)
    | committed k f hk hf hrefused hb =>
      exact .committed k f (hk.succ hframe) hf hrefused (hbinding.trans hb)

theorem inForce_succ_of_frame (hc : c.Lawful) (h : InForce c s calls i) {f : Frame}
    (hframe : frameAt calls i = some f) : InForce c s calls (i + 1) := by
  have hkeeps := keeps_after (s := s) hc hframe
  have hprecedes := precedes_succ_of_frame hframe
  have hcases := commit_cases c (after c s calls i) f.acquisition
  change Commits c (after c s calls i) f.acquisition (commitAt c s calls i f) at hcases
  have hrefused := refusedAt_of_frame (c := c) (s := s) hframe
  have hbinds := bindsAt_of_frame (c := c) (s := s) hframe
  generalize commitAt c s calls i f = r at hkeeps hcases hrefused hbinds
  cases hcases with
  | already hbound =>
    have hstay : ¬ BindsAt c s calls i := fun hb => (hbinds.mp hb).1 hbound
    constructor
    · intro id _
      obtain ⟨j, hj, hactive, hselected⟩ := h.settings _ hbound
      refine ⟨j, hj.succ hstay, hkeeps.active.trans hactive, ?_⟩
      rw [hkeeps.active]
      exact hselected.of_keeps hkeeps
    · refine .committed i f hprecedes hframe ?_ (hkeeps.binding.trans hbound)
      rw [hrefused]
      rintro ⟨e, he⟩
      cases he
  | accepted hne state hselect =>
    constructor
    · intro id _
      refine ⟨i, ⟨Nat.lt_succ_self i, hbinds.mpr ⟨hne, rfl⟩, fun k hk hk' => absurd hk (by omega)⟩,
        hkeeps.active, ?_⟩
      rw [hkeeps.active]
      exact Selected.of_keeps (s := (after c s calls i).bound f.acquisition state)
        (selected_of_select hc hselect) hkeeps
    · refine .committed i f hprecedes hframe ?_ hkeeps.binding
      rw [hrefused]
      rintro ⟨e, he⟩
      cases he
  | refused hne e state hselect =>
    have hunbound : (after c s calls (i + 1)).binding = none := hkeeps.binding
    constructor
    · intro id hid
      rw [hunbound] at hid
      cases hid
    · exact .refused i hprecedes (hrefused.mpr ⟨e, rfl⟩) hunbound

/-! ## All calls -/

theorem inForce (hc : c.Lawful) (hs : IsNew c s) (i : Nat) : InForce c s calls i := by
  induction i with
  | zero => exact inForce_zero hs
  | succ i ih =>
    cases hframe : frameAt calls i with
    | none => exact inForce_succ_of_no_frame ih hframe
    | some f => exact inForce_succ_of_frame hc ih hframe

end Run
end FramePress.Stage
