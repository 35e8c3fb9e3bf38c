import FramePress.Proofs.Stage.Commit

/-! # Runs of a stage

A run is any sequence of calls.  Each frame comes with the heap it finds and with what the allocator does and
the sink answers during its call, so that nothing is assumed of the rest of the process.

* `Call`, `step`, `run`: one call and all of them; `after`: the stage after the first calls.
* `exists_answering`: calls in which the sink just answers are all the calls there are.
* `IsNew`: a stage as it is built.
* `frameAt`, `RefusedAt`, `BindsAt`: the calls that bring a frame, and what becomes of its commit.
-/

namespace FramePress.Stage
set_option autoImplicit false

variable {σ : Type} {c : Codec σ}

inductive Call
  | configure (message : Json)
  | process (a : Allocator) (accepted : Bool) (h : Heap) (f : Frame)
  | compress (a : Allocator) (h : Heap) (f : Frame)
  | status
  | request

def Call.frame? : Call → Option Frame
  | process _ _ _ f => some f
  | compress _ _ f => some f
  | _ => none

def step (c : Codec σ) (s : Stage σ) : Call → Stage σ
  | .configure message => (s.configure c message).2
  | .process a accepted h f => (s.process c (.answering accepted) a () h f).2.1
  | .compress a h f => (s.compress c a h f).2.1
  | .status | .request => s

def run (c : Codec σ) (s : Stage σ) (calls : List Call) : Stage σ := calls.foldl (step c) s

/-- Of a sink, whatever it is, a call sees one answer at most. -/
theorem exists_answering {τ : Type} (c : Codec σ) (k : Sink τ) (a : Allocator) (s : Stage σ) (sink : τ)
    (h : Heap) (f : Frame) : ∃ accepted, s.process c (.answering accepted) a () h f =
      let r := s.process c k a sink h f
      (r.1, r.2.1, r.2.2.1, ()) := by
  have hcases := process_cases c k a s sink h f
  generalize s.process c k a sink h f = r at hcases ⊢
  unfold process
  cases hcases with
  | failed e s' h' hproduce =>
    rw [hproduce]
    exact ⟨true, rfl⟩
  | refused out s' h' hproduce e sink' hpush =>
    rw [hproduce]
    exact ⟨false, rfl⟩
  | delivered out s' h' hproduce sink' hpush =>
    rw [hproduce]
    exact ⟨true, rfl⟩

theorem step_of_frame (c : Codec σ) (s : Stage σ) {call : Call} {f : Frame} (h : call.frame? = some f) :
    ∃ a hp, step c s call = (s.produce c a hp f).2.1 ∨
      ∃ out, (s.produce c a hp f).1 = .ok out ∧
        step c s call = (s.produce c a hp f).2.1.recordFrame f out := by
  cases call with
  | configure message => cases h
  | status => cases h
  | request => cases h
  | process a accepted hp g =>
    cases h
    exact ⟨a, hp, process_state c (.answering accepted) a s () hp f⟩
  | compress a hp g =>
    cases h
    exact ⟨a, hp, compress_state c a s hp f⟩

theorem keeps_step (hc : c.Lawful) (s : Stage σ) {call : Call} {f : Frame} (h : call.frame? = some f) :
    Keeps c (s.commit c f.acquisition).2 (step c s call) := by
  obtain ⟨a, hp, hstep | ⟨out, -, hstep⟩⟩ := step_of_frame c s h
  · rw [hstep]
    exact keeps_produce hc.steady a s hp f
  · rw [hstep]
    exact (keeps_produce hc.steady a s hp f).trans (keeps_recordFrame c _ f out)

theorem configure_eq (c : Codec σ) (s : Stage σ) (message : Json) :
    ∃ commanded, (s.configure c message).2 = { s with commanded := commanded } := by
  unfold configure
  split
  · exact ⟨_, rfl⟩
  · exact ⟨s.commanded, rfl⟩

/-- A call without a frame changes the commanded settings at most. -/
theorem step_of_no_frame (c : Codec σ) (s : Stage σ) {call : Call} (h : call.frame? = none) :
    ∃ commanded, step c s call = { s with commanded := commanded } := by
  cases call with
  | configure message => exact configure_eq c s message
  | status => exact ⟨_, rfl⟩
  | request => exact ⟨_, rfl⟩
  | process a accepted hp f => cases h
  | compress a hp f => cases h

/-! ## New stages -/

/-- A stage as it is built. -/
inductive IsNew (c : Codec σ) : Stage σ → Prop
  | create {state : σ} {name : String} {pool : PoolId} {s : Stage σ}
      (h : Stage.create c state name pool = .ok s) : IsNew c s
  | ofConfig {state : σ} {config : StageConfig} {pool : PoolId} {s : Stage σ}
      (h : Stage.ofConfig c state config pool = .ok s) : IsNew c s

theorem create_ok {state : σ} {name : String} {pool : PoolId} {s : Stage σ}
    (h : create c state name pool = .ok s) :
    ∃ state', select c {} state = (.ok (), state') ∧
      s = { name := name, codecState := state', pool := pool } := by
  unfold create at h
  split at h
  · cases h
  · rename_i state' hselect
    cases h
    exact ⟨state', hselect, rfl⟩

theorem ofConfig_ok {state : σ} {config : StageConfig} {pool : PoolId} {s : Stage σ}
    (h : ofConfig c state config pool = .ok s) :
    ∃ s₀, create c state config.name pool = .ok s₀ ∧
      s = ({ s₀ with defaultTypeSize := max config.defaultTypeSize 1 }.apply c config.initialUpdate).2 := by
  unfold ofConfig at h
  split at h
  · cases h
  · rename_i s₀ hcreate
    cases h
    exact ⟨s₀, hcreate, rfl⟩

theorem IsNew.start {s : Stage σ} (h : IsNew c s) : s.binding = none ∧ s.stats = {} := by
  cases h with
  | create h =>
    obtain ⟨state', -, rfl⟩ := create_ok h
    exact ⟨rfl, rfl⟩
  | ofConfig h =>
    obtain ⟨s₀, hcreate, rfl⟩ := ofConfig_ok h
    obtain ⟨state', -, rfl⟩ := create_ok hcreate
    exact ⟨rfl, rfl⟩

theorem IsNew.fresh {s : Stage σ} (h : IsNew c s) : s.binding = none ∧ s.stats.commits = 0 :=
  ⟨h.start.1, congrArg Telemetry.commits h.start.2⟩

/-! ## Calls by number -/

section Numbered
variable (c : Codec σ) (s : Stage σ) (calls : List Call)

/-- The stage after the first `i` calls. -/
def after (i : Nat) : Stage σ := run c s (calls.take i)

/-- The frame that call `i` brings. -/
def frameAt (i : Nat) : Option Frame := calls[i]?.bind Call.frame?

/-- The commit for the frame of call `i`. -/
def commitAt (i : Nat) (f : Frame) : Except StageError Unit × Stage σ :=
  (after c s calls i).commit c f.acquisition

/-- The codec refuses the settings for the frame of call `i`. -/
def RefusedAt (i : Nat) : Prop :=
  ∃ f e, frameAt calls i = some f ∧ (commitAt c s calls i f).1 = .error e

/-- Call `i` binds the stage to the acquisition of its frame. -/
def BindsAt (i : Nat) : Prop :=
  ∃ f, frameAt calls i = some f ∧ (after c s calls i).binding ≠ some f.acquisition ∧
    (commitAt c s calls i f).1 = .ok ()

/-- Call `k` brings the last frame before call `i`. -/
structure Precedes (k i : Nat) : Prop where
  lt : k < i
  isFrame : (frameAt calls k).isSome
  between : ∀ m, k < m → m < i → frameAt calls m = none

end Numbered

variable {s : Stage σ} {calls : List Call} {i : Nat}

theorem after_zero : after c s calls 0 = s := by
  unfold after
  rw [List.take_zero]
  rfl

theorem after_succ {call : Call} (h : calls[i]? = some call) :
    after c s calls (i + 1) = step c (after c s calls i) call := by
  unfold after run
  rw [List.take_add_one, h, List.foldl_append]
  rfl

theorem after_succ_of_none (h : calls[i]? = none) : after c s calls (i + 1) = after c s calls i := by
  unfold after
  rw [List.take_add_one, h, Option.toList_none, List.append_nil]

theorem after_succ_of_no_frame (h : frameAt calls i = none) :
    ∃ commanded, after c s calls (i + 1) = { after c s calls i with commanded := commanded } := by
  unfold frameAt at h
  cases hcall : calls[i]? with
  | none => exact ⟨_, after_succ_of_none hcall⟩
  | some call =>
    rw [after_succ hcall]
    rw [hcall] at h
    exact step_of_no_frame c _ h

theorem call_of_frameAt {f : Frame} (h : frameAt calls i = some f) :
    ∃ call, calls[i]? = some call ∧ call.frame? = some f := Option.bind_eq_some_iff.mp h

/-- A call with a frame keeps what the commit has left. -/
theorem keeps_after (hc : c.Lawful) {f : Frame} (h : frameAt calls i = some f) :
    Keeps c (commitAt c s calls i f).2 (after c s calls (i + 1)) := by
  obtain ⟨call, hcall, hframe⟩ := call_of_frameAt h
  rw [after_succ hcall]
  exact keeps_step hc _ hframe

theorem refusedAt_of_frame {f : Frame} (h : frameAt calls i = some f) :
    RefusedAt c s calls i ↔ ∃ e, (commitAt c s calls i f).1 = .error e := by
  constructor
  · rintro ⟨g, e, hg, he⟩
    rw [h] at hg
    cases hg
    exact ⟨e, he⟩
  · rintro ⟨e, he⟩
    exact ⟨f, e, h, he⟩

theorem bindsAt_of_frame {f : Frame} (h : frameAt calls i = some f) :
    BindsAt c s calls i ↔
      (after c s calls i).binding ≠ some f.acquisition ∧ (commitAt c s calls i f).1 = .ok () := by
  constructor
  · rintro ⟨g, hg, hne, hok⟩
    rw [h] at hg
    cases hg
    exact ⟨hne, hok⟩
  · rintro ⟨hne, hok⟩
    exact ⟨f, h, hne, hok⟩

theorem not_bindsAt_of_no_frame (h : frameAt calls i = none) : ¬ BindsAt c s calls i := by
  rintro ⟨f, hf, -⟩
  rw [h] at hf
  cases hf

/-! ## The frame before -/

theorem precedes_succ_of_frame {f : Frame} (h : frameAt calls i = some f) : Precedes calls i (i + 1) :=
  ⟨Nat.lt_succ_self i, by rw [h]; rfl, fun m hm hm' => absurd hm (by omega)⟩

theorem Precedes.succ {k : Nat} (h : Precedes calls k i) (hi : frameAt calls i = none) :
    Precedes calls k (i + 1) := by
  refine ⟨Nat.lt_succ_of_lt h.lt, h.isFrame, fun m hm hm' => ?_⟩
  rcases Nat.lt_or_eq_of_le (Nat.le_of_lt_succ hm') with hlt | rfl
  · exact h.between m hm hlt
  · exact hi

theorem Precedes.unique {k k' : Nat} (h : Precedes calls k i) (h' : Precedes calls k' i) : k = k' := by
  rcases Nat.lt_trichotomy k k' with hlt | heq | hlt
  · have hnone := h.between k' hlt h'.lt
    have hsome := h'.isFrame
    rw [hnone] at hsome
    cases hsome
  · exact heq
  · have hnone := h'.between k hlt h.lt
    have hsome := h.isFrame
    rw [hnone] at hsome
    cases hsome

end FramePress.Stage
