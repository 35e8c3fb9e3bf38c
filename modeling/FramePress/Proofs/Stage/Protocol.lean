import FramePress.Proofs.Stage.Binding
import FramePress.Proofs.Stage.Record
import Mathlib.Data.List.Destutter

/-! # The settings of every compression

Every time the codec compresses, it does so under one complete value of the commanded settings: the one
in force at the call that last bound the stage.

* `requestsAt`: the compressions of one call; `under_of_mem_requestsAt`: their settings.
* `bindsAt_iff`: when the binding is the frame's own.
* `commits_run`: without refusals the stage commits once for each group of frames.
* `CommitProtocol`, `commit_protocol`: all of it, for any run.
-/

namespace FramePress.Stage
set_option autoImplicit false

variable {σ : Type} {c : Codec σ} {s : Stage (σ × List Request)} {calls : List Call} {i : Nat}

/-! ## The compressions of a call -/

/-- What call `i` adds to the record. -/
def requestsAt (c : Codec σ) (s : Stage (σ × List Request)) (calls : List Call) (i : Nat) : List Request :=
  (after c.recorded s calls (i + 1)).record.drop (after c.recorded s calls i).record.length

theorem record_after (c : Codec σ) (s : Stage (σ × List Request)) (calls : List Call) (i : Nat) :
    ∃ new, (after c.recorded s calls (i + 1)).record = (after c.recorded s calls i).record ++ new ∧
      ∀ r ∈ new, ∃ f, frameAt calls i = some f ∧ (commitAt c.recorded s calls i f).1 = .ok () ∧
        r = requestFor c (commitAt c.recorded s calls i f).2 f := by
  cases hframe : frameAt calls i with
  | none =>
    obtain ⟨commanded, hafter⟩ := after_succ_of_no_frame (c := c.recorded) (s := s) hframe
    refine ⟨[], ?_, fun r hr => absurd hr List.not_mem_nil⟩
    rw [hafter, List.append_nil]
    rfl
  | some f =>
    obtain ⟨call, hcall, hf⟩ := call_of_frameAt hframe
    obtain ⟨new, hnew, hrecord⟩ := record_step (c := c) (s := after c.recorded s calls i) hf
    rw [after_succ hcall]
    refine ⟨new, hrecord, fun r hr => ⟨f, rfl, ?_⟩⟩
    cases hnew with
    | nothing => exact absurd hr List.not_mem_nil
    | request hok => exact ⟨hok, List.mem_singleton.mp hr⟩

theorem record_after_eq (c : Codec σ) (s : Stage (σ × List Request)) (calls : List Call) (i : Nat) :
    (after c.recorded s calls (i + 1)).record =
      (after c.recorded s calls i).record ++ requestsAt c s calls i := by
  obtain ⟨new, hnew, -⟩ := record_after c s calls i
  unfold requestsAt
  rw [hnew, List.drop_left]

theorem mem_requestsAt {r : Request} (hr : r ∈ requestsAt c s calls i) :
    ∃ f, frameAt calls i = some f ∧ (commitAt c.recorded s calls i f).1 = .ok () ∧
      r = requestFor c (commitAt c.recorded s calls i f).2 f := by
  obtain ⟨new, hnew, hmem⟩ := record_after c s calls i
  unfold requestsAt at hr
  rw [hnew, List.drop_left] at hr
  exact hmem r hr

/-- The request of a call is made under the settings that are active after it. -/
theorem under_of_mem_requestsAt (hc : c.Lawful) (hs : IsNew c.recorded s) {r : Request}
    (hr : r ∈ requestsAt c s calls i) :
    ∃ f, frameAt calls i = some f ∧
      (after c.recorded s calls (i + 1)).binding = some f.acquisition ∧
      r.Under (after c.recorded s calls (i + 1)).active := by
  obtain ⟨f, hframe, hok, rfl⟩ := mem_requestsAt hr
  have hkeeps := keeps_after (s := s) hc.recorded hframe
  have hbinding := hkeeps.binding.trans (binding_of_commit_ok hok)
  obtain ⟨j, -, -, hselected⟩ := (inForce hc.recorded hs (i + 1)).settings _ hbinding
  refine ⟨f, hframe, hbinding, ?_, ?_, ?_, ?_⟩
  · exact hkeeps.compressor.symm.trans hselected.compressor
  · exact hkeeps.threads.symm.trans hselected.threads
  · exact (congrArg Settings.level hkeeps.active).symm
  · exact (congrArg Settings.shuffle hkeeps.active).symm

/-! ## Whose settings they are -/

/-- A frame that is not refused binds the stage itself unless the last frame has left it bound. -/
theorem bindsAt_iff {c : Codec σ} {s : Stage σ} (h : InForce c s calls i) {f : Frame}
    (hframe : frameAt calls i = some f) (hok : (commitAt c s calls i f).1 = .ok ()) :
    BindsAt c s calls i ↔ (∀ k < i, ¬ BindsAt c s calls k) ∨
      ∃ k g, Precedes calls k i ∧ frameAt calls k = some g ∧
        (g.acquisition ≠ f.acquisition ∨ RefusedAt c s calls k) := by
  rw [bindsAt_of_frame hframe, and_iff_left hok]
  constructor
  · intro hne
    cases h.frame with
    | none hnone hb => exact .inl fun k hk => not_bindsAt_of_no_frame (hnone k hk)
    | refused k hk hrefused hb =>
      obtain ⟨g, e, hg, he⟩ := hrefused
      exact .inr ⟨k, g, hk, hg, .inr ⟨g, e, hg, he⟩⟩
    | committed k g hk hg hrefused hb =>
      rw [hb] at hne
      exact .inr ⟨k, g, hk, hg, .inl fun heq => hne (congrArg some heq)⟩
  · intro hcause hbound
    rcases hcause with hnever | ⟨k, g, hk, hg, hdiffers⟩
    · obtain ⟨j, hj, -⟩ := h.settings _ hbound
      exact hnever j hj.lt hj.binds
    · cases h.frame with
      | none hnone hb =>
        rw [hb] at hbound
        cases hbound
      | refused k' hk' hrefused hb =>
        rw [hb] at hbound
        cases hbound
      | committed k' g' hk' hg' hrefused hb =>
        -- the last frame is the same one, and it has left the stage bound to this acquisition
        obtain rfl := hk.unique hk'
        rw [hg] at hg'
        cases hg'
        rw [hb] at hbound
        rcases hdiffers with hne | hr
        · exact hne (Option.some.inj hbound)
        · exact hrefused hr

theorem LastBinding.eq_iff {c : Codec σ} {s : Stage σ} {j : Nat} (h : LastBinding c s calls j (i + 1)) :
    j = i ↔ BindsAt c s calls i := by
  constructor
  · rintro rfl
    exact h.binds
  · intro hi
    rcases Nat.lt_or_eq_of_le (Nat.le_of_lt_succ h.lt) with hlt | heq
    · exact absurd hi (h.last i hlt (Nat.lt_succ_self i))
    · exact heq

/-! ## Groups of frames -/

/-- The frames from call `i` to call `k` belong to one acquisition, and none is refused. -/
def OneGroup (c : Codec σ) (s : Stage σ) (calls : List Call) (id : String) (i k : Nat) : Prop :=
  ∀ m f, i ≤ m → m ≤ k → frameAt calls m = some f → f.acquisition = id ∧ ¬ RefusedAt c s calls m

/-- Inside a group the active settings do not change. -/
theorem active_of_oneGroup {c : Codec σ} {s : Stage σ} (hc : c.Lawful) {id : String} {k : Nat} (hik : i ≤ k)
    (h : OneGroup c s calls id i k) (hbound : (after c s calls (i + 1)).binding = some id) :
    (after c s calls (k + 1)).binding = some id ∧
      (after c s calls (k + 1)).active = (after c s calls (i + 1)).active := by
  induction hik with
  | refl => exact ⟨hbound, rfl⟩
  | @step k hik ih =>
    obtain ⟨hb, hactive⟩ := ih fun m f hm hm' => h m f hm (Nat.le_succ_of_le hm')
    cases hframe : frameAt calls (k + 1) with
    | none =>
      obtain ⟨commanded, hafter⟩ := after_succ_of_no_frame (c := c) (s := s) hframe
      rw [Nat.succ_eq_add_one, hafter]
      exact ⟨hb, hactive⟩
    | some f =>
      have hkeeps := keeps_after (s := s) hc hframe
      have hid := (h (k + 1) f (Nat.le_succ_of_le hik) (Nat.le_refl _) hframe).1
      have halready : commitAt c s calls (k + 1) f = (.ok (), after c s calls (k + 1)) := by
        unfold commitAt commit
        rw [if_pos (hid ▸ hb)]
      rw [halready] at hkeeps
      exact ⟨hkeeps.binding.trans hb, hkeeps.active.trans hactive⟩

/-! ## Counting commits -/

/-- The acquisitions of the frames of a run, in order. -/
def acquisitions (calls : List Call) : List String :=
  calls.filterMap fun call => call.frame?.map Frame.acquisition

/-- How often a list of acquisitions leaves the one before, the first being `last`. -/
def changes : Option String → List String → Nat
  | _, [] => 0
  | last, id :: ids => (if last = some id then 0 else 1) + changes (some id) ids

theorem length_destutter' (id : String) (ids : List String) :
    (ids.destutter' (· ≠ ·) id).length = 1 + changes (some id) ids := by
  induction ids generalizing id with
  | nil => rfl
  | cons next ids ih =>
    by_cases h : id = next
    · subst h
      rw [List.destutter'_cons_neg _ (not_not_intro rfl), ih, changes, if_pos rfl, Nat.zero_add]
    · rw [List.destutter'_cons_pos _ h, List.length_cons, ih, changes,
        if_neg fun heq => h (Option.some.inj heq), Nat.add_comm]

/-- Neighbours that are equal count once. -/
theorem length_destutter (ids : List String) : (ids.destutter (· ≠ ·)).length = changes none ids := by
  cases ids with
  | nil => rfl
  | cons id ids =>
    rw [List.destutter_cons', length_destutter', changes, if_neg (Option.some_ne_none id).symm]

theorem commits_run {c : Codec σ} (hc : c.Lawful) (s : Stage σ) (calls : List Call)
    (h : ∀ i, ¬ RefusedAt c s calls i) :
    (run c s calls).stats.commits =
      s.stats.commits + (changes s.binding (acquisitions calls)).toUInt64 := by
  induction calls generalizing s with
  | nil => exact (UInt64.add_zero _).symm
  | cons call rest ih =>
    have hrest := ih (step c s call) fun i => h (i + 1)
    rw [show run c s (call :: rest) = run c (step c s call) rest from rfl, hrest]
    cases hframe : call.frame? with
    | none =>
      obtain ⟨commanded, hstep⟩ := step_of_no_frame c s hframe
      simp only [acquisitions, List.filterMap_cons, hframe, hstep, Option.map_none]
    | some f =>
      have hkeeps := keeps_step hc s hframe
      have hno : ∀ e, (s.commit c f.acquisition).1 ≠ .error e := fun e he => h 0 ⟨f, e, hframe, he⟩
      have hids : acquisitions (call :: rest) = f.acquisition :: acquisitions rest := by
        simp only [acquisitions, List.filterMap_cons, hframe, Option.map_some]
      rw [hids, changes]
      have hcases := commit_cases c s f.acquisition
      generalize s.commit c f.acquisition = r at hkeeps hno hcases
      cases hcases with
      | already hbound => rw [hkeeps.commits, hkeeps.binding, hbound, if_pos rfl, Nat.zero_add]
      | accepted hne state hselect =>
        rw [hkeeps.commits, hkeeps.binding, if_neg hne]
        show s.stats.commits + 1 + (changes (some f.acquisition) (acquisitions rest)).toUInt64 = _
        rw [UInt64.add_assoc]
        exact congrArg _ (UInt64.ofNat_add 1 _).symm
      | refused hne e state hselect => exact absurd rfl (hno e)

/-! ## The protocol -/

/-- What is recorded of a run, and how often its stage commits. -/
structure CommitProtocol (c : Codec σ) (s : Stage (σ × List Request)) (calls : List Call) : Prop where
  /-- Nothing else is ever recorded. -/
  record : ∀ i, (after c.recorded s calls (i + 1)).record =
    (after c.recorded s calls i).record ++ requestsAt c s calls i
  /-- Each compression is made under the settings commanded at the last binding.  That is the frame's own
  if nothing was bound before, or the frame before belongs to another acquisition or was refused. -/
  settings : ∀ i, ∀ r ∈ requestsAt c s calls i, ∃ f j, frameAt calls i = some f ∧
    LastBinding c.recorded s calls j (i + 1) ∧ r.Under (after c.recorded s calls j).commanded ∧
      (j = i ↔ (∀ k < i, ¬ BindsAt c.recorded s calls k) ∨
        ∃ k g, Precedes calls k i ∧ frameAt calls k = some g ∧
          (g.acquisition ≠ f.acquisition ∨ RefusedAt c.recorded s calls k))
  /-- All compressions of a group are made under the same settings. -/
  groups : ∀ id i k, i ≤ k → OneGroup c.recorded s calls id i k → ∀ r ∈ requestsAt c s calls i,
    ∀ r' ∈ requestsAt c s calls k, ∃ settings, r.Under settings ∧ r'.Under settings
  /-- Without refusals there is one commit for each group. -/
  commits : (∀ i, ¬ RefusedAt c.recorded s calls i) →
    (run c.recorded s calls).stats.commits = ((acquisitions calls).destutter (· ≠ ·)).length.toUInt64

theorem commit_protocol {c : Codec σ} (hc : c.Lawful) {s : Stage (σ × List Request)}
    (hs : IsNew c.recorded s) (calls : List Call) : CommitProtocol c s calls := by
  constructor
  · exact record_after_eq c s calls
  · intro i r hr
    obtain ⟨f, hframe, hok, -⟩ := mem_requestsAt hr
    obtain ⟨g, hg, hbinding, hunder⟩ := under_of_mem_requestsAt hc hs hr
    obtain ⟨j, hj, hactive, -⟩ := (inForce hc.recorded hs (i + 1)).settings _ hbinding
    rw [hactive] at hunder
    exact ⟨f, j, hframe, hj, hunder,
      hj.eq_iff.trans (bindsAt_iff (inForce hc.recorded hs i) hframe hok)⟩
  · intro id i k hik hgroup r hr r' hr'
    obtain ⟨f, hframe, hbinding, hunder⟩ := under_of_mem_requestsAt hc hs hr
    obtain ⟨f', -, -, hunder'⟩ := under_of_mem_requestsAt hc hs hr'
    have hid := (hgroup i f (Nat.le_refl i) hik hframe).1
    have hactive := (active_of_oneGroup hc.recorded hik hgroup (hid ▸ hbinding)).2
    rw [hactive] at hunder'
    exact ⟨_, hunder, hunder'⟩
  · intro hno
    rw [commits_run hc.recorded s calls hno, hs.fresh.1, hs.fresh.2, length_destutter,
      UInt64.zero_add]

/-! ## A refusal in between -/

/-- A codec that cannot have three threads. -/
def withoutThree : Codec ScriptedCodec := ScriptedCodec.codec 16 8

/-- A new stage with that codec. -/
def newStage : Stage (ScriptedCodec × List Request) where
  name := "stage"
  codecState := (⟨{ rejectThreads := some 3 }, .lz4, 1, [.setThreads 1, .select .lz4]⟩, [])
  pool := 0

/-- An empty frame of an acquisition, compressed. -/
def emptyFrame (acquisition : String) : Call :=
  .compress ⟨fun _ => true, fun _ => true⟩ {} { dataset := "d", acquisition := acquisition, pool := 0 }

def threadsMessage (n : Int) : Call := .configure (.object [("threads", .integer n)])

/-- Three threads are refused, so the next frame of the first acquisition binds the stage again. -/
theorem commit_protocol_refused :
    let calls := [emptyFrame "a", threadsMessage 3, emptyFrame "a", emptyFrame "b", threadsMessage 2,
      emptyFrame "a"]
    withoutThree.Lawful ∧ IsNew withoutThree.recorded newStage ∧
      (run withoutThree.recorded newStage calls).record.map Request.threads = [1, 1, 2] ∧
      CommitProtocol withoutThree newStage calls := by
  intro calls
  have hc : withoutThree.Lawful := ScriptedCodec.lawful 16 8
  have hcreate : create withoutThree.recorded (⟨{ rejectThreads := some 3 }, .lz4, 0, []⟩, []) "stage" 0 =
      .ok newStage := rfl
  have hs : IsNew withoutThree.recorded newStage := .create hcreate
  exact ⟨hc, hs, by rfl, commit_protocol hc hs calls⟩

end FramePress.Stage
