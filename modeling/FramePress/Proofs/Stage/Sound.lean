import FramePress.Proofs.Settings.Range
import FramePress.Proofs.Stage.Run

/-! # Settings that the chunk codec accepts

* `Sound`: the settings of a stage are such that the chunk codec accepts them.
* `exists_ofConfig`: every configuration gives a sound stage; `Sound.run`: a sound stage stays sound.
* `Sound.commit`: on a complete platform the codec never refuses what a sound stage asks for.
-/

namespace FramePress.Stage
set_option autoImplicit false

variable {bs : Backends} {pf : Platform} {s : Stage ChunkCodec}

structure Sound (s : Stage ChunkCodec) : Prop where
  commanded : s.commanded.InRange ChunkCodec.maxThreads
  active : s.active.InRange ChunkCodec.maxThreads
  defaultTypeSize : 0 < s.defaultTypeSize

theorem maxThreads_pos : 0 < ChunkCodec.maxThreads := by decide

theorem Sound.of_keeps {s s' : Stage ChunkCodec} (h : Sound s) (hkeeps : Keeps (ChunkCodec.codec bs pf) s s') :
    Sound s' :=
  ⟨hkeeps.commanded ▸ h.commanded, hkeeps.active ▸ h.active, hkeeps.defaultTypeSize ▸ h.defaultTypeSize⟩

theorem exists_selectThreads (hpf : pf.Complete) (bs : Backends) {settings : Settings}
    (h : settings.InRange ChunkCodec.maxThreads) (state : ChunkCodec) :
    ∃ state', selectThreads (ChunkCodec.codec bs pf) settings state = (.ok (), state') := by
  obtain ⟨state', hset⟩ := ChunkCodec.exists_setThreads hpf h.threads_pos h.threads_le state
  replace hset : (ChunkCodec.codec bs pf).setThreads state settings.threads = (.ok (), state') := hset
  unfold selectThreads
  by_cases hthreads : (ChunkCodec.codec bs pf).threads state = settings.threads
  · rw [if_pos hthreads]
    exact ⟨_, rfl⟩
  · rw [if_neg hthreads, hset]
    exact ⟨_, rfl⟩

theorem exists_select (hpf : pf.Complete) (bs : Backends) {settings : Settings}
    (h : settings.InRange ChunkCodec.maxThreads) (state : ChunkCodec) :
    ∃ state', select (ChunkCodec.codec bs pf) settings state = (.ok (), state') := by
  have hselect : (ChunkCodec.codec bs pf).select state settings.compressor = _ :=
    ChunkCodec.select_of_complete hpf state settings.compressor
  unfold select
  rw [hselect]
  exact exists_selectThreads hpf bs h _

/-- On a complete platform the codec never refuses the settings of a sound stage. -/
theorem Sound.commit (h : Sound s) (hpf : pf.Complete) (bs : Backends) (acquisition : String) :
    (s.commit (ChunkCodec.codec bs pf) acquisition).1 = .ok () ∧
      Sound (s.commit (ChunkCodec.codec bs pf) acquisition).2 := by
  have hcases := commit_cases (ChunkCodec.codec bs pf) s acquisition
  generalize s.commit (ChunkCodec.codec bs pf) acquisition = r at hcases ⊢
  cases hcases with
  | already hb => exact ⟨rfl, h⟩
  | accepted hne state hselect => exact ⟨rfl, h.commanded, h.commanded, h.defaultTypeSize⟩
  | refused hne e state hselect =>
    obtain ⟨state', hok⟩ := exists_select hpf bs h.commanded s.codecState
    rw [hselect] at hok
    cases hok

theorem Sound.apply (h : Sound s) (bs : Backends) (pf : Platform) (fields : Dictionary Json) :
    Sound (s.apply (ChunkCodec.codec bs pf) fields).2 :=
  ⟨Settings.update_inRange maxThreads_pos h.commanded fields, h.active, h.defaultTypeSize⟩

theorem Sound.step (h : Sound s) (hpf : pf.Complete) (bs : Backends) (call : Call) :
    Sound (step (ChunkCodec.codec bs pf) s call) := by
  cases hframe : call.frame? with
  | some f =>
    have hcommit := (h.commit hpf bs f.acquisition).2
    exact hcommit.of_keeps (keeps_step (ChunkCodec.lawful bs pf) s hframe)
  | none =>
    cases call with
    | configure message =>
      show Sound (s.configure (ChunkCodec.codec bs pf) message).2
      unfold configure
      split
      · exact h.apply bs pf _
      · exact h
    | status => exact h
    | request => exact h
    | process a accepted hp f => cases hframe
    | compress a hp f => cases hframe

theorem exists_ofConfig (hpf : pf.Complete) (bs : Backends) (config : StageConfig) (pool : PoolId) :
    ∃ s, ofConfig (ChunkCodec.codec bs pf) {} config pool = .ok s ∧ Sound s ∧ s.stats = {} := by
  have hdefault := Settings.inRange_default maxThreads_pos
  obtain ⟨state, hselect⟩ := exists_select hpf bs hdefault {}
  unfold ofConfig create
  rw [hselect]
  refine ⟨_, rfl, Sound.apply ⟨hdefault, hdefault, ?_⟩ bs pf _, rfl⟩
  exact Nat.lt_of_lt_of_le Nat.one_pos (Nat.le_max_right _ _)

theorem Sound.run (h : Sound s) (hpf : pf.Complete) (bs : Backends) (calls : List Call) :
    Sound (run (ChunkCodec.codec bs pf) s calls) := by
  induction calls generalizing s with
  | nil => exact h
  | cons call rest ih => exact ih (h.step hpf bs call)

end FramePress.Stage
