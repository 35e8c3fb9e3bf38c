import FramePress.Proofs.Stage.Isolation
import FramePress.Proofs.Stage.Outcome
import FramePress.Stage.Line

/-! # A stage with the chunk codec loses nothing

* `emptyResults_run`, `failures_run`: two counters of a run that never move.
* `FromOutside`: the errors that are not the codec's doing.
* `Lossless`: every frame that is granted its memory is handed on as a chunk of its payload.
* `lossless`: this holds after any configuration and any calls.
-/

namespace FramePress.Stage
set_option autoImplicit false

/-! ## Counters -/

variable {bs : Backends} {pf : Platform} {s : Stage ChunkCodec}

theorem Outcome.emptyResults {s s' : Stage ChunkCodec} {f : Frame} {r : Except StageError Frame}
    (h : Outcome bs s f r s') : s'.stats.emptyResults = s.stats.emptyResults := by
  have hcount := (faults_countFallback s f).1
  cases h with
  | allocation e => exact hcount
  | tooLarge hsize settings => exact hcount
  | carried out hcarries => exact hcount

theorem Outcome.failures {s s' : Stage ChunkCodec} {f : Frame} {r : Except StageError Frame}
    (h : Outcome bs s f r s') (hsrc : f.data.size ≤ Chunk.maxSourceSize) :
    s'.stats.failures = s.stats.failures := by
  have hcount := (faults_countFallback s f).2
  cases h with
  | allocation e => exact hcount
  | tooLarge hsize settings => exact absurd hsrc (Nat.not_le.mpr hsize)
  | carried out hcarries => exact hcount

theorem Outcome.carries {s s' : Stage ChunkCodec} {f out : Frame} (h : Outcome bs s f (.ok out) s') :
    Carries bs f out := by
  cases h with
  | carried _ hcarries => exact hcarries

/-- The result of a frame is never empty. -/
theorem emptyResults_recordFrame {σ : Type} (s : Stage σ) {f out : Frame} (h : Carries bs f out) :
    (s.recordFrame f out).stats.emptyResults = s.stats.emptyResults := by
  have hpos : out.dataSize ≠ 0 := by
    have := h.size_ge
    omega
  show (if out.dataSize = 0 then s.stats.emptyResults + 1 else s.stats.emptyResults) = _
  rw [if_neg hpos]

section Run
variable (htotal : ∀ c, (bs c).Total) (hf : ∀ c, (bs c).Faithful) (hpf : pf.Complete)
include htotal hf hpf

theorem emptyResults_step (hs : Sound s) (call : Call) :
    (step (ChunkCodec.codec bs pf) s call).stats.emptyResults = s.stats.emptyResults := by
  cases hframe : call.frame? with
  | none =>
    obtain ⟨commanded, hstep⟩ := step_of_no_frame (ChunkCodec.codec bs pf) s hframe
    rw [hstep]
  | some f =>
    obtain ⟨a, hp, hstep⟩ := step_of_frame (ChunkCodec.codec bs pf) s hframe
    have houtcome := produce_outcome htotal hf hpf hs a hp f
    have hproduce := houtcome.emptyResults.trans (faults_commit (ChunkCodec.codec bs pf) s f.acquisition).1
    rcases hstep with hstep | ⟨out, hout, hstep⟩
    · rw [hstep, hproduce]
    · rw [hout] at houtcome
      rw [hstep, emptyResults_recordFrame _ houtcome.carries, hproduce]

theorem failures_step (hs : Sound s) {call : Call}
    (hsrc : ∀ f, call.frame? = some f → f.data.size ≤ Chunk.maxSourceSize) :
    (step (ChunkCodec.codec bs pf) s call).stats.failures = s.stats.failures := by
  cases hframe : call.frame? with
  | none =>
    obtain ⟨commanded, hstep⟩ := step_of_no_frame (ChunkCodec.codec bs pf) s hframe
    rw [hstep]
  | some f =>
    obtain ⟨a, hp, hstep⟩ := step_of_frame (ChunkCodec.codec bs pf) s hframe
    have houtcome := produce_outcome htotal hf hpf hs a hp f
    have hproduce := (houtcome.failures (hsrc f hframe)).trans
      (faults_commit (ChunkCodec.codec bs pf) s f.acquisition).2
    rcases hstep with hstep | ⟨out, -, hstep⟩
    · rw [hstep, hproduce]
    · rw [hstep]
      exact hproduce

theorem emptyResults_run (hs : Sound s) (calls : List Call) :
    (run (ChunkCodec.codec bs pf) s calls).stats.emptyResults = s.stats.emptyResults := by
  induction calls generalizing s with
  | nil => rfl
  | cons call rest ih => exact (ih (hs.step hpf bs call)).trans (emptyResults_step htotal hf hpf hs call)

theorem failures_run (hs : Sound s) {calls : List Call}
    (hsrc : ∀ call ∈ calls, ∀ f, call.frame? = some f → f.data.size ≤ Chunk.maxSourceSize) :
    (run (ChunkCodec.codec bs pf) s calls).stats.failures = s.stats.failures := by
  induction calls generalizing s with
  | nil => rfl
  | cons call rest ih =>
    have hrest := ih (hs.step hpf bs call) fun call' h => hsrc call' (List.mem_cons_of_mem call h)
    exact hrest.trans (failures_step htotal hf hpf hs (hsrc call List.mem_cons_self))

end Run

/-! ## Frames after a run -/

/-- The errors for a frame that no settings are to blame for: there is no memory, the sink refuses the result,
or the payload is larger than a chunk can hold. -/
def FromOutside (f : Frame) : StageError → Prop
  | .allocation _ => True
  | .downstream _ => True
  | .codec status _ _ => status = .sourceTooLarge ∧ Chunk.maxSourceSize < f.data.size
  | .selection _ _ => False
  | .threads _ _ => False

/-- What is promised of a stage. -/
structure Lossless (bs : Backends) (pf : Platform) (s : Stage ChunkCodec) : Prop where
  /-- One result is handed on for a frame, with its labels and a chunk of its payload. -/
  process : ∀ (l : Line ChunkCodec) (a : Allocator) (f : Frame), l.stage = s → l.isConnected = true →
    a.GrantsUpTo (f.dataSize + 16) → f.data.size ≤ Chunk.maxSourceSize →
      ∃ out, Carries bs f out ∧ (l.process (ChunkCodec.codec bs pf) a f).1 = .done ∧
        (l.process (ChunkCodec.codec bs pf) a f).2.queue = l.queue ++ [out]
  /-- So it is with every sink that accepts it. -/
  accepted : ∀ {τ : Type} (k : Sink τ) (sink : τ) (taken : List Frame) (a : Allocator) (h : Heap) (f : Frame),
    (∀ out, (k.push sink out).1 = .ok ()) → a.GrantsUpTo (f.dataSize + 16) →
    f.data.size ≤ Chunk.maxSourceSize →
      let r := s.process (ChunkCodec.codec bs pf) k.recorded a (sink, taken) h f
      ∃ out, Carries bs f out ∧ r.1 = .ok out ∧ r.2.2.2.2 = taken ++ [out]
  /-- Nothing that the codec has been asked for is ever refused. -/
  process_error : ∀ {τ : Type} (k : Sink τ) a sink h f e,
    (s.process (ChunkCodec.codec bs pf) k a sink h f).1 = .error e → FromOutside f e
  compress_error : ∀ a h f e, (s.compress (ChunkCodec.codec bs pf) a h f).1 = .error e → FromOutside f e

section Sound
variable (htotal : ∀ c, (bs c).Total) (hf : ∀ c, (bs c).Faithful) (hpf : pf.Complete)
include htotal hf hpf

theorem produce_error (hs : Sound s) {a : Allocator} {h : Heap} {f : Frame} {e : StageError}
    (he : (s.produce (ChunkCodec.codec bs pf) a h f).1 = .error e) : FromOutside f e := by
  have houtcome := produce_outcome htotal hf hpf hs a h f
  rw [he] at houtcome
  generalize (s.produce (ChunkCodec.codec bs pf) a h f).2.1 = s' at houtcome
  cases houtcome with
  | allocation e => trivial
  | tooLarge hsize settings => exact ⟨rfl, hsize⟩

theorem process_error (hs : Sound s) {τ : Type} {k : Sink τ} {a : Allocator} {sink : τ} {h : Heap} {f : Frame}
    {e : StageError} (he : (s.process (ChunkCodec.codec bs pf) k a sink h f).1 = .error e) : FromOutside f e := by
  have hcases := process_cases (ChunkCodec.codec bs pf) k a s sink h f
  generalize s.process (ChunkCodec.codec bs pf) k a sink h f = r at hcases he
  cases hcases with
  | failed e' s' h' hproduce =>
    cases he
    exact produce_error htotal hf hpf hs (congrArg Prod.fst hproduce)
  | refused out s' h' hproduce e' sink' hpush =>
    cases he
    trivial
  | delivered out s' h' hproduce sink' hpush => cases he

/-- With enough memory, and a sink that accepts the result, there is one. -/
theorem process_of_grant (hs : Sound s) {τ : Type} {k : Sink τ} {sink : τ}
    (haccepts : ∀ out, (k.push sink out).1 = .ok ()) {a : Allocator} {f : Frame}
    (hg : a.GrantsUpTo (f.dataSize + 16)) (hsrc : f.data.size ≤ Chunk.maxSourceSize) (h : Heap) :
    ∃ out, Carries bs f out ∧ (s.process (ChunkCodec.codec bs pf) k a sink h f).1 = .ok out := by
  obtain ⟨out, hout, hcarries⟩ := produce_of_grant htotal hf hpf hs hg hsrc h
  exact ⟨out, hcarries, (process_ok_iff k a s sink h f).mpr ⟨hout, haccepts out⟩⟩

theorem lossless_of_sound (hs : Sound s) : Lossless bs pf s := by
  constructor
  · intro l a f hl hconnected hg hsrc
    have haccepts (out : Frame) : (Channel.sink.push l.channel out).1 = .ok () :=
      Channel.push_ok_iff.mpr hconnected
    obtain ⟨out, hcarries, hprocess⟩ := process_of_grant htotal hf hpf hs haccepts hg hsrc l.heap
    rw [← hl] at hprocess
    have hqueue := queue_process (ChunkCodec.codec bs pf) a l.stage l.channel l.heap f
    have hline := line_process_eq (ChunkCodec.codec bs pf) a l f
    dsimp only at hqueue hline
    rw [hprocess] at hqueue hline
    rw [hline]
    exact ⟨out, hcarries, rfl, hqueue⟩
  · intro τ k sink taken a h f haccepts hg hsrc
    obtain ⟨out, hcarries, hprocess⟩ := process_of_grant htotal hf hpf hs haccepts hg hsrc h
    refine ⟨out, hcarries, ?_⟩
    rw [process_recorded]
    dsimp only
    rw [hprocess]
    exact ⟨rfl, rfl⟩
  · exact fun k a sink h f e he => process_error htotal hf hpf hs he
  · intro a h f e he
    have haccepted := process_accepted (ChunkCodec.codec bs pf) a s h f
    exact process_error htotal hf hpf hs ((congrArg Prod.fst haccepted).trans he)

end Sound

/-- Whatever the configuration, a stage can be built on a complete platform, and it loses nothing after any
calls.  The results are never empty, and the codec fails on no frame that is not too large. -/
theorem lossless {bs : Backends} {pf : Platform} (htotal : ∀ c, (bs c).Total) (hf : ∀ c, (bs c).Faithful)
    (hpf : pf.Complete) (config : StageConfig) (pool : PoolId) :
    ∃ s, ofConfig (ChunkCodec.codec bs pf) {} config pool = .ok s ∧ ∀ calls,
      Lossless bs pf (run (ChunkCodec.codec bs pf) s calls) ∧
        (run (ChunkCodec.codec bs pf) s calls).stats.emptyResults = 0 ∧
        ((∀ call ∈ calls, ∀ f, call.frame? = some f → f.data.size ≤ Chunk.maxSourceSize) →
          (run (ChunkCodec.codec bs pf) s calls).stats.failures = 0) := by
  obtain ⟨s, hs, hsound, hstats⟩ := exists_ofConfig hpf bs config pool
  refine ⟨s, hs, fun calls => ⟨lossless_of_sound htotal hf hpf (hsound.run hpf bs calls), ?_, fun hsrc => ?_⟩⟩
  · rw [emptyResults_run htotal hf hpf hsound calls, hstats]
  · rw [failures_run htotal hf hpf hsound hsrc, hstats]

/-! ## One configuration -/

/-- Level 5 and the byte filter, and two values that cannot be had. -/
def oddConfig : StageConfig where
  defaultTypeSize := 0
  level := some (.integer 5)
  shuffle := some (.integer 1)
  threads := some (.integer 0)

/-- Thirteen words and a byte, as samples of four bytes. -/
def wordsFrame : Frame where
  dataset := "words"
  acquisition := "first"
  dataType := some .float32
  block := some ⟨0, Chunk.thirteenWords⟩
  dataSize := 53
  pool := 0

theorem lossless_wordsFrame :
    Chunk.wordsBackend.Total ∧ Chunk.wordsBackend.Faithful ∧ ({} : Platform).Complete ∧
      ∃ (s : Stage ChunkCodec) (out : Frame), let c := ChunkCodec.codec fun _ => Chunk.wordsBackend
        ofConfig c {} oddConfig 0 = .ok s ∧
          (Line.process c ⟨fun _ => true, fun _ => true⟩ ⟨s, {}, [], true⟩ wordsFrame).2.queue = [out] ∧
          out.acquisition = "first" ∧ Chunk.read (fun _ => Chunk.wordsBackend) out.data =
            .ok Chunk.thirteenWords := by
  have htotal : Chunk.wordsBackend.Total := fun _ _ _ _ => ⟨_, rfl⟩
  have hf : Chunk.wordsBackend.Faithful := Chunk.oneBlock_faithful _ _
  have hpf : ({} : Platform).Complete := ⟨fun _ => rfl, fun _ _ _ => ⟨_, rfl⟩⟩
  have hdata : wordsFrame.data = Chunk.thirteenWords := Array.extract_size
  have hsize : wordsFrame.data.size ≤ Chunk.maxSourceSize := by
    rw [hdata]
    decide
  obtain ⟨s, hs, hall⟩ := @lossless (fun _ => Chunk.wordsBackend) {} (fun _ => htotal) (fun _ => hf) hpf
    oddConfig 0
  obtain ⟨out, hcarries, -, hqueue⟩ := (hall []).1.process ⟨s, {}, [], true⟩
    ⟨fun _ => true, fun _ => true⟩ wordsFrame rfl rfl (fun _ _ => ⟨rfl, rfl⟩) hsize
  exact ⟨htotal, hf, hpf, s, out, hs, hqueue, hcarries.acquisition, hdata ▸ hcarries.content⟩

end FramePress.Stage
