import FramePress.Proofs.Stage.Run

/-! # What the codec of a stage sees

To speak of the compressions that a stage asks for, its codec is wrapped in one that keeps a record.

* `Request`, `Codec.recorded`: a compression as the codec sees it, and the codec with a record.
* `Codec.Lawful.recorded`: the wrapper keeps the promises of the codec.
* `record_step`: a call with a frame adds the request of the committed stage, or nothing.
-/

namespace FramePress
set_option autoImplicit false

/-! ## The record of a codec -/

/-- What the codec has selected when it is called, and what it is called with. -/
structure Request where
  compressor : Compressor
  threads : Nat
  params : Params

/-- The request is made under some settings. -/
structure Request.Under (r : Request) (settings : Settings) : Prop where
  compressor : r.compressor = settings.compressor
  threads : r.threads = settings.threads
  level : r.params.level = settings.level
  shuffle : r.params.shuffle = settings.shuffle

/-- The codec, with a record of all compressions. -/
def Codec.recorded {σ : Type} (c : Codec σ) : Codec (σ × List Request) where
  name := c.name
  maxOverhead := c.maxOverhead
  maxThreads := c.maxThreads
  compressor s := c.compressor s.1
  threads s := c.threads s.1
  select s x := ((c.select s.1 x).1, (c.select s.1 x).2, s.2)
  setThreads s n := ((c.setThreads s.1 n).1, (c.setThreads s.1 n).2, s.2)
  compress s p src dest :=
    let r := c.compress s.1 p src dest
    ⟨r.result, r.dest, r.state, s.2 ++ [⟨c.compressor s.1, c.threads s.1, p⟩]⟩

section Recorded
variable {σ : Type} {c : Codec σ} {s s' : σ × List Request} {r : Except Status Unit}

theorem Codec.select_recorded {x : Compressor} (h : c.recorded.select s x = (r, s')) :
    c.select s.1 x = (r, s'.1) ∧ s'.2 = s.2 := by
  cases h
  exact ⟨rfl, rfl⟩

theorem Codec.setThreads_recorded {n : Nat} (h : c.recorded.setThreads s n = (r, s')) :
    c.setThreads s.1 n = (r, s'.1) ∧ s'.2 = s.2 := by
  cases h
  exact ⟨rfl, rfl⟩

theorem Codec.Lawful.recorded (hc : c.Lawful) : c.recorded.Lawful where
  compressor_select _ _ _ h := hc.compressor_select _ _ _ (select_recorded h).1
  threads_select _ _ _ h := hc.threads_select _ _ _ (select_recorded h).1
  threads_setThreads _ _ _ h := hc.threads_setThreads _ _ _ (setThreads_recorded h).1
  compressor_setThreads _ _ _ h := hc.compressor_setThreads _ _ _ (setThreads_recorded h).1
  compressor_compress s := hc.compressor_compress s.1
  threads_compress s := hc.threads_compress s.1

end Recorded

namespace Stage

variable {σ : Type}

section Record
variable {c : Codec σ} {s : Stage (σ × List Request)}

/-- The compressions so far. -/
def record (s : Stage (σ × List Request)) : List Request := s.codecState.2

/-- The request that a committed stage makes for a frame. -/
def requestFor (c : Codec σ) (s : Stage (σ × List Request)) (f : Frame) : Request :=
  ⟨c.compressor s.codecState.1, c.threads s.codecState.1, (s.frameSettings f).params⟩

theorem record_selectThreads (settings : Settings) (state : σ × List Request) :
    (selectThreads c.recorded settings state).2.2 = state.2 := by
  unfold selectThreads
  split
  · rfl
  · split
    · rename_i hset
      exact (Codec.setThreads_recorded hset).2
    · rename_i hset
      exact (Codec.setThreads_recorded hset).2

theorem record_select (settings : Settings) (state : σ × List Request) :
    (select c.recorded settings state).2.2 = state.2 := by
  unfold select
  split
  · rename_i hselect
    exact (Codec.select_recorded hselect).2
  · rename_i hselect
    rw [record_selectThreads]
    exact (Codec.select_recorded hselect).2

theorem record_commit (acquisition : String) : (s.commit c.recorded acquisition).2.record = s.record := by
  have hselect := record_select (c := c) s.commanded s.codecState
  cases hr : s.commit c.recorded acquisition with
  | mk result s' =>
    cases hr ▸ commit_cases c.recorded s acquisition with
    | already h => rfl
    | accepted h state hs =>
      rw [hs] at hselect
      exact hselect
    | refused h e state hs =>
      rw [hs] at hselect
      exact hselect

/-- A committed stage makes one request for a frame, or none. -/
theorem record_encodeFrame (a : Allocator) (h : Heap) (f : Frame) :
    (s.encodeFrame c.recorded a h f).2.1.record = s.record ∨
      (s.encodeFrame c.recorded a h f).2.1.record = s.record ++ [requestFor c s f] := by
  have hcases := encodeFrame_cases c.recorded a s h f
  generalize s.encodeFrame c.recorded a h f = r at hcases ⊢
  cases hcases with
  | noScratch e hgrants => exact .inl (congrArg Prod.snd (frameSettings_countFallback s f).2)
  | failed status hfails => exact .inr rfl
  | noBlock n e hresult hgrants => exact .inr rfl
  | encoded n b h' hresult hn hacquire => exact .inr rfl

/-- What a frame adds to the record: a request of the committed stage, or nothing. -/
inductive Adds (c : Codec σ) (s : Stage (σ × List Request)) (f : Frame) : List Request → Prop
  | nothing : Adds c s f []
  | request (h : (s.commit c.recorded f.acquisition).1 = .ok ()) :
      Adds c s f [requestFor c (s.commit c.recorded f.acquisition).2 f]

theorem record_produce (a : Allocator) (h : Heap) (f : Frame) :
    ∃ new, Adds c s f new ∧ (s.produce c.recorded a h f).2.1.record = s.record ++ new := by
  have hcommit := record_commit (c := c) (s := s) f.acquisition
  rcases produce_cases c.recorded a s h f with ⟨e, -, hproduce⟩ | ⟨hok, hproduce⟩
  · rw [hproduce]
    exact ⟨[], .nothing, hcommit.trans (List.append_nil _).symm⟩
  · rw [hproduce, ← hcommit]
    rcases record_encodeFrame (c := c) (s := (s.commit c.recorded f.acquisition).2) a h f with hnone | hone
    · exact ⟨[], .nothing, hnone.trans (List.append_nil _).symm⟩
    · exact ⟨_, .request hok, hone⟩

theorem record_step {call : Call} {f : Frame} (h : call.frame? = some f) :
    ∃ new, Adds c s f new ∧ (step c.recorded s call).record = s.record ++ new := by
  obtain ⟨a, hp, hstep⟩ := step_of_frame c.recorded s h
  obtain ⟨new, hnew, hrecord⟩ := record_produce (c := c) (s := s) a hp f
  refine ⟨new, hnew, ?_⟩
  rcases hstep with hstep | ⟨out, -, hstep⟩
  · rw [hstep]
    exact hrecord
  · rw [hstep]
    exact hrecord

end Record

end Stage
end FramePress
