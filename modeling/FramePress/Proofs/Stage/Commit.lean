import FramePress.Proofs.Codec.Lawful
import FramePress.Proofs.Memory.Pool
import FramePress.Stage

/-! # What a frame does to the settings of a stage

A frame first commits the stage to its acquisition and is then compressed.  All changes to what the
stage is bound to happen in the commit, of which there are three cases.

* `selected_of_select`: a codec that has accepted settings has them.
* `commit_cases`: the stage is bound already, gets bound, or is refused.
* `faults_commit`: neither empty results nor failures are counted in a commit.
* `EncodesFrame`, `encodeFrame_cases`: all that can become of a frame after the commit.
* `produce_cases`, `process_cases`: all that can become of a frame, and of its result.
* `Keeps`: two states with the same commitment; `keeps_produce`: what comes after the commit does not
  touch it.
* `process_state`, `compress_state`: both frame calls leave what `produce` does.
-/

namespace FramePress
set_option autoImplicit false

namespace Stage

variable {σ : Type} {c : Codec σ} {s : Stage σ}

/-! ## Selecting -/

/-- The codec has the compressor and the number of threads of some settings. -/
structure Selected (c : Codec σ) (state : σ) (settings : Settings) : Prop where
  compressor : c.compressor state = settings.compressor
  threads : c.threads state = settings.threads

theorem selectThreads_ok (hc : c.Lawful) {settings : Settings} {state state' : σ}
    (h : selectThreads c settings state = (.ok (), state')) :
    c.threads state' = settings.threads ∧ c.compressor state' = c.compressor state := by
  unfold selectThreads at h
  split at h
  · rename_i hthreads
    cases h
    exact ⟨hthreads, rfl⟩
  · split at h
    · rename_i hset
      cases h
      exact ⟨hc.threads_setThreads _ _ _ hset, hc.compressor_setThreads _ _ _ hset⟩
    · cases h

theorem selected_of_select (hc : c.Lawful) {settings : Settings} {state state' : σ}
    (h : select c settings state = (.ok (), state')) : Selected c state' settings := by
  unfold select at h
  split at h
  · cases h
  · rename_i hselect
    obtain ⟨hthreads, hcompressor⟩ := selectThreads_ok hc h
    exact ⟨hcompressor.trans (hc.compressor_select _ _ _ hselect), hthreads⟩

/-! ## Committing -/

/-- The stage bound to an acquisition with the commanded settings. -/
def bound (s : Stage σ) (acquisition : String) (state : σ) : Stage σ :=
  { s with
    binding := some acquisition
    active := s.commanded
    codecState := state
    stats := s.stats.recordCommit }

/-- The stage after the codec has refused its settings. -/
def unbound (s : Stage σ) (state : σ) : Stage σ := { s with binding := none, codecState := state }

/-- All there is to a commit. -/
inductive Commits (c : Codec σ) (s : Stage σ) (acquisition : String) :
    Except StageError Unit × Stage σ → Prop
  | already (h : s.binding = some acquisition) : Commits c s acquisition (.ok (), s)
  | accepted (h : s.binding ≠ some acquisition) (state : σ)
      (hselect : select c s.commanded s.codecState = (.ok (), state)) :
      Commits c s acquisition (.ok (), s.bound acquisition state)
  | refused (h : s.binding ≠ some acquisition) (e : StageError) (state : σ)
      (hselect : select c s.commanded s.codecState = (.error e, state)) :
      Commits c s acquisition (.error e, s.unbound state)

theorem commit_cases (c : Codec σ) (s : Stage σ) (acquisition : String) :
    Commits c s acquisition (s.commit c acquisition) := by
  unfold commit
  by_cases h : s.binding = some acquisition
  · rw [if_pos h]
    exact .already h
  · rw [if_neg h]
    cases hselect : select c s.commanded s.codecState with
    | mk result state =>
      cases result with
      | error e => exact .refused h e state hselect
      | ok u => exact .accepted h state hselect

theorem binding_of_commit_ok {acquisition : String} (h : (s.commit c acquisition).1 = .ok ()) :
    (s.commit c acquisition).2.binding = some acquisition := by
  generalize hr : s.commit c acquisition = r at h ⊢
  cases hr ▸ commit_cases c s acquisition with
  | already hs => exact hs
  | accepted hs state hselect => rfl
  | refused hs e state hselect => cases h

theorem faults_commit (c : Codec σ) (s : Stage σ) (acquisition : String) :
    (s.commit c acquisition).2.stats.emptyResults = s.stats.emptyResults ∧
      (s.commit c acquisition).2.stats.failures = s.stats.failures := by
  have hcases := commit_cases c s acquisition
  generalize s.commit c acquisition = r at hcases ⊢
  cases hcases with
  | already h => exact ⟨rfl, rfl⟩
  | accepted h state hselect => exact ⟨rfl, rfl⟩
  | refused h e state hselect => exact ⟨rfl, rfl⟩

/-! ## Compressing -/

/-- The commitment of two states is the same. -/
structure Keeps (c : Codec σ) (s s' : Stage σ) : Prop where
  defaultTypeSize : s'.defaultTypeSize = s.defaultTypeSize
  commanded : s'.commanded = s.commanded
  active : s'.active = s.active
  binding : s'.binding = s.binding
  commits : s'.stats.commits = s.stats.commits
  compressor : c.compressor s'.codecState = c.compressor s.codecState
  threads : c.threads s'.codecState = c.threads s.codecState

theorem Keeps.refl (c : Codec σ) (s : Stage σ) : Keeps c s s := ⟨rfl, rfl, rfl, rfl, rfl, rfl, rfl⟩

theorem Keeps.trans {s s' s'' : Stage σ} (h : Keeps c s s') (h' : Keeps c s' s'') : Keeps c s s'' :=
  ⟨h'.defaultTypeSize.trans h.defaultTypeSize, h'.commanded.trans h.commanded,
    h'.active.trans h.active, h'.binding.trans h.binding, h'.commits.trans h.commits,
    h'.compressor.trans h.compressor, h'.threads.trans h.threads⟩

theorem Selected.of_keeps {s s' : Stage σ} {settings : Settings} (h : Selected c s.codecState settings)
    (hkeeps : Keeps c s s') : Selected c s'.codecState settings :=
  ⟨hkeeps.compressor.trans h.compressor, hkeeps.threads.trans h.threads⟩

/-- Counting a frame without a data type touches one counter, and nothing that codec and pool see. -/
theorem countFallback_eq (s : Stage σ) (f : Frame) :
    ∃ n, s.countFallback f = { s with stats := { s.stats with typeFallbacks := n } } := by
  unfold countFallback
  split
  · exact ⟨_, rfl⟩
  · exact ⟨s.stats.typeFallbacks, rfl⟩

theorem faults_countFallback (s : Stage σ) (f : Frame) :
    (s.countFallback f).stats.emptyResults = s.stats.emptyResults ∧
      (s.countFallback f).stats.failures = s.stats.failures := by
  obtain ⟨n, hcount⟩ := countFallback_eq s f
  rw [hcount]
  exact ⟨rfl, rfl⟩

theorem frameSettings_countFallback (s : Stage σ) (f : Frame) :
    (s.countFallback f).frameSettings f = s.frameSettings f ∧
      (s.countFallback f).codecState = s.codecState := by
  obtain ⟨n, hcount⟩ := countFallback_eq s f
  rw [hcount]
  exact ⟨rfl, rfl⟩

theorem keeps_countFallback (c : Codec σ) (s : Stage σ) (f : Frame) : Keeps c s (s.countFallback f) := by
  obtain ⟨n, hcount⟩ := countFallback_eq s f
  rw [hcount]
  exact ⟨rfl, rfl, rfl, rfl, rfl, rfl, rfl⟩

/-! ## Frames -/

/-- The destination that the codec gets for a frame. -/
def room (c : Codec σ) (f : Frame) : Bytes := Array.replicate (f.dataSize + c.maxOverhead) 0

/-- What the codec does with a frame of a bound stage. -/
def reply (c : Codec σ) (s : Stage σ) (f : Frame) : Compression σ :=
  c.compress s.codecState (s.frameSettings f).params f.data (room c f)

/-- The first `n` bytes that the codec has written. -/
def written (c : Codec σ) (s : Stage σ) (f : Frame) (n : Nat) : Bytes := (reply c s f).dest.extract 0 n

/-- The stage after the codec has been called for a frame. -/
def called (c : Codec σ) (s : Stage σ) (f : Frame) : Stage σ :=
  { s.countFallback f with codecState := (reply c s f).state }

/-- The codec fails, or reports more bytes than it has room for. -/
def Fails (c : Codec σ) (s : Stage σ) (f : Frame) (status : Status) : Prop :=
  (reply c s f).result = .error status ∨
    status = .failure ∧ ∃ n, (reply c s f).result = .ok n ∧ f.dataSize + c.maxOverhead < n

/-- A new frame of the stage's pool with the labels of `f`. -/
def labelled (s : Stage σ) (f : Frame) : Frame where
  dataset := f.dataset
  acquisition := f.acquisition
  number := f.number
  dataType := f.dataType
  dimensions := f.dimensions
  pool := s.pool

/-- That frame with a payload that fills its block. -/
def wrapped (s : Stage σ) (f : Frame) (index : Nat) (payload : Bytes) : Frame :=
  { s.labelled f with block := some ⟨index, payload⟩, dataSize := payload.size }

/-- All that can become of a frame in a bound stage. -/
inductive EncodesFrame (c : Codec σ) (a : Allocator) (s : Stage σ) (h : Heap) (f : Frame) :
    Except StageError Frame × Stage σ × Heap → Prop
  | noScratch (e : AllocationError) (hgrants : a.scratch (f.dataSize + c.maxOverhead) = false) :
      EncodesFrame c a s h f (.error (.allocation e), s.countFallback f, h)
  | failed (status : Status) (hfails : Fails c s f status) :
      EncodesFrame c a s h f (.error (.codec status f.number (s.frameSettings f)),
        { called c s f with stats := (s.countFallback f).stats.recordFailure }, h)
  | noBlock (n : Nat) (e : AllocationError) (hresult : (reply c s f).result = .ok n)
      (hgrants : a.block (written c s f n).size = false) :
      EncodesFrame c a s h f (.error (.allocation e), called c s f, h)
  | encoded (n : Nat) (b : Block) (h' : Heap) (hresult : (reply c s f).result = .ok n)
      (hn : n ≤ f.dataSize + c.maxOverhead)
      (hacquire : h.acquire a.block s.pool (written c s f n).size = (.ok b, h')) :
      EncodesFrame c a s h f (.ok (s.wrapped f b.index (written c s f n)), called c s f, h')

theorem encode_cases (c : Codec σ) (s : Stage σ) (f : Frame) :
    (∃ status, Fails c s f status ∧ s.encode c f (room c f) =
      (.error (.codec status f.number (s.frameSettings f)),
        { s with codecState := (reply c s f).state, stats := s.stats.recordFailure })) ∨
    ∃ n, (reply c s f).result = .ok n ∧ n ≤ f.dataSize + c.maxOverhead ∧
      s.encode c f (room c f) = (.ok (written c s f n), { s with codecState := (reply c s f).state }) := by
  have hroom : (room c f).size = f.dataSize + c.maxOverhead := Array.size_replicate
  unfold encode Fails written reply
  dsimp only
  cases hresult : (c.compress s.codecState (s.frameSettings f).params f.data (room c f)).result with
  | error status => exact .inl ⟨status, .inl rfl, rfl⟩
  | ok n =>
    by_cases hn : f.dataSize + c.maxOverhead < n
    · exact .inl ⟨.failure, .inr ⟨rfl, n, rfl, hn⟩, if_pos (hroom ▸ hn)⟩
    · exact .inr ⟨n, rfl, Nat.not_lt.mp hn, if_neg (hroom ▸ hn)⟩

theorem wrap_cases (grants : Grants) (s : Stage σ) (h : Heap) (f : Frame) (payload : Bytes) :
    (∃ e, grants payload.size = false ∧ s.wrap grants h f payload = (.error (.allocation e), h)) ∨
      ∃ b h', h.acquire grants s.pool payload.size = (.ok b, h') ∧
        s.wrap grants h f payload = (.ok (s.wrapped f b.index payload), h') := by
  have hcases := Frame.store_cases grants (s.labelled f) h payload
  unfold wrap
  unfold labelled at hcases
  dsimp only
  generalize Frame.store grants _ h payload = r at hcases ⊢
  cases hcases with
  | written b b' hb hwrite => cases hb
  | taken b h' hb hacquire => exact .inr ⟨b, h', hacquire, rfl⟩
  | refused e hgrants => exact .inl ⟨e, hgrants, rfl⟩

/-- For the codec it makes no difference whether the missing data type has been counted. -/
theorem encode_countFallback (c : Codec σ) (s : Stage σ) (f : Frame) :
    (∃ status, Fails c s f status ∧ (s.countFallback f).encode c f (room c f) =
      (.error (.codec status f.number (s.frameSettings f)),
        { called c s f with stats := (s.countFallback f).stats.recordFailure })) ∨
    ∃ n, (reply c s f).result = .ok n ∧ n ≤ f.dataSize + c.maxOverhead ∧
      (s.countFallback f).encode c f (room c f) = (.ok (written c s f n), called c s f) := by
  obtain ⟨hsettings, hstate⟩ := frameSettings_countFallback s f
  have hreply : reply c (s.countFallback f) f = reply c s f := by
    unfold reply
    rw [hsettings, hstate]
  have hencode := encode_cases c (s.countFallback f) f
  simpa only [Fails, written, called, hreply, hsettings] using hencode

theorem encodeFrame_cases (c : Codec σ) (a : Allocator) (s : Stage σ) (h : Heap) (f : Frame) :
    EncodesFrame c a s h f (s.encodeFrame c a h f) := by
  have hpool : (called c s f).pool = s.pool := by
    obtain ⟨n, hcount⟩ := countFallback_eq s f
    show (s.countFallback f).pool = s.pool
    rw [hcount]
  have hlabels : (called c s f).wrapped f = s.wrapped f := by
    unfold wrapped labelled
    rw [hpool]
  unfold encodeFrame zeroed
  by_cases hscratch : a.scratch (f.dataSize + c.maxOverhead) = true
  · rw [if_pos hscratch]
    rcases encode_countFallback c s f with ⟨status, hfails, hencode⟩ | ⟨n, hresult, hn, hencode⟩
    · unfold room at hencode
      dsimp only
      rw [hencode]
      exact .failed status hfails
    · unfold room at hencode
      dsimp only
      rw [hencode]
      dsimp only
      rcases wrap_cases a.block (called c s f) h f (written c s f n) with
        ⟨e, hgrants, hwrap⟩ | ⟨b, h', hacquire, hwrap⟩
      · rw [hwrap]
        exact .noBlock n e hresult hgrants
      · rw [hwrap, hlabels]
        exact .encoded n b h' hresult hn (hpool ▸ hacquire)
  · rw [if_neg hscratch]
    exact .noScratch _ (Bool.eq_false_iff.mpr hscratch)

/-- A frame is refused with its commit, or the committed stage encodes it. -/
theorem produce_cases (c : Codec σ) (a : Allocator) (s : Stage σ) (h : Heap) (f : Frame) :
    (∃ e, (s.commit c f.acquisition).1 = .error e ∧
      s.produce c a h f = (.error e, (s.commit c f.acquisition).2, h)) ∨
    (s.commit c f.acquisition).1 = .ok () ∧
      s.produce c a h f = (s.commit c f.acquisition).2.encodeFrame c a h f := by
  unfold produce
  cases hcommit : s.commit c f.acquisition with
  | mk result s' =>
    cases result with
    | error e => exact .inl ⟨e, rfl, rfl⟩
    | ok u => exact .inr ⟨rfl, rfl⟩

section Process
variable {τ : Type}

/-- All that can become of a frame and its result. -/
inductive Processes (c : Codec σ) (k : Sink τ) (a : Allocator) (s : Stage σ) (sink : τ) (h : Heap) (f : Frame) :
    Except StageError Frame × Stage σ × Heap × τ → Prop
  | failed (e : StageError) (s' : Stage σ) (h' : Heap) (hproduce : s.produce c a h f = (.error e, s', h')) :
      Processes c k a s sink h f (.error e, s', h', sink)
  | refused (out : Frame) (s' : Stage σ) (h' : Heap) (hproduce : s.produce c a h f = (.ok out, s', h'))
      (e : SinkError) (sink' : τ) (hpush : k.push sink out = (.error e, sink')) :
      Processes c k a s sink h f (.error (.downstream out.number), s', out.drop h', sink')
  | delivered (out : Frame) (s' : Stage σ) (h' : Heap) (hproduce : s.produce c a h f = (.ok out, s', h'))
      (sink' : τ) (hpush : k.push sink out = (.ok (), sink')) :
      Processes c k a s sink h f (.ok out, s'.recordFrame f out, h', sink')

theorem process_cases (c : Codec σ) (k : Sink τ) (a : Allocator) (s : Stage σ) (sink : τ) (h : Heap)
    (f : Frame) : Processes c k a s sink h f (s.process c k a sink h f) := by
  unfold process
  cases hproduce : s.produce c a h f with
  | mk result rest =>
    obtain ⟨s', h'⟩ := rest
    cases result with
    | error e => exact .failed e s' h' hproduce
    | ok out =>
      dsimp only
      cases hpush : k.push sink out with
      | mk answer sink' =>
        cases answer with
        | error e => exact .refused out s' h' hproduce e sink' hpush
        | ok u => exact .delivered out s' h' hproduce sink' hpush

/-- Of a sink that accepts everything nothing is left but the frame. -/
theorem process_accepted (c : Codec σ) (a : Allocator) (s : Stage σ) (h : Heap) (f : Frame) :
    s.process c (.answering true) a () h f =
      ((s.compress c a h f).1, (s.compress c a h f).2.1, (s.compress c a h f).2.2, ()) := by
  unfold compress process
  cases s.produce c a h f with
  | mk result rest =>
    obtain ⟨s', h'⟩ := rest
    cases result with
    | error e => rfl
    | ok out => rfl

end Process

/-! ## The commitment -/

theorem keeps_encodeFrame (hc : c.Steady) (a : Allocator) (s : Stage σ) (h : Heap) (f : Frame) :
    Keeps c s (s.encodeFrame c a h f).2.1 := by
  have hcount := keeps_countFallback c s f
  have hcalled : Keeps c s (called c s f) :=
    ⟨hcount.defaultTypeSize, hcount.commanded, hcount.active, hcount.binding, hcount.commits,
      hc.compressor _ _ _ _, hc.threads _ _ _ _⟩
  have hcases := encodeFrame_cases c a s h f
  generalize s.encodeFrame c a h f = r at hcases ⊢
  cases hcases with
  | noScratch e hgrants => exact hcount
  | failed status hfails => exact hcalled.trans ⟨rfl, rfl, rfl, rfl, rfl, rfl, rfl⟩
  | noBlock n e hresult hgrants => exact hcalled
  | encoded n b h' hresult hn hacquire => exact hcalled

theorem keeps_produce (hc : c.Steady) (a : Allocator) (s : Stage σ) (h : Heap) (f : Frame) :
    Keeps c (s.commit c f.acquisition).2 (s.produce c a h f).2.1 := by
  rcases produce_cases c a s h f with ⟨e, -, hproduce⟩ | ⟨-, hproduce⟩
  · rw [hproduce]
    exact .refl c _
  · rw [hproduce]
    exact keeps_encodeFrame hc a _ h f

theorem keeps_recordFrame (c : Codec σ) (s : Stage σ) (f out : Frame) : Keeps c s (s.recordFrame f out) :=
  ⟨rfl, rfl, rfl, rfl, rfl, rfl, rfl⟩

/-- A frame call leaves the stage as `produce` does, the frame counted if its result has left. -/
theorem process_state {τ : Type} (c : Codec σ) (k : Sink τ) (a : Allocator) (s : Stage σ) (sink : τ) (h : Heap)
    (f : Frame) : (s.process c k a sink h f).2.1 = (s.produce c a h f).2.1 ∨
      ∃ out, (s.produce c a h f).1 = .ok out ∧
        (s.process c k a sink h f).2.1 = (s.produce c a h f).2.1.recordFrame f out := by
  have hcases := process_cases c k a s sink h f
  generalize s.process c k a sink h f = r at hcases ⊢
  cases hcases with
  | failed e s' h' hproduce => exact .inl (by rw [hproduce])
  | refused out s' h' hproduce e sink' hpush => exact .inl (by rw [hproduce])
  | delivered out s' h' hproduce sink' hpush => exact .inr ⟨out, by rw [hproduce], by rw [hproduce]⟩

theorem compress_state (c : Codec σ) (a : Allocator) (s : Stage σ) (h : Heap) (f : Frame) :
    (s.compress c a h f).2.1 = (s.produce c a h f).2.1 ∨
      ∃ out, (s.produce c a h f).1 = .ok out ∧
        (s.compress c a h f).2.1 = (s.produce c a h f).2.1.recordFrame f out := by
  have hstate := process_state c (.answering true) a s () h f
  rw [process_accepted] at hstate
  exact hstate

end Stage
end FramePress
