import FramePress.Proofs.Stage.Commit
import FramePress.Stage.Line

/-! # Failures of a frame stay with it

A frame can fail at its commit, for want of memory, in the codec or at the sink.  Each time all that remains
is what the commit has done, and the sink has accepted nothing.

* `Spares`: what no frame touches before its result has left the stage.
* `outstanding_process`: an error leaves no block missing in any pool.
* `Sink.recorded`: a sink with a record of the frames that it has accepted.
* `process_recorded`, `queue_process`: a call adds its result to the record of a sink, and to the queue of a
  channel, if it has one.
* `Isolated`, `isolated`: what holds of every call, with any sink, and on a line.
-/

namespace FramePress
set_option autoImplicit false

/-! ## What a sink has accepted -/

/-- A sink with a record of the frames that it has accepted, the oldest first. -/
def Sink.recorded {τ : Type} (k : Sink τ) : Sink (τ × List Frame) where
  push := fun (sink, taken) f =>
    match k.push sink f with
    | (.ok _, sink) => (.ok (), sink, taken ++ [f])
    | (.error e, sink) => (.error e, sink, taken)

/-- A channel accepts frames as long as there is a receiver, and what it accepts waits in its queue. -/
theorem Channel.push_cases (ch : Channel) (f : Frame) :
    ch.isConnected = true ∧ sink.push ch f = (.ok (), { ch with queue := ch.queue ++ [f] }) ∨
      ch.isConnected = false ∧ sink.push ch f = (.error {}, ch) := by
  by_cases hconnected : ch.isConnected = true
  · exact .inl ⟨hconnected, if_pos hconnected⟩
  · exact .inr ⟨Bool.eq_false_iff.mpr hconnected, if_neg hconnected⟩

theorem Channel.push_ok_iff {ch : Channel} {f : Frame} :
    (sink.push ch f).1 = .ok () ↔ ch.isConnected = true := by
  rcases ch.push_cases f with ⟨hconnected, hpush⟩ | ⟨hconnected, hpush⟩
  · rw [hpush, hconnected, iff_true_right rfl]
  · rw [hpush, hconnected]
    exact ⟨fun hok => (nomatch hok), fun htrue => (nomatch htrue)⟩

namespace Stage

variable {σ : Type} {c : Codec σ} {s : Stage σ} {a : Allocator} {h : Heap} {f : Frame}

/-! ## What is spared -/

/-- The commanded settings and the counters of delivered frames are the same. -/
structure Spares (s s' : Stage σ) : Prop where
  commanded : s'.commanded = s.commanded
  frames : s'.stats.frames = s.stats.frames
  bytesIn : s'.stats.bytesIn = s.stats.bytesIn
  bytesOut : s'.stats.bytesOut = s.stats.bytesOut
  emptyResults : s'.stats.emptyResults = s.stats.emptyResults

theorem Spares.trans {s s' s'' : Stage σ} (h : Spares s s') (h' : Spares s' s'') : Spares s s'' :=
  ⟨h'.commanded.trans h.commanded, h'.frames.trans h.frames, h'.bytesIn.trans h.bytesIn,
    h'.bytesOut.trans h.bytesOut, h'.emptyResults.trans h.emptyResults⟩

theorem spares_commit (c : Codec σ) (s : Stage σ) (acquisition : String) :
    Spares s (s.commit c acquisition).2 := by
  have hcases := commit_cases c s acquisition
  generalize s.commit c acquisition = r at hcases ⊢
  cases hcases with
  | already hbound => exact ⟨rfl, rfl, rfl, rfl, rfl⟩
  | accepted hne state hselect => exact ⟨rfl, rfl, rfl, rfl, rfl⟩
  | refused hne e state hselect => exact ⟨rfl, rfl, rfl, rfl, rfl⟩

theorem spares_countFallback (s : Stage σ) (f : Frame) : Spares s (s.countFallback f) := by
  obtain ⟨n, hcount⟩ := countFallback_eq s f
  rw [hcount]
  exact ⟨rfl, rfl, rfl, rfl, rfl⟩

theorem spares_encodeFrame (c : Codec σ) (a : Allocator) (s : Stage σ) (h : Heap) (f : Frame) :
    Spares s (s.encodeFrame c a h f).2.1 := by
  have hcount := spares_countFallback s f
  have hcases := encodeFrame_cases c a s h f
  generalize s.encodeFrame c a h f = r at hcases ⊢
  cases hcases with
  | noScratch e hgrants => exact hcount
  | failed status hfails => exact hcount.trans ⟨rfl, rfl, rfl, rfl, rfl⟩
  | noBlock n e hresult hgrants => exact hcount.trans ⟨rfl, rfl, rfl, rfl, rfl⟩
  | encoded n b h' hresult hn hacquire => exact hcount.trans ⟨rfl, rfl, rfl, rfl, rfl⟩

theorem spares_produce (c : Codec σ) (a : Allocator) (s : Stage σ) (h : Heap) (f : Frame) :
    Spares s (s.produce c a h f).2.1 := by
  have hcommit := spares_commit c s f.acquisition
  rcases produce_cases c a s h f with ⟨e, -, hproduce⟩ | ⟨-, hproduce⟩
  · rw [hproduce]
    exact hcommit
  · rw [hproduce]
    exact hcommit.trans (spares_encodeFrame c a _ h f)

/-! ## Blocks -/

theorem heap_of_produce_error {s' : Stage σ} {h' : Heap} {e : StageError}
    (hproduce : s.produce c a h f = (.error e, s', h')) : h' = h := by
  rcases produce_cases c a s h f with ⟨e', -, hrefused⟩ | ⟨-, hencode⟩
  · rw [hproduce] at hrefused
    cases hrefused
    rfl
  · cases (hencode.symm.trans hproduce) ▸ encodeFrame_cases c a (s.commit c f.acquisition).2 h f with
    | noScratch e hgrants => rfl
    | failed status hfails => rfl
    | noBlock n e hresult hgrants => rfl

/-- A result fills a block of the stage's pool with what the codec has written. -/
theorem produce_ok {s' : Stage σ} {h' : Heap} {out : Frame}
    (hproduce : s.produce c a h f = (.ok out, s', h')) :
    ∃ n b, let bound := (s.commit c f.acquisition).2
      (reply c bound f).result = .ok n ∧ n ≤ f.dataSize + c.maxOverhead ∧
        h.acquire a.block bound.pool (written c bound f n).size = (.ok b, h') ∧
        out = bound.wrapped f b.index (written c bound f n) := by
  rcases produce_cases c a s h f with ⟨e, -, hrefused⟩ | ⟨-, hencode⟩
  · rw [hproduce] at hrefused
    cases hrefused
  · cases (hencode.symm.trans hproduce) ▸ encodeFrame_cases c a (s.commit c f.acquisition).2 h f with
    | encoded n b h' hresult hn hacquire => exact ⟨n, b, hresult, hn, hacquire, rfl⟩

/-! ## Calls that end in an error -/

section Error
variable {τ : Type} {k : Sink τ} {sink sink' : τ} {s' : Stage σ} {h' : Heap} {e : StageError}

/-- After an error as many blocks of every pool are in use as before. -/
theorem outstanding_process (hprocess : s.process c k a sink h f = (.error e, s', h', sink')) (id : PoolId) :
    (h'.pool id).outstanding = (h.pool id).outstanding := by
  cases hprocess ▸ process_cases c k a s sink h f with
  | failed e s' h' hproduce => rw [heap_of_produce_error hproduce]
  | refused out s' h' hproduce e sink' hpush =>
    obtain ⟨n, b, -, -, hacquire, rfl⟩ := produce_ok hproduce
    exact Heap.outstanding_release_acquire hacquire _ id

theorem state_of_process_error (hprocess : s.process c k a sink h f = (.error e, s', h', sink')) :
    s' = (s.produce c a h f).2.1 := by
  cases hprocess ▸ process_cases c k a s sink h f with
  | failed e s' h' hproduce => rw [hproduce]
  | refused out s' h' hproduce e sink' hpush => rw [hproduce]

theorem process_of_refused (k : Sink τ) (sink : τ) (hcommit : (s.commit c f.acquisition).1 = .error e) :
    s.process c k a sink h f = (.error e, (s.commit c f.acquisition).2, h, sink) := by
  rcases produce_cases c a s h f with ⟨e', he, hproduce⟩ | ⟨hok, -⟩
  · rw [hcommit] at he
    cases he
    unfold process
    rw [hproduce]
  · rw [hcommit] at hok
    cases hok

theorem commit_of_bound (hbound : s.binding = some f.acquisition) :
    s.commit c f.acquisition = (.ok (), s) := by
  unfold commit
  rw [if_pos hbound]

theorem commit_error {acquisition : String} (hcommit : (s.commit c acquisition).1 = .error e) :
    (s.commit c acquisition).2.active = s.active ∧ (s.commit c acquisition).2.binding = none := by
  have hcases := commit_cases c s acquisition
  generalize s.commit c acquisition = r at hcases hcommit ⊢
  cases hcases with
  | already hbound => cases hcommit
  | accepted hne state hselect => cases hcommit
  | refused hne e state hselect => exact ⟨rfl, rfl⟩

end Error

/-! ## Calls and what the sink has accepted -/

section Taken
variable {τ : Type}

/-- The record is all that it adds to a call, and it grows by the result. -/
theorem process_recorded (c : Codec σ) (k : Sink τ) (a : Allocator) (s : Stage σ) (sink : τ)
    (taken : List Frame) (h : Heap) (f : Frame) :
    s.process c k.recorded a (sink, taken) h f =
      let r := s.process c k a sink h f
      (r.1, r.2.1, r.2.2.1, r.2.2.2, taken ++ r.1.toOption.toList) := by
  have hcases := process_cases c k a s sink h f
  generalize s.process c k a sink h f = r at hcases ⊢
  unfold process Sink.recorded
  cases hcases with
  | failed e s' h' hproduce =>
    rw [hproduce]
    simp [Except.toOption]
  | refused out s' h' hproduce e sink' hpush =>
    rw [hproduce]
    simp [hpush, Except.toOption]
  | delivered out s' h' hproduce sink' hpush =>
    rw [hproduce]
    simp [hpush, Except.toOption]

theorem queue_process (c : Codec σ) (a : Allocator) (s : Stage σ) (ch : Channel) (h : Heap) (f : Frame) :
    let r := s.process c Channel.sink a ch h f
    r.2.2.2.queue = ch.queue ++ r.1.toOption.toList := by
  have hcases := process_cases c Channel.sink a s ch h f
  generalize s.process c Channel.sink a ch h f = r at hcases ⊢
  cases hcases with
  | failed e s' h' hproduce => exact (List.append_nil _).symm
  | refused out s' h' hproduce e ch' hpush =>
    rcases ch.push_cases out with ⟨-, haccepts⟩ | ⟨-, hrefuses⟩
    · rw [hpush] at haccepts
      cases haccepts
    · rw [hpush] at hrefuses
      cases hrefuses
      exact (List.append_nil _).symm
  | delivered out s' h' hproduce ch' hpush =>
    rcases ch.push_cases out with ⟨-, haccepts⟩ | ⟨-, hrefuses⟩
    · rw [hpush] at haccepts
      cases haccepts
      rfl
    · rw [hpush] at hrefuses
      cases hrefuses

/-! ## Calls -/

/-- What holds of the call for a frame that ends with `result`.  Before it there are the stage `s`, the heap
`h` and the frames `taken` that the sink has accepted; after it there are `s'`, `h'` and `taken'`. -/
structure Isolated (c : Codec σ) (f : Frame) (s : Stage σ) (h : Heap) (taken : List Frame)
    (result : Except StageError Unit) (s' : Stage σ) (h' : Heap) (taken' : List Frame) : Prop where
  /-- A call succeeds exactly if the sink has accepted one more frame. -/
  ok_iff : result = .ok () ↔ ∃ out, taken' = taken ++ [out]
  /-- Its payload is what the codec has written, no more than there was room for. -/
  payload : ∀ out, taken' = taken ++ [out] →
    ∃ n, let r := reply c (s.commit c f.acquisition).2 f
      r.result = .ok n ∧ n ≤ f.dataSize + c.maxOverhead ∧ out.data = r.dest.extract 0 n ∧
        out.dataSize = out.data.size
  /-- After an error the sink has accepted nothing, and no block is missing. -/
  failed : ∀ e, result = .error e →
    taken' = taken ∧ Spares s s' ∧ ∀ id, (h'.pool id).outstanding = (h.pool id).outstanding
  refused : ∀ e, (s.commit c f.acquisition).1 = .error e →
    result = .error e ∧ s'.active = s.active ∧ s'.binding = none
  /-- Once the stage is bound to the acquisition, errors do not change what it is bound to. -/
  bound : ∀ e, result = .error e → s.binding = some f.acquisition →
    s'.active = s.active ∧ s'.binding = s.binding ∧
      c.compressor s'.codecState = c.compressor s.codecState ∧
      c.threads s'.codecState = c.threads s.codecState

section Isolated
variable {k : Sink τ} {sink sink' : τ} {s' : Stage σ} {h' : Heap} {e : StageError} {out : Frame}

theorem isolated_of_error (hc : c.Steady) (hprocess : s.process c k a sink h f = (.error e, s', h', sink'))
    (taken : List Frame) : Isolated c f s h taken (.error e) s' h' taken := by
  have hproduce := state_of_process_error hprocess
  have hne (out : Frame) : taken ≠ taken ++ [out] := by simp
  constructor
  · exact ⟨fun hok => (nomatch hok), fun ⟨out, hout⟩ => absurd hout (hne out)⟩
  · exact fun out hout => absurd hout (hne out)
  · refine fun _ _ => ⟨rfl, ?_, outstanding_process hprocess⟩
    rw [hproduce]
    exact spares_produce c a s h f
  · intro e' hcommit
    cases hprocess.symm.trans (process_of_refused k sink hcommit)
    exact ⟨rfl, commit_error hcommit⟩
  · intro _ _ hbound
    have hkeeps := keeps_produce hc a s h f
    rw [commit_of_bound hbound, ← hproduce] at hkeeps
    exact ⟨hkeeps.active, hkeeps.binding, hkeeps.compressor, hkeeps.threads⟩

theorem isolated_of_ok (hprocess : s.process c k a sink h f = (.ok out, s', h', sink')) (taken : List Frame) :
    Isolated c f s h taken (.ok ()) s' h' (taken ++ [out]) := by
  constructor
  · exact ⟨fun _ => ⟨out, rfl⟩, fun _ => rfl⟩
  · intro out' hout
    obtain rfl : out = out' := List.singleton_inj.mp (List.append_cancel_left hout)
    cases hprocess ▸ process_cases c k a s sink h f with
    | delivered out s' h' hproduce sink' hpush =>
      obtain ⟨n, b, hresult, hn, -, rfl⟩ := produce_ok hproduce
      exact ⟨n, hresult, hn, Array.extract_size, congrArg Array.size Array.extract_size.symm⟩
  · exact fun e he => (nomatch he)
  · intro e hcommit
    cases hprocess.symm.trans (process_of_refused k sink hcommit)
  · exact fun e he => (nomatch he)

end Isolated

variable (k : Sink τ) (a : Allocator) (s : Stage σ) (sink : τ) (h : Heap) (f : Frame)

theorem isolated_process (hc : c.Steady) (taken : List Frame) :
    let r := s.process c k a sink h f
    Isolated c f s h taken (r.1.map fun _ => ()) r.2.1 r.2.2.1 (taken ++ r.1.toOption.toList) := by
  cases hprocess : s.process c k a sink h f with
  | mk result rest =>
    obtain ⟨s', h', sink'⟩ := rest
    cases result with
    | error e =>
      show Isolated c f s h taken (.error e) s' h' (taken ++ [])
      rw [List.append_nil]
      exact isolated_of_error hc hprocess taken
    | ok out => exact isolated_of_ok hprocess taken

/-- A call succeeds exactly if there is a result and the sink accepts it. -/
theorem process_ok_iff {out : Frame} : (s.process c k a sink h f).1 = .ok out ↔
    (s.produce c a h f).1 = .ok out ∧ (k.push sink out).1 = .ok () := by
  have hcases := process_cases c k a s sink h f
  generalize s.process c k a sink h f = r at hcases ⊢
  cases hcases with
  | failed e s' h' hproduce =>
    rw [hproduce]
    exact ⟨fun hout => (nomatch hout), fun hboth => (nomatch hboth.1)⟩
  | refused out' s' h' hproduce e sink' hpush =>
    rw [hproduce]
    refine ⟨fun hout => (nomatch hout), fun ⟨hout, haccepted⟩ => ?_⟩
    cases hout
    rw [hpush] at haccepted
    cases haccepted
  | delivered out' s' h' hproduce sink' hpush =>
    rw [hproduce]
    refine ⟨fun hout => ?_, fun hboth => hboth.1⟩
    cases hout
    exact ⟨rfl, congrArg Prod.fst hpush⟩

end Taken

/-! ## Lines -/

/-- How a call for a frame is reported. -/
def outcome : Except StageError Unit → Line.Result
  | .ok _ => .done
  | .error e => .failed e

/-- What holds of the call for a frame on a line.  Its input is dropped at the end. -/
structure OnLine (c : Codec σ) (a : Allocator) (l : Line σ) (f : Frame) : Prop where
  isolated : ∃ result h', (l.process c a f).1 = outcome result ∧ (l.process c a f).2.heap = f.drop h' ∧
    Isolated c f l.stage l.heap l.queue result (l.process c a f).2.stage h' (l.process c a f).2.queue
  /-- A call succeeds exactly if there is a result and someone to receive it. -/
  done_iff : (l.process c a f).1 = .done ↔
    l.isConnected = true ∧ ∃ out, (l.stage.produce c a l.heap f).1 = .ok out
  disconnected : l.isConnected = false →
    (∃ e, (l.process c a f).1 = .failed e) ∧ (l.process c a f).2.queue = l.queue

/-- A call on a line ends as the call of the stage does. -/
theorem line_process_eq (c : Codec σ) (a : Allocator) (l : Line σ) (f : Frame) :
    l.process c a f =
      let r := l.stage.process c Channel.sink a l.channel l.heap f
      (outcome (r.1.map fun _ => ()), ⟨r.2.1, f.drop r.2.2.1, r.2.2.2⟩) := by
  unfold Line.process
  cases l.stage.process c Channel.sink a l.channel l.heap f with
  | mk result rest =>
    cases result with
    | error e => rfl
    | ok out => rfl

theorem outcome_eq_done {r : Except StageError Frame} :
    outcome (r.map fun _ => ()) = .done ↔ ∃ out, r = .ok out := by
  cases r with
  | error e => exact ⟨fun hdone => (nomatch hdone), fun ⟨out, hout⟩ => (nomatch hout)⟩
  | ok out => exact ⟨fun _ => ⟨out, rfl⟩, fun _ => rfl⟩

theorem onLine (hc : c.Steady) (a : Allocator) (l : Line σ) (f : Frame) : OnLine c a l f := by
  have hline := line_process_eq c a l f
  have hqueue : (l.process c a f).2.queue = _ :=
    (congrArg (fun r => r.2.queue) hline).trans (queue_process c a l.stage l.channel l.heap f)
  have hdone : (l.process c a f).1 = .done ↔
      l.isConnected = true ∧ ∃ out, (l.stage.produce c a l.heap f).1 = .ok out := by
    rw [hline, outcome_eq_done]
    simp only [process_ok_iff, Channel.push_ok_iff]
    exact ⟨fun ⟨out, hout, hconnected⟩ => ⟨hconnected, out, hout⟩,
      fun ⟨hconnected, out, hout⟩ => ⟨out, hout, hconnected⟩⟩
  obtain ⟨result, h', hresult, hheap, hisolated⟩ : ∃ result h', (l.process c a f).1 = outcome result ∧
      (l.process c a f).2.heap = f.drop h' ∧
        Isolated c f l.stage l.heap l.queue result (l.process c a f).2.stage h' (l.process c a f).2.queue := by
    refine ⟨_, _, congrArg Prod.fst hline, congrArg (fun r => r.2.heap) hline, ?_⟩
    rw [hqueue, hline]
    exact isolated_process Channel.sink a l.stage l.channel l.heap f hc l.queue
  refine ⟨⟨result, h', hresult, hheap, hisolated⟩, hdone, fun hconnected => ?_⟩
  cases result with
  | error e => exact ⟨⟨e, hresult⟩, (hisolated.failed e rfl).1⟩
  | ok u =>
    have htrue := (hdone.mp hresult).1
    rw [hconnected] at htrue
    cases htrue

/-- Whatever the sink is, and on a line, where it is a channel. -/
theorem isolated (hc : c.Steady) (a : Allocator) (f : Frame) :
    (∀ {τ : Type} (k : Sink τ) (s : Stage σ) (sink : τ) (taken : List Frame) (h : Heap),
      let r := s.process c k a sink h f
      Isolated c f s h taken (r.1.map fun _ => ()) r.2.1 r.2.2.1
          (s.process c k.recorded a (sink, taken) h f).2.2.2.2 ∧
        ∀ out, r.1 = .ok out ↔ (s.produce c a h f).1 = .ok out ∧ (k.push sink out).1 = .ok ()) ∧
      ∀ l : Line σ, OnLine c a l f := by
  refine ⟨fun k s sink taken h => ?_, fun l => onLine hc a l f⟩
  have hisolated := isolated_process k a s sink h f hc taken
  rw [process_recorded]
  exact ⟨hisolated, fun out => process_ok_iff k a s sink h f⟩

/-! ## Two refusals -/

/-- A stage whose codec claims one byte more than it has room for, bound to an acquisition. -/
def excessLine : Line ScriptedCodec where
  stage :=
    { name := "stage", pool := 0, binding := some "a", codecState := { script := { excess := some 1 } } }
  heap := { pools := [{ name := "pool" }] }

/-- A stage whose codec copies, without a receiver; one block of its pool is in use. -/
def deafLine : Line ScriptedCodec where
  stage := { name := "stage", pool := 0, codecState := { script := {} } }
  heap := { pools := [{ name := "pool", total := 1 }], next := 1 }
  channel := { isConnected := false }

/-- Three bytes in that block. -/
def threeBytes : Frame where
  dataset := "d"
  acquisition := "a"
  block := some ⟨0, #[1, 2, 3]⟩
  dataSize := 3
  pool := 0

/-- All memory is granted. -/
def grantAll : Allocator := ⟨fun _ => true, fun _ => true⟩

/-- The first line fails in the codec.  On the second the sink refuses the result, whose block is free again at
the end, like that of the input. -/
theorem isolated_refusals :
    (ScriptedCodec.codec 16 8).Steady ∧
      (excessLine.process (ScriptedCodec.codec 16 8) grantAll threeBytes).1 =
        .failed (.codec .failure 0 { rawSize := 3, typeSize := FramePress.defaultTypeSize }) ∧
      ((deafLine.stage.produce (ScriptedCodec.codec 16 8) grantAll deafLine.heap threeBytes).2.2.pool
        0).outstanding = 2 ∧
      (deafLine.process (ScriptedCodec.codec 16 8) grantAll threeBytes).1 = .failed (.downstream 0) ∧
      (deafLine.process (ScriptedCodec.codec 16 8) grantAll threeBytes).2.queue = [] ∧
      (deafLine.process (ScriptedCodec.codec 16 8) grantAll threeBytes).2.heap.pools =
        [{ name := "pool", free := [⟨1, #[1, 2, 3]⟩, ⟨0, #[1, 2, 3]⟩], total := 2, misses := 1 }] ∧
      OnLine (ScriptedCodec.codec 16 8) grantAll excessLine threeBytes ∧
      OnLine (ScriptedCodec.codec 16 8) grantAll deafLine threeBytes := by
  have hc : (ScriptedCodec.codec 16 8).Steady := (ScriptedCodec.lawful 16 8).steady
  obtain ⟨-, hlines⟩ := isolated hc grantAll threeBytes
  exact ⟨hc, rfl, by decide +kernel, rfl, by decide +kernel, by decide +kernel, hlines excessLine,
    hlines deafLine⟩

end Stage
end FramePress
