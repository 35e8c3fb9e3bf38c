import FramePress.Proofs.Stage.Isolation
import FramePress.Proofs.Stage.Protocol
import Mathlib.Algebra.GroupWithZero.Nat

/-! # The telemetry of a stage tells its history

What a stage counts can be counted from the calls that bring it a frame: what comes back, whether the commit
has gone through, and what the stage is bound to before and after.  Counters are words, so the counts agree
modulo their size.

* `Visit`, `visits`: a call with a frame, and all of them in a run.
* `tally`: the counts of a history.
* `Counts`, `counts_process`: what one call adds to each counter.
* `telemetry_run`: the counters after any run.
-/

namespace FramePress
set_option autoImplicit false

attribute [ext] Telemetry

namespace Stage

variable {σ : Type} {c : Codec σ} {s : Stage σ}

/-! ## Histories -/

/-- The codec has failed on a frame, or has reported more bytes than there was room for. -/
def isCodecFailure : Except StageError Frame → Bool
  | .error (.codec _ _ _) => true
  | _ => false

/-- A call with a frame: how its commit and the call end, and the acquisition that the stage is bound to
before and after. -/
structure Visit where
  frame : Frame
  committed : Bool
  result : Except StageError Frame
  before : Option String
  after : Option String

namespace Visit

def output? (v : Visit) : Option Frame := v.result.toOption

def succeeds (v : Visit) : Bool := v.output?.isSome

/-- The call has bound the stage to the acquisition of its frame. -/
def binds (v : Visit) : Bool := v.before ≠ some v.frame.acquisition ∧ v.after = some v.frame.acquisition

end Visit

/-- The call for a frame that ends with the result `r` and leaves the stage `s'`. -/
def visit (c : Codec σ) (s : Stage σ) (f : Frame) (r : Except StageError Frame) (s' : Stage σ) : Visit where
  frame := f
  committed := (s.commit c f.acquisition).1.isOk
  result := r
  before := s.binding
  after := s'.binding

def visit? (c : Codec σ) (s : Stage σ) : Call → Option Visit
  | .process a accepted h f =>
    let r := s.process c (.answering accepted) a () h f
    some (visit c s f r.1 r.2.1)
  | .compress a h f =>
    let r := s.compress c a h f
    some (visit c s f r.1 r.2.1)
  | .configure _ | .status | .request => none

def visits (c : Codec σ) (s : Stage σ) : List Call → List Visit
  | [] => []
  | call :: calls => (visit? c s call).toList ++ visits c (step c s call) calls

def tally (history : List Visit) : Telemetry where
  frames := (history.countP Visit.succeeds).toUInt64
  failures := (history.countP fun v => isCodecFailure v.result).toUInt64
  emptyResults := (history.countP fun v => v.output?.any fun out => out.dataSize = 0).toUInt64
  typeFallbacks := (history.countP fun v => v.frame.dataType.isNone && v.committed).toUInt64
  bytesIn := ((history.filter Visit.succeeds).map fun v : Visit => v.frame.dataSize).sum.toUInt64
  bytesOut := ((history.filterMap Visit.output?).map Frame.dataSize).sum.toUInt64
  commits := (history.countP Visit.binds).toUInt64

/-! ## One more call -/

structure Counts (v : Visit) (t t' : Telemetry) : Prop where
  frames : t'.frames = t.frames + if v.succeeds then 1 else 0
  failures : t'.failures = t.failures + if isCodecFailure v.result then 1 else 0
  emptyResults : t'.emptyResults =
    t.emptyResults + if v.output?.any fun out => out.dataSize = 0 then 1 else 0
  typeFallbacks : t'.typeFallbacks =
    t.typeFallbacks + if v.frame.dataType.isNone && v.committed then 1 else 0
  bytesIn : t'.bytesIn = t.bytesIn + if v.succeeds then v.frame.dataSize.toUInt64 else 0
  bytesOut : t'.bytesOut = t.bytesOut + (v.output?.elim 0 Frame.dataSize).toUInt64
  commits : t'.commits = t.commits + if v.binds then 1 else 0

theorem countP_concat (p : Visit → Bool) (past : List Visit) (v : Visit) :
    ((past ++ [v]).countP p).toUInt64 = (past.countP p).toUInt64 + if p v then 1 else 0 := by
  rw [List.countP_append, List.countP_singleton]
  by_cases h : p v = true
  · rw [if_pos h, if_pos h]
    exact UInt64.ofNat_add _ 1
  · rw [if_neg h, if_neg h]
    exact UInt64.ofNat_add _ 0

theorem tally_concat {past : List Visit} {v : Visit} {t : Telemetry} (h : Counts v (tally past) t) :
    t = tally (past ++ [v]) := by
  refine Telemetry.ext ?_ ?_ ?_ ?_ ?_ ?_ ?_
  · exact h.frames.trans (countP_concat _ past v).symm
  · exact h.failures.trans (countP_concat _ past v).symm
  · exact h.emptyResults.trans (countP_concat _ past v).symm
  · exact h.typeFallbacks.trans (countP_concat _ past v).symm
  · refine h.bytesIn.trans ?_
    simp only [tally, List.filter_append, List.map_append, List.sum_append]
    by_cases hout : v.succeeds = true
    · rw [if_pos hout, List.filter_cons_of_pos hout]
      exact (UInt64.ofNat_add _ _).symm
    · rw [if_neg hout, List.filter_cons_of_neg hout]
      exact (UInt64.ofNat_add _ 0).symm
  · refine h.bytesOut.trans ?_
    simp only [tally, List.filterMap_append, List.map_append, List.sum_append]
    cases hout : v.output? with
    | none =>
      rw [List.filterMap_cons_none hout]
      exact (UInt64.ofNat_add _ 0).symm
    | some out =>
      rw [List.filterMap_cons_some hout]
      exact (UInt64.ofNat_add _ _).symm
  · exact h.commits.trans (countP_concat _ past v).symm

/-! ## The commit -/

theorem not_isCodecFailure_of_selectThreads {settings : Settings} {state state' : σ} {e : StageError}
    (h : selectThreads c settings state = (.error e, state')) : isCodecFailure (.error e) = false := by
  unfold selectThreads at h
  split at h
  · cases h
  · split at h
    · cases h
    · cases h
      rfl

theorem not_isCodecFailure_of_select {settings : Settings} {state state' : σ} {e : StageError}
    (h : select c settings state = (.error e, state')) : isCodecFailure (.error e) = false := by
  unfold select at h
  split at h
  · cases h
    rfl
  · exact not_isCodecFailure_of_selectThreads h

/-- What a commit does to the counters. -/
structure CountsCommit (s : Stage σ) (acquisition : String) (r : Except StageError Unit × Stage σ) : Prop where
  notCodec : ∀ e, r.1 = .error e → isCodecFailure (.error e) = false
  typeFallbacks : r.2.stats.typeFallbacks = s.stats.typeFallbacks
  commits : r.2.stats.commits =
    s.stats.commits + if decide (s.binding ≠ some acquisition ∧ r.2.binding = some acquisition) then 1 else 0

theorem counts_commit (c : Codec σ) (s : Stage σ) (acquisition : String) :
    CountsCommit s acquisition (s.commit c acquisition) := by
  have hcases := commit_cases c s acquisition
  generalize s.commit c acquisition = r at hcases ⊢
  cases hcases with
  | already h =>
    refine ⟨fun e he => (nomatch he), rfl, ?_⟩
    rw [decide_eq_false fun hboth => hboth.1 h]
    exact (UInt64.add_zero _).symm
  | accepted h state hselect =>
    refine ⟨fun e he => (nomatch he), rfl, ?_⟩
    rw [decide_eq_true ⟨h, rfl⟩]
    rfl
  | refused h e state hselect =>
    refine ⟨fun e' he' => ?_, rfl, ?_⟩
    · cases he'
      exact not_isCodecFailure_of_select hselect
    · rw [decide_eq_false fun hboth => (nomatch hboth.2)]
      exact (UInt64.add_zero _).symm

/-! ## The frame -/

/-- What a bound stage does to the counters for a frame. -/
structure CountsFrame (s : Stage σ) (f : Frame) (r : Except StageError Frame) (s' : Stage σ) : Prop where
  failures : s'.stats.failures = s.stats.failures + if isCodecFailure r then 1 else 0
  typeFallbacks : s'.stats.typeFallbacks = s.stats.typeFallbacks + if f.dataType.isNone then 1 else 0
  commits : s'.stats.commits = s.stats.commits
  binding : s'.binding = s.binding

theorem typeFallbacks_countFallback (s : Stage σ) (f : Frame) :
    (s.countFallback f).stats.typeFallbacks = s.stats.typeFallbacks + if f.dataType.isNone then 1 else 0 := by
  unfold countFallback
  by_cases h : f.dataType.isNone = true
  · rw [if_pos h, if_pos h]
    rfl
  · rw [if_neg h, if_neg h]
    exact (UInt64.add_zero _).symm

theorem counts_encodeFrame (c : Codec σ) (a : Allocator) (s : Stage σ) (h : Heap) (f : Frame) :
    CountsFrame s f (s.encodeFrame c a h f).1 (s.encodeFrame c a h f).2.1 := by
  have hfallbacks := typeFallbacks_countFallback s f
  have hkeeps := keeps_countFallback c s f
  have hfailures := (faults_countFallback s f).2
  have hnone : (s.countFallback f).stats.failures = s.stats.failures + 0 := by
    rw [hfailures, UInt64.add_zero]
  have hcases := encodeFrame_cases c a s h f
  generalize s.encodeFrame c a h f = r at hcases ⊢
  cases hcases with
  | noScratch e hgrants => exact ⟨hnone, hfallbacks, hkeeps.commits, hkeeps.binding⟩
  | failed status hfails =>
    exact ⟨congrArg (· + 1) hfailures, hfallbacks, hkeeps.commits, hkeeps.binding⟩
  | noBlock n e hresult hgrants => exact ⟨hnone, hfallbacks, hkeeps.commits, hkeeps.binding⟩
  | encoded n b h' hresult hn hacquire => exact ⟨hnone, hfallbacks, hkeeps.commits, hkeeps.binding⟩

/-- What a stage does to the counters before the result for a frame leaves it. -/
structure CountsProduce (v : Visit) (s s' : Stage σ) : Prop where
  failures : s'.stats.failures = s.stats.failures + if isCodecFailure v.result then 1 else 0
  typeFallbacks : s'.stats.typeFallbacks =
    s.stats.typeFallbacks + if v.frame.dataType.isNone && v.committed then 1 else 0
  commits : s'.stats.commits = s.stats.commits + if v.binds then 1 else 0

theorem counts_produce (c : Codec σ) (a : Allocator) (s : Stage σ) (h : Heap) (f : Frame) :
    CountsProduce (visit c s f (s.produce c a h f).1 (s.produce c a h f).2.1) s (s.produce c a h f).2.1 := by
  have hcommit := counts_commit c s f.acquisition
  have hfailures := (faults_commit c s f.acquisition).2
  rcases produce_cases c a s h f with ⟨e, he, hproduce⟩ | ⟨hok, hproduce⟩
  · rw [hproduce]
    unfold visit
    rw [he]
    constructor
    · show _ = _ + if isCodecFailure (.error e) then 1 else 0
      rw [hcommit.notCodec e he]
      exact hfailures.trans (UInt64.add_zero _).symm
    · show _ = _ + if f.dataType.isNone && false then 1 else 0
      rw [Bool.and_false]
      exact hcommit.typeFallbacks.trans (UInt64.add_zero _).symm
    · exact hcommit.commits
  · have hframe := counts_encodeFrame c a (s.commit c f.acquisition).2 h f
    rw [hproduce]
    unfold visit
    rw [hok]
    constructor
    · rw [hframe.failures, hfailures]
    · rw [hframe.typeFallbacks, hcommit.typeFallbacks]
      show _ = _ + if f.dataType.isNone && true then 1 else 0
      rw [Bool.and_true]
    · rw [hframe.commits, hcommit.commits, ← hframe.binding]
      rfl

/-! ## The result -/

section Result
variable {v : Visit} {s' : Stage σ}

theorem CountsProduce.of_error (h : CountsProduce v s s') (hspares : Spares s s') (hv : v.output? = none) :
    Counts v s.stats s'.stats := by
  have hsucceeds : v.succeeds = false := congrArg Option.isSome hv
  refine ⟨?_, h.failures, ?_, h.typeFallbacks, ?_, ?_, h.commits⟩
  · rw [hsucceeds]
    exact hspares.frames.trans (UInt64.add_zero _).symm
  · rw [hv]
    exact hspares.emptyResults.trans (UInt64.add_zero _).symm
  · rw [hsucceeds]
    exact hspares.bytesIn.trans (UInt64.add_zero _).symm
  · rw [hv]
    exact hspares.bytesOut.trans (UInt64.add_zero _).symm

theorem CountsProduce.of_output (h : CountsProduce v s s') (hspares : Spares s s') {out : Frame}
    (hv : v.output? = some out) : Counts v s.stats (s'.recordFrame v.frame out).stats := by
  have hsucceeds : v.succeeds = true := congrArg Option.isSome hv
  refine ⟨?_, h.failures, ?_, h.typeFallbacks, ?_, ?_, h.commits⟩
  · rw [hsucceeds]
    exact congrArg (· + 1) hspares.frames
  · rw [hv]
    show (if out.dataSize = 0 then s'.stats.emptyResults + 1 else s'.stats.emptyResults) =
      s.stats.emptyResults + if decide (out.dataSize = 0) then 1 else 0
    rw [hspares.emptyResults]
    by_cases hempty : out.dataSize = 0
    · rw [if_pos hempty, if_pos (decide_eq_true hempty)]
    · rw [if_neg hempty, if_neg (by simpa using hempty), UInt64.add_zero]
  · rw [hsucceeds]
    exact congrArg (· + v.frame.dataSize.toUInt64) hspares.bytesIn
  · rw [hv]
    exact congrArg (· + out.dataSize.toUInt64) hspares.bytesOut

theorem counts_process {τ : Type} (c : Codec σ) (k : Sink τ) (a : Allocator) (s : Stage σ) (sink : τ) (h : Heap)
    (f : Frame) : Counts (visit c s f (s.process c k a sink h f).1 (s.process c k a sink h f).2.1) s.stats
      (s.process c k a sink h f).2.1.stats := by
  have hspares := spares_produce c a s h f
  have hcounts := counts_produce c a s h f
  have hcases := process_cases c k a s sink h f
  generalize s.process c k a sink h f = r at hcases ⊢
  cases hcases with
  | failed e s' h' hproduce =>
    rw [hproduce] at hspares hcounts
    exact hcounts.of_error hspares rfl
  | refused out s' h' hproduce e sink' hpush =>
    rw [hproduce] at hspares hcounts
    -- For the counters a refused result is an error of the sink's.
    have hrefused : CountsProduce (visit c s f (.error (.downstream out.number)) s') s s' :=
      ⟨hcounts.failures, hcounts.typeFallbacks, hcounts.commits⟩
    exact hrefused.of_error hspares rfl
  | delivered out s' h' hproduce sink' hpush =>
    rw [hproduce] at hspares hcounts
    exact hcounts.of_output hspares rfl

end Result

/-! ## Runs -/

theorem stats_step (c : Codec σ) (s : Stage σ) (call : Call) :
    match visit? c s call with
    | some v => Counts v s.stats (step c s call).stats
    | none => (step c s call).stats = s.stats := by
  cases call with
  | configure message =>
    obtain ⟨commanded, hconfigure⟩ := configure_eq c s message
    show (s.configure c message).2.stats = s.stats
    rw [hconfigure]
  | status => rfl
  | request => rfl
  | process a accepted h f => exact counts_process c (.answering accepted) a s () h f
  | compress a h f =>
    have hcounts := counts_process c (.answering true) a s () h f
    rw [process_accepted] at hcounts
    exact hcounts

theorem tally_step {past : List Visit} (h : s.stats = tally past) (call : Call) :
    (step c s call).stats = tally (past ++ (visit? c s call).toList) := by
  have hstep := stats_step c s call
  cases hv : visit? c s call with
  | none =>
    rw [hv] at hstep
    rw [Option.toList_none, List.append_nil]
    exact hstep.trans h
  | some v =>
    rw [hv, h] at hstep
    exact tally_concat hstep

theorem tally_run {past : List Visit} (h : s.stats = tally past) (calls : List Call) :
    (run c s calls).stats = tally (past ++ visits c s calls) := by
  induction calls generalizing s past with
  | nil =>
    rw [visits, List.append_nil]
    exact h
  | cons call calls ih =>
    rw [visits, ← List.append_assoc]
    exact ih (tally_step h call)

theorem telemetry_run (hs : IsNew c s) (calls : List Call) :
    (run c s calls).stats = tally (visits c s calls) := by
  have hnil : s.stats = tally [] := hs.start.2
  exact tally_run hnil calls

/-- Three bytes of an acquisition, for a receiver that accepts them or not. -/
def byteFrame (acquisition : String) (accepted : Bool) : Call :=
  .process ⟨fun _ => true, fun _ => true⟩ accepted {}
    { dataset := "d", acquisition := acquisition, dataType := some .raw8, pool := 0,
      block := some ⟨0, #[1, 2, 3]⟩, dataSize := 3 }

/-- The second acquisition is refused at first, and then its result, which leaves only the commit. -/
theorem telemetry_run_mixed :
    let calls := [emptyFrame "a", byteFrame "a" true, threadsMessage 3, emptyFrame "b", threadsMessage 2,
      byteFrame "b" false]
    IsNew withoutThree.recorded newStage ∧
      (run withoutThree.recorded newStage calls).stats =
        { frames := 2, emptyResults := 1, typeFallbacks := 1, bytesIn := 3, bytesOut := 3, commits := 2 } ∧
      (run withoutThree.recorded newStage calls).stats =
        tally (visits withoutThree.recorded newStage calls) := by
  intro calls
  have hcreate : create withoutThree.recorded (⟨{ rejectThreads := some 3 }, .lz4, 0, []⟩, []) "stage" 0 =
      .ok newStage := rfl
  have hs : IsNew withoutThree.recorded newStage := .create hcreate
  exact ⟨hs, by rfl, telemetry_run hs calls⟩

end Stage
end FramePress
