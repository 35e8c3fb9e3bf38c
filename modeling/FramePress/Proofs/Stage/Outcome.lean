import FramePress.Proofs.Chunk.RoundTrip
import FramePress.Proofs.Stage.Sound

/-! # What becomes of a frame in a stage with the chunk codec

* `Backend.Total`, `Allocator.GrantsUpTo`: what is asked of the encoder and of the allocator.
* `Carries`: a frame whose payload is a chunk of the payload of another.
* `Outcome`: what can become of a frame, and no more; `produce_outcome`: this holds of sound stages.
* `produce_of_grant`: with enough memory, and a payload that is not too large, there is a result.
-/

namespace FramePress
set_option autoImplicit false

/-- The encoder never fails at a level that can be set. -/
def Backend.Total (b : Backend) : Prop :=
  ∀ level raw, 1 ≤ level → level ≤ 9 → ∃ packed, b.pack level raw = some packed

/-- All requests up to a limit are granted. -/
def Allocator.GrantsUpTo (a : Allocator) (limit : Nat) : Prop :=
  ∀ n ≤ limit, a.scratch n = true ∧ a.block n = true

namespace Stage

variable {bs : Backends} {pf : Platform} {s : Stage ChunkCodec}

/-! ## The result for a frame -/

/-- The labels of `f` on a chunk of its payload. -/
structure Carries (bs : Backends) (f out : Frame) : Prop where
  dataset : out.dataset = f.dataset
  acquisition : out.acquisition = f.acquisition
  number : out.number = f.number
  dataType : out.dataType = f.dataType
  dimensions : out.dimensions = f.dimensions
  size : out.data.size = out.dataSize
  size_ge : 16 ≤ out.dataSize
  size_le : out.dataSize ≤ f.data.size + 16
  content : Chunk.read bs out.data = .ok f.data

/-- All that can become of a frame: the result, and the stage after it. -/
inductive Outcome (bs : Backends) (s : Stage ChunkCodec) (f : Frame) :
    Except StageError Frame → Stage ChunkCodec → Prop
  | allocation (e : AllocationError) : Outcome bs s f (.error (.allocation e)) (s.countFallback f)
  | tooLarge (h : Chunk.maxSourceSize < f.data.size) (settings : Settings) :
      Outcome bs s f (.error (.codec .sourceTooLarge f.number settings))
        { s.countFallback f with stats := (s.countFallback f).stats.recordFailure }
  | carried (out : Frame) (h : Carries bs f out) : Outcome bs s f (.ok out) (s.countFallback f)

theorem typeSize_pos (h : Sound s) (f : Frame) : 0 < (s.frameSettings f).params.typeSize := by
  unfold frameSettings Settings.params
  dsimp only
  split
  · rename_i t _
    cases t <;> decide
  · exact h.defaultTypeSize

theorem params_level (h : Sound s) (f : Frame) :
    1 ≤ (s.frameSettings f).params.level ∧ (s.frameSettings f).params.level ≤ 9 :=
  ⟨h.active.minLevel_le, h.active.le_maxLevel⟩

/-! ## The codec's reply -/

/-- The codec of a sound stage has a chunk for every payload that is not too large. -/
theorem reply_ok (h : Sound s) (htotal : ∀ c, (bs c).Total) (hf : ∀ c, (bs c).Faithful) {f : Frame}
    (hsrc : f.data.size ≤ Chunk.maxSourceSize) :
    ∃ chunk, (reply (ChunkCodec.codec bs pf) s f).result = .ok chunk.size ∧
      written (ChunkCodec.codec bs pf) s f chunk.size = chunk ∧ Chunk.read bs chunk = .ok f.data ∧
        16 ≤ chunk.size ∧ chunk.size ≤ f.data.size + 16 := by
  obtain ⟨hlevel, hlevel'⟩ := params_level h f
  have hpack (raw : Bytes) : ∃ block, (bs s.codecState.compressor).pack
      (s.frameSettings f).params.level.toNat raw = some block :=
    htotal _ _ raw (by omega) (by omega)
  have hroom : Chunk.headerSize + f.data.size ≤ (room (ChunkCodec.codec bs pf) f).size := by
    have hle := f.size_data_le
    rw [room, Array.size_replicate]
    show 16 + _ ≤ f.dataSize + 16
    omega
  obtain ⟨chunk, hwrite⟩ := Chunk.exists_write ⟨by omega, hlevel'⟩ (typeSize_pos h f) hsrc hroom
    fun _ => hpack
  obtain ⟨hge, hle, -⟩ := Chunk.size_of_write hwrite
  have hreply : reply (ChunkCodec.codec bs pf) s f = _ := ChunkCodec.compress_of_write hwrite
  refine ⟨chunk, by rw [hreply], ?_, Chunk.read_of_write (hf _) hwrite, hge, ?_⟩
  · rw [written, hreply]
    exact Bytes.extract_overlay _ _
  · rw [Nat.add_comm]
    exact hle

theorem reply_tooLarge {f : Frame} (hsrc : Chunk.maxSourceSize < f.data.size) :
    (reply (ChunkCodec.codec bs pf) s f).result = .error .sourceTooLarge := by
  have hwrite : Chunk.write bs s.codecState.compressor (s.frameSettings f).params f.data
      (room (ChunkCodec.codec bs pf) f).size = .error .sourceTooLarge := by
    unfold Chunk.write
    rw [if_pos hsrc]
  have hreply : reply (ChunkCodec.codec bs pf) s f = _ :=
    ChunkCodec.compress_eq bs s.codecState (s.frameSettings f).params f.data _
  rw [hreply, hwrite]

/-- The chunk codec has no state that a compression changes. -/
theorem called_eq (bs : Backends) (pf : Platform) (s : Stage ChunkCodec) (f : Frame) :
    called (ChunkCodec.codec bs pf) s f = s.countFallback f := by
  have hstate : (reply (ChunkCodec.codec bs pf) s f).state = (s.countFallback f).codecState :=
    (ChunkCodec.state_compress bs _ _ _ _).trans (frameSettings_countFallback s f).2.symm
  unfold called
  rw [hstate]

/-! ## One frame -/

variable (htotal : ∀ c, (bs c).Total) (hf : ∀ c, (bs c).Faithful)
include htotal hf

theorem not_fails (hs : Sound s) {f : Frame} (hsrc : f.data.size ≤ Chunk.maxSourceSize) (status : Status) :
    ¬ Fails (ChunkCodec.codec bs pf) s f status := by
  obtain ⟨chunk, hresult, -, -, -, hle⟩ := reply_ok hs htotal hf hsrc
  rintro (herror | ⟨-, n, hn, hlt⟩)
  · rw [hresult] at herror
    cases herror
  · rw [hresult] at hn
    cases hn
    have hdata := f.size_data_le
    change f.dataSize + 16 < chunk.size at hlt
    omega

theorem encodeFrame_outcome (hs : Sound s) (a : Allocator) (h : Heap) (f : Frame) :
    Outcome bs s f (s.encodeFrame (ChunkCodec.codec bs pf) a h f).1
      (s.encodeFrame (ChunkCodec.codec bs pf) a h f).2.1 := by
  have hcases := encodeFrame_cases (ChunkCodec.codec bs pf) a s h f
  generalize s.encodeFrame (ChunkCodec.codec bs pf) a h f = r at hcases ⊢
  cases hcases with
  | noScratch e hgrants => exact .allocation e
  | failed status hfails =>
    rcases Nat.lt_or_ge Chunk.maxSourceSize f.data.size with hlarge | hsrc
    · rcases hfails with herror | ⟨-, n, hn, -⟩
      · rw [reply_tooLarge hlarge] at herror
        cases herror
        rw [called_eq]
        exact .tooLarge hlarge _
      · rw [reply_tooLarge hlarge] at hn
        cases hn
    · exact absurd hfails (not_fails htotal hf hs hsrc status)
  | noBlock n e hresult hgrants =>
    rw [called_eq]
    exact .allocation e
  | encoded n b h' hresult hn hacquire =>
    rw [called_eq]
    rcases Nat.lt_or_ge Chunk.maxSourceSize f.data.size with hlarge | hsrc
    · rw [reply_tooLarge hlarge] at hresult
      cases hresult
    · obtain ⟨chunk, hok, hwritten, hread, hge, hle⟩ := reply_ok hs htotal hf hsrc
      rw [hok] at hresult
      cases hresult
      rw [hwritten]
      have hdata : (s.wrapped f b.index chunk).data = chunk := Array.extract_size
      refine .carried _ ⟨rfl, rfl, rfl, rfl, rfl, congrArg Array.size hdata, hge, hle, ?_⟩
      rw [hdata]
      exact hread

theorem encodeFrame_of_grant (hs : Sound s) {a : Allocator} {f : Frame}
    (hg : a.GrantsUpTo (f.dataSize + 16))
    (hsrc : f.data.size ≤ Chunk.maxSourceSize) (h : Heap) :
    ∃ out, (s.encodeFrame (ChunkCodec.codec bs pf) a h f).1 = .ok out := by
  have hcases := encodeFrame_cases (ChunkCodec.codec bs pf) a s h f
  generalize s.encodeFrame (ChunkCodec.codec bs pf) a h f = r at hcases ⊢
  cases hcases with
  | noScratch e hgrants =>
    exact absurd (hg _ (Nat.le_refl _)).1 (Bool.eq_false_iff.mp hgrants)
  | failed status hfails => exact absurd hfails (not_fails htotal hf hs hsrc status)
  | noBlock n e hresult hgrants =>
    obtain ⟨chunk, hok, hwritten, -, -, hle⟩ := reply_ok hs htotal hf hsrc
    rw [hok] at hresult
    cases hresult
    have hdata := f.size_data_le
    rw [hwritten] at hgrants
    exact absurd (hg chunk.size (by omega)).2 (Bool.eq_false_iff.mp hgrants)
  | encoded n b h' hresult hn hacquire => exact ⟨_, rfl⟩

variable (hpf : pf.Complete)
include hpf

/-- A sound stage commits to any acquisition, and the rest is the outcome for a committed stage. -/
theorem produce_outcome (hs : Sound s) (a : Allocator) (h : Heap) (f : Frame) :
    Outcome bs (s.commit (ChunkCodec.codec bs pf) f.acquisition).2 f
      (s.produce (ChunkCodec.codec bs pf) a h f).1 (s.produce (ChunkCodec.codec bs pf) a h f).2.1 := by
  obtain ⟨hok, hsound⟩ := hs.commit hpf bs f.acquisition
  rcases produce_cases (ChunkCodec.codec bs pf) a s h f with ⟨e, herror, -⟩ | ⟨-, hproduce⟩
  · rw [hok] at herror
    cases herror
  · rw [hproduce]
    exact encodeFrame_outcome htotal hf hsound a h f

theorem produce_of_grant (hs : Sound s) {a : Allocator} {f : Frame}
    (hg : a.GrantsUpTo (f.dataSize + 16))
    (hsrc : f.data.size ≤ Chunk.maxSourceSize) (h : Heap) :
    ∃ out, (s.produce (ChunkCodec.codec bs pf) a h f).1 = .ok out ∧ Carries bs f out := by
  have houtcome := produce_outcome htotal hf hpf hs a h f
  obtain ⟨hok, hsound⟩ := hs.commit hpf bs f.acquisition
  rcases produce_cases (ChunkCodec.codec bs pf) a s h f with ⟨e, herror, -⟩ | ⟨-, hproduce⟩
  · rw [hok] at herror
    cases herror
  · obtain ⟨out, hout⟩ := encodeFrame_of_grant htotal hf hsound hg hsrc h
    rw [hproduce] at houtcome ⊢
    rw [hout] at houtcome
    generalize (encodeFrame _ a _ h f).2.1 = s' at houtcome
    cases houtcome with
    | carried _ hcarries => exact ⟨out, hout, hcarries⟩

end Stage
end FramePress
