import FramePress.Codec.Chunked
import FramePress.Codec.Scripted

/-! # What codecs promise of their selections

* `Codec.Lawful`: the promise; `Codec.Steady`: the part of it that speaks of compressing alone.
* `ChunkCodec.lawful`, `ScriptedCodec.lawful`: the chunk codec keeps it, and so does the scripted one.
* `Platform.Complete`: a platform on which the chunk codec is refused nothing that is in range.
-/

namespace FramePress
set_option autoImplicit false

/-- Accepted selections take effect and leave each other alone, and compressing changes none of them.
Nothing is said of a call that is refused. -/
structure Codec.Lawful {σ : Type} (c : Codec σ) : Prop where
  compressor_select : ∀ s x s', c.select s x = (.ok (), s') → c.compressor s' = x
  threads_select : ∀ s x s', c.select s x = (.ok (), s') → c.threads s' = c.threads s
  threads_setThreads : ∀ s n s', c.setThreads s n = (.ok (), s') → c.threads s' = n
  compressor_setThreads : ∀ s n s', c.setThreads s n = (.ok (), s') → c.compressor s' = c.compressor s
  compressor_compress : ∀ s p src dest,
    c.compressor (c.compress s p src dest).state = c.compressor s
  threads_compress : ∀ s p src dest, c.threads (c.compress s p src dest).state = c.threads s

/-- Compressing changes neither selection. -/
structure Codec.Steady {σ : Type} (c : Codec σ) : Prop where
  compressor : ∀ s p src dest, c.compressor (c.compress s p src dest).state = c.compressor s
  threads : ∀ s p src dest, c.threads (c.compress s p src dest).state = c.threads s

theorem Codec.Lawful.steady {σ : Type} {c : Codec σ} (hc : c.Lawful) : c.Steady :=
  ⟨hc.compressor_compress, hc.threads_compress⟩

/-! ## The chunk codec -/

namespace ChunkCodec

variable {pf : Platform} {s s' : ChunkCodec} {n : Nat} {c : Compressor}

theorem select_ok (h : select pf s c = (.ok (), s')) : s' = { s with compressor := c } := by
  unfold select at h
  split at h
  · cases h
    rfl
  · cases h

/-- Other threads come with other workers, and with nothing else. -/
theorem setThreads_ok (h : setThreads pf s n = (.ok (), s')) :
    ∃ workers, s' = { s with threads := n, workers := workers } := by
  unfold setThreads at h
  split at h
  · cases h
  · split at h
    · rename_i hsame
      cases h
      exact ⟨s.workers, by rw [hsame]⟩
    · split at h
      · cases h
        exact ⟨none, rfl⟩
      · split at h
        · cases h
        · rename_i w _
          cases h
          exact ⟨some w, rfl⟩

theorem state_compress (bs : Backends) (s : ChunkCodec) (p : Params) (src dest : Bytes) :
    (compress bs s p src dest).state = s := by
  unfold compress
  split <;> rfl

theorem lawful (bs : Backends) (pf : Platform) : (codec bs pf).Lawful where
  compressor_select _ _ _ h := by
    obtain rfl := select_ok h
    rfl
  threads_select _ _ _ h := by
    obtain rfl := select_ok h
    rfl
  threads_setThreads _ _ _ h := by
    obtain ⟨workers, rfl⟩ := setThreads_ok h
    rfl
  compressor_setThreads _ _ _ h := by
    obtain ⟨workers, rfl⟩ := setThreads_ok h
    rfl
  compressor_compress s p src dest := congrArg ChunkCodec.compressor (state_compress bs s p src dest)
  threads_compress s p src dest := congrArg ChunkCodec.threads (state_compress bs s p src dest)

end ChunkCodec

/-! ## Platforms -/

/-- Every compressor is available, and every pool of workers that can be asked for can be created. -/
structure Platform.Complete (pf : Platform) : Prop where
  isAvailable : ∀ c, pf.isAvailable c = true
  workers : ∀ n, 1 < n → n ≤ ChunkCodec.maxThreads → ∃ w, pf.workers? n = some w

namespace ChunkCodec

/-- On a complete platform a selection is refused only for the number of threads. -/
theorem select_of_complete {pf : Platform} (hpf : pf.Complete) (s : ChunkCodec) (c : Compressor) :
    select pf s c = (.ok (), { s with compressor := c }) := if_pos (hpf.isAvailable c)

theorem exists_setThreads {pf : Platform} (hpf : pf.Complete) {n : Nat} (hpos : 0 < n) (hle : n ≤ maxThreads)
    (s : ChunkCodec) : ∃ s', setThreads pf s n = (.ok (), s') := by
  unfold setThreads
  rw [if_neg (by omega)]
  by_cases hsame : n = s.threads
  · rw [if_pos hsame]
    exact ⟨s, rfl⟩
  · rw [if_neg hsame]
    by_cases hone : n = 1
    · rw [if_pos hone]
      exact ⟨_, rfl⟩
    · rw [if_neg hone]
      obtain ⟨w, hw⟩ := hpf.workers n (by omega) hle
      rw [hw]
      exact ⟨_, rfl⟩

end ChunkCodec

/-! ## The scripted codec -/

namespace ScriptedCodec

theorem select_ok {s s' : ScriptedCodec} {c : Compressor} (h : select s c = (.ok (), s')) :
    s' = { s.record (.select c) with compressor := c } := by
  unfold select at h
  dsimp only at h
  split at h
  · cases h
  · cases h
    rfl

theorem setThreads_ok {s s' : ScriptedCodec} {n : Nat} (h : setThreads s n = (.ok (), s')) :
    s' = { s.record (.setThreads n) with threads := n } := by
  unfold setThreads at h
  dsimp only at h
  split at h
  · cases h
  · cases h
    rfl

theorem state_compress (s : ScriptedCodec) (p : Params) (src dest : Bytes) :
    (compress s p src dest).state =
      s.record (.compress p s.compressor s.threads src.size dest.size) := by
  unfold compress
  dsimp only
  split <;> rfl

theorem lawful (maxOverhead maxThreads : Nat) : (codec maxOverhead maxThreads).Lawful where
  compressor_select _ _ _ h := by
    obtain rfl := select_ok h
    rfl
  threads_select _ _ _ h := by
    obtain rfl := select_ok h
    rfl
  threads_setThreads _ _ _ h := by
    obtain rfl := setThreads_ok h
    rfl
  compressor_setThreads _ _ _ h := by
    obtain rfl := setThreads_ok h
    rfl
  compressor_compress s p src dest := by
    show (compress s p src dest).state.compressor = s.compressor
    rw [state_compress]
    rfl
  threads_compress s p src dest := by
    show (compress s p src dest).state.threads = s.threads
    rw [state_compress]
    rfl

end ScriptedCodec
end FramePress
