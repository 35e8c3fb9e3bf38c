import FramePress.Proofs.Settings.Sequence
import FramePress.Proofs.Stage.Isolation
import FramePress.Proofs.Stage.Run

/-! # Reports that are sent back

What a stage reports is a message that every stage with as many threads takes as it is: the settings of a stage
never leave their ranges, and inside them each number is its own ruling.

* `Reachable`, `Ranged`: stages after any calls, and where their settings are; `Reachable.ranged`.
* `find?_report`, `key_of_report`: the four entries of a report.
* `update_of_values`: a message that asks for settings in their ranges.
* `Adopts`, `resubmission`: what becomes of a report that is sent to another stage, or back.
-/

namespace FramePress
set_option autoImplicit false

/-! ## Messages that ask for settings in their ranges -/

namespace Settings
variable {maxThreads : Nat} {r : Settings} {u : Dictionary Json}

theorem ruling_of_admissible {f : Field} {n : Int} (h : Admissible maxThreads f n) (current : Int) :
    ruling maxThreads f current (some (.integer n)) = (n, none) := by
  unfold ruling
  dsimp only
  rw [asked?_of_admissible h]
  dsimp only
  rw [if_pos h]

theorem update_of_values (hr : r.InRange maxThreads)
    (hu : ∀ f : Field, u.find? f.key = some (.integer (r.value f))) (s : Settings) :
    s.update u maxThreads = ({ r with typeSize := s.typeSize, rawSize := s.rawSize }, {}) := by
  have htaken (f : Field) : ((s.update u maxThreads).1.value f, (s.update u maxThreads).2.find? f.key) =
      (r.value f, none) := by
    rw [update_eq_ruling, hu, ruling_of_admissible (admissible_value hr f)]
  have hvalue : (s.update u maxThreads).1 = { r with typeSize := s.typeSize, rawSize := s.rawSize } :=
    ext_value rfl rfl fun f => (Prod.mk.inj (htaken f)).1
  have hentries : (s.update u maxThreads).2.entries = [] := by
    refine Dictionary.eq_nil_of_find? fun key => Option.eq_none_iff_forall_ne_some.mpr fun w hw => ?_
    -- a warning would be about one of the fields
    obtain ⟨f, rfl⟩ := warningKeys_update u key w hw
    have hnone : (s.update u maxThreads).2.entries.find? (Warnings.key f.key) = none := (Prod.mk.inj (htaken f)).2
    rw [hnone] at hw
    cases hw
  exact Prod.ext hvalue (congrArg Warnings.mk hentries)

end Settings

namespace Stage

variable {σ τ : Type} {c : Codec σ} {s : Stage σ}

/-! ## Where the settings are -/

/-- The stage is led to by some calls from a stage as it is built. -/
def Reachable (c : Codec σ) (s : Stage σ) : Prop := ∃ s₀ calls, IsNew c s₀ ∧ run c s₀ calls = s

structure Ranged (maxThreads : Nat) (s : Stage σ) : Prop where
  commanded : s.commanded.InRange maxThreads
  active : s.active.InRange maxThreads

theorem active_encodeFrame (c : Codec σ) (a : Allocator) (s : Stage σ) (h : Heap) (f : Frame) :
    (s.encodeFrame c a h f).2.1.active = s.active := by
  obtain ⟨n, hcount⟩ := countFallback_eq s f
  have hfallback : (s.countFallback f).active = s.active := by rw [hcount]
  have hcases := encodeFrame_cases c a s h f
  generalize s.encodeFrame c a h f = r at hcases ⊢
  cases hcases with
  | noScratch e hgrants => exact hfallback
  | failed status hfails => exact hfallback
  | noBlock n e hresult hgrants => exact hfallback
  | encoded n b h' hresult hn hacquire => exact hfallback

theorem active_commit (c : Codec σ) (s : Stage σ) (acquisition : String) :
    (s.commit c acquisition).2.active = s.active ∨ (s.commit c acquisition).2.active = s.commanded := by
  have hcases := commit_cases c s acquisition
  generalize s.commit c acquisition = r at hcases ⊢
  cases hcases with
  | already hbound => exact .inl rfl
  | accepted hne state hselect => exact .inr rfl
  | refused hne e state hselect => exact .inl rfl

theorem active_produce (c : Codec σ) (a : Allocator) (s : Stage σ) (h : Heap) (f : Frame) :
    (s.produce c a h f).2.1.active = s.active ∨ (s.produce c a h f).2.1.active = s.commanded := by
  have hcommit := active_commit c s f.acquisition
  rcases produce_cases c a s h f with ⟨e, -, hproduce⟩ | ⟨-, hproduce⟩
  · rw [hproduce]
    exact hcommit
  · rw [hproduce, active_encodeFrame]
    exact hcommit

variable {maxThreads : Nat}

theorem Ranged.produce (hs : Ranged maxThreads s) (c : Codec σ) (a : Allocator) (h : Heap) (f : Frame) :
    Ranged maxThreads (s.produce c a h f).2.1 := by
  refine ⟨(spares_produce c a s h f).commanded ▸ hs.commanded, ?_⟩
  rcases active_produce c a s h f with hactive | hactive
  · exact hactive ▸ hs.active
  · exact hactive ▸ hs.commanded

theorem Ranged.apply (hs : Ranged c.maxThreads s) (hmax : 1 ≤ c.maxThreads) (fields : Dictionary Json) :
    Ranged c.maxThreads (s.apply c fields).2 :=
  ⟨Settings.update_inRange hmax hs.commanded fields, hs.active⟩

theorem Ranged.step (hs : Ranged c.maxThreads s) (hmax : 1 ≤ c.maxThreads) (call : Call) :
    Ranged c.maxThreads (step c s call) := by
  cases hframe : call.frame? with
  | some f =>
    obtain ⟨a, h, hstep | ⟨out, -, hstep⟩⟩ := step_of_frame c s hframe
    · rw [hstep]
      exact hs.produce c a h f
    · rw [hstep]
      have hproduce := hs.produce c a h f
      exact ⟨hproduce.commanded, hproduce.active⟩
  | none =>
    cases call with
    | configure message =>
      show Ranged c.maxThreads (s.configure c message).2
      unfold configure
      split
      · exact hs.apply hmax _
      · exact hs
    | status => exact hs
    | request => exact hs
    | process a accepted h f => cases hframe
    | compress a h f => cases hframe

theorem Ranged.run (hs : Ranged c.maxThreads s) (hmax : 1 ≤ c.maxThreads) (calls : List Call) :
    Ranged c.maxThreads (run c s calls) := by
  induction calls generalizing s with
  | nil => exact hs
  | cons call rest ih => exact ih (hs.step hmax call)

theorem IsNew.ranged (h : IsNew c s) (hmax : 1 ≤ c.maxThreads) : Ranged c.maxThreads s := by
  have hdefault := Settings.inRange_default hmax
  cases h with
  | create h =>
    obtain ⟨state, -, rfl⟩ := create_ok h
    exact ⟨hdefault, hdefault⟩
  | ofConfig h =>
    obtain ⟨s₀, hcreate, rfl⟩ := ofConfig_ok h
    obtain ⟨state, -, rfl⟩ := create_ok hcreate
    exact Ranged.apply ⟨hdefault, hdefault⟩ hmax _

theorem Reachable.ranged (h : Reachable c s) (hmax : 1 ≤ c.maxThreads) : Ranged c.maxThreads s := by
  obtain ⟨s₀, calls, hnew, rfl⟩ := h
  exact (hnew.ranged hmax).run hmax calls

/-! ## Reports -/

theorem lookup_map_key (pre : String) (v : Field → Json) (fields : List Field) (f : Field) :
    (fields.map fun g => (pre ++ g.key, v g)).lookup (pre ++ f.key) = if f ∈ fields then some (v f) else none := by
  induction fields with
  | nil => rfl
  | cons g rest ih =>
    have hcons := Dictionary.find?_cons (pre ++ g.key, v g) (rest.map fun g => (pre ++ g.key, v g)) (pre ++ f.key)
    unfold Dictionary.find? at hcons
    rw [List.map_cons, hcons, ih]
    simp only [String.append_right_inj, Settings.key_inj, List.mem_cons]
    by_cases hf : f = g
    · rw [if_pos hf, if_pos (.inl hf), hf]
    · rw [if_neg hf]
      simp only [hf, false_or]

theorem find?_report (s : Stage σ) (settings : Settings) (f : Field) :
    (s.report settings).find? (s.name ++ "/" ++ f.key) = some (.integer (settings.value f)) := by
  unfold report
  rw [Dictionary.find?_ofList, ← List.map_reverse, lookup_map_key]
  exact if_pos (by cases f <;> decide)

/-- There is nothing else in a report. -/
theorem key_of_report {settings : Settings} {key : String} {v : Json}
    (h : (s.report settings).find? key = some v) : ∃ f : Field, key = s.name ++ "/" ++ f.key := by
  unfold report at h
  rw [Dictionary.find?_ofList] at h
  obtain ⟨f, -, hf⟩ := List.mem_map.mp (List.mem_reverse.mp (Dictionary.mem_of_find? h))
  exact ⟨f, (congrArg Prod.fst hf).symm⟩

/-! ## Reports as messages -/

/-- What a stage has reported, as a message: the keys are without its name. -/
def message (s : Stage σ) (report : Dictionary Json) : Json := .object (report.under (s.name ++ "/"))

theorem configure_message {c : Codec τ} {settings : Settings} (hsettings : settings.InRange c.maxThreads)
    (s : Stage σ) (t : Stage τ) :
    t.configure c (s.message (s.report settings)) = ({}, { t with commanded :=
      { settings with typeSize := t.commanded.typeSize, rawSize := t.commanded.rawSize } }) := by
  have hfields (f : Field) : ((s.report settings).under (s.name ++ "/")).find? f.key =
      some (.integer (settings.value f)) := by
    rw [Dictionary.find?_under, find?_report]
  have hupdate := Settings.update_of_values hsettings hfields t.commanded
  show t.apply c _ = _
  unfold apply
  rw [hupdate]

/-- Stage `t` has taken the settings that `s` reports, and nothing else has changed. -/
structure Adopts (s : Stage σ) (report : Dictionary Json) (t : Stage τ) (r : Warnings × Stage τ) : Prop where
  silent : r.1 = {}
  same : ∀ f : Field, ∃ v, report.find? (s.name ++ "/" ++ f.key) = some v ∧
    r.2.request.find? (t.name ++ "/" ++ f.key) = some v
  /-- The new report has entries for the fields under the name of `t`, and no others. -/
  keys : ∀ key v, r.2.request.find? key = some v → ∃ f : Field, key = t.name ++ "/" ++ f.key
  others : r.2 = { t with commanded := r.2.commanded }

theorem adopts_report {c : Codec τ} {settings : Settings} (hsettings : settings.InRange c.maxThreads)
    (s : Stage σ) (t : Stage τ) :
    Adopts s (s.report settings) t (t.configure c (s.message (s.report settings))) := by
  rw [configure_message hsettings]
  refine ⟨rfl, fun f => ⟨_, find?_report s settings f, ?_⟩, fun key v h => ?_, rfl⟩
  · exact find?_report { t with commanded := _ } _ f
  · exact key_of_report (s := { t with commanded := _ }) h

/-- Every stage takes what another one reports, if their codecs have the same number of threads; a stage that
gets back its own commanded settings is as before. -/
theorem resubmission {c : Codec σ} {c' : Codec τ} {s : Stage σ} (hs : Reachable c s)
    (hsame : c.maxThreads = c'.maxThreads) (hmax : 1 ≤ c.maxThreads) (t : Stage τ) :
    Adopts s s.request t (t.configure c' (s.message s.request)) ∧
      Adopts s s.status t (t.configure c' (s.message s.status)) ∧
      s.configure c (s.message s.request) = ({}, s) := by
  have hranged := hs.ranged hmax
  have hranged' := hsame ▸ hranged
  exact ⟨adopts_report hranged'.commanded s t, adopts_report hranged'.active s t,
    configure_message hranged.commanded s s⟩

/-- A stage that was configured with too many threads and too high a level. -/
def cappedStage : Stage ScriptedCodec where
  name := "a/b"
  defaultTypeSize := 2
  commanded := { compressor := .zlib, level := 9, threads := 4 }
  codecState := ⟨{}, .lz4, 1, [.setThreads 1, .select .lz4]⟩
  pool := 0

/-- One frame later the capped settings are in force, and others are commanded; another stage takes either. -/
theorem resubmission_capped :
    let c := ScriptedCodec.codec 16 4
    let c' := ScriptedCodec.codec 64 4
    let s := run c cappedStage
      [.compress ⟨fun _ => true, fun _ => true⟩ {} { dataset := "d", acquisition := "x", pool := 0 },
        .configure (.object [("level", .integer 3), ("shuffle", .integer 7)])]
    let t : Stage ScriptedCodec := { name := "t", codecState := { script := {} }, pool := 0 }
    let r := t.configure c' (s.message s.request)
    let r' := t.configure c' (s.message s.status)
    Reachable c s ∧ c.maxThreads = c'.maxThreads ∧ 1 ≤ c.maxThreads ∧
      Adopts s s.request t r ∧ r.2.commanded = { compressor := .zlib, level := 3, shuffle := .off, threads := 4 } ∧
      Adopts s s.status t r' ∧ r'.2.commanded = { compressor := .zlib, level := 9, threads := 4 } ∧
      s.configure c (s.message s.request) = ({}, s) := by
  intro c c' s t r r'
  have hconfig : ofConfig c ⟨{}, .lz4, 0, []⟩
      { name := "a/b", compressor := some (.integer 4), level := some (.integer 50),
        shuffle := some (.string "bit"), threads := some (.integer 100) } 0 = .ok cappedStage := rfl
  have hs : Reachable c s := ⟨cappedStage, _, .ofConfig hconfig, rfl⟩
  have hsame : c.maxThreads = c'.maxThreads := rfl
  have hmax : 1 ≤ c.maxThreads := by decide
  obtain ⟨hrequest, hstatus, hback⟩ := resubmission hs hsame hmax t
  exact ⟨hs, hsame, hmax, hrequest, by decide, hstatus, by decide, hback⟩

end Stage
end FramePress
