import FramePress.Proofs.Settings.Ruling

/-! # What becomes of a control message

* `ruling_warning`: there is a warning just if a request was not taken as it is.
* `Validates`: what an update does for each field.
* `update_validates`: every update does that, and nothing but the four fields has a part in it.
-/

namespace FramePress.Settings
set_option autoImplicit false

variable {maxThreads : Nat} {s : Settings}

/-! ## What a ruling says -/

theorem integer_of_asked? {f : Field} {v : Json} {n : Int} (h : asked? f v = some n) : v = .integer n := by
  unfold asked? at h
  cases v with
  | integer m =>
    dsimp only [Json.integer?] at h
    split at h
    · cases h
    · cases h
      rfl
  | null | bool | double | string | array | object => cases h

theorem asked?_of_admissible {f : Field} {n : Int} (h : Admissible maxThreads f n) :
    asked? f (.integer n) = some n := by
  refine if_neg ?_
  rintro ⟨rfl, hneg⟩
  have hpos := h.1
  omega

/-- A warning is there just if something was asked for that the field does not have now. -/
theorem ruling_warning (hmax : 1 ≤ maxThreads) {f : Field} {current : Int}
    (hcurrent : Admissible maxThreads f current) (v? : Option Json) :
    (∃ w, (ruling maxThreads f current v?).2 = some w) ↔
      ∃ v, v? = some v ∧ v ≠ .integer (ruling maxThreads f current v?).1 := by
  cases v? with
  | none =>
    constructor
    · rintro ⟨w, h⟩
      cases h
    · rintro ⟨v, h, -⟩
      cases h
  | some v =>
    unfold ruling
    dsimp only
    cases hasked : asked? f v with
    | none =>
      refine ⟨fun _ => ⟨v, rfl, ?_⟩, fun _ => ⟨_, rfl⟩⟩
      rintro rfl
      rw [asked?_of_admissible hcurrent] at hasked
      cases hasked
    | some n =>
      obtain rfl := integer_of_asked? hasked
      dsimp only
      by_cases hrange : Admissible maxThreads f n
      · rw [if_pos hrange]
        constructor
        · rintro ⟨w, h⟩
          cases h
        · rintro ⟨v, h, hne⟩
          cases h
          exact absurd rfl hne
      · rw [if_neg hrange]
        refine ⟨fun _ => ⟨_, rfl, ?_⟩, fun _ => ⟨_, rfl⟩⟩
        -- the substitute is admissible, what was asked for is not
        intro heq
        have hn : n = fallback maxThreads f n := Json.integer.inj heq
        have hfallback := admissible_fallback hmax f n
        rw [← hn] at hfallback
        exact hrange hfallback

/-! ## What an update does -/

/-- `r` is what a message makes of settings, with the warnings. -/
structure Validates (maxThreads : Nat) (s : Settings) (fields : Dictionary Json) (r : Settings × Warnings) :
    Prop where
  inRange : r.1.InRange maxThreads
  typeSize : r.1.typeSize = s.typeSize
  rawSize : r.1.rawSize = s.rawSize
  absent : ∀ f : Field, fields.find? f.key = none → r.1.value f = s.value f ∧ r.2.find? f.key = none
  taken : ∀ (f : Field) (v : Json) (n : Int), fields.find? f.key = some v → asked? f v = some n →
    Admissible maxThreads f n → r.1.value f = n ∧ r.2.find? f.key = none
  replaced : ∀ (f : Field) (v : Json) (n : Int), fields.find? f.key = some v → asked? f v = some n →
    ¬ Admissible maxThreads f n →
      r.1.value f = fallback maxThreads f n ∧ r.2.find? f.key = some (notice maxThreads f n)
  ignored : ∀ (f : Field) (v : Json), fields.find? f.key = some v → asked? f v = none →
    r.1.value f = s.value f ∧ r.2.find? f.key = some ignored
  warned_iff : ∀ f : Field, (∃ w, r.2.find? f.key = some w) ↔
    ∃ v, fields.find? f.key = some v ∧ v ≠ .integer (r.1.value f)
  /-- There is no warning about anything else. -/
  keys : ∀ key w, r.2.entries.find? key = some w → ∃ f : Field, key = Warnings.key f.key

theorem admissible_value (hs : s.InRange maxThreads) (f : Field) : Admissible maxThreads f (s.value f) := by
  cases f with
  | level => exact ⟨hs.minLevel_le, hs.le_maxLevel⟩
  | threads => exact ⟨Int.ofNat_le.mpr hs.threads_pos, Int.ofNat_le.mpr hs.threads_le⟩
  | shuffle =>
    unfold value
    cases s.shuffle with
    | off => exact .inl rfl
    | byte => exact .inr (.inl rfl)
    | bit => exact .inr (.inr rfl)
  | compressor =>
    unfold value
    cases s.compressor with
    | lz4 => exact .inl rfl
    | zlib => exact .inr (.inl rfl)
    | zstd => exact .inr (.inr rfl)

theorem warningKeys_update (fields : Dictionary Json) (key : String) (w : Json)
    (h : (s.update fields maxThreads).2.entries.find? key = some w) : ∃ f : Field, key = Warnings.key f.key := by
  unfold update at h
  dsimp only at h
  by_cases hfield : ∃ f : Field, key = Warnings.key f.key
  · exact hfield
  · have hne : ∀ f : Field, key ≠ Warnings.key f.key := fun f hf => hfield ⟨f, hf⟩
    rw [find?_entries_report, if_neg (hne _), find?_entries_report, if_neg (hne _), find?_entries_report,
      if_neg (hne _), find?_entries_report, if_neg (hne _)] at h
    cases h

theorem update_congr {fields fields' : Dictionary Json}
    (h : ∀ f : Field, fields'.find? f.key = fields.find? f.key) :
    s.update fields' maxThreads = s.update fields maxThreads := by
  unfold update requested
  rw [h .level, h .shuffle, h .threads, h .compressor]

/-- From settings in their ranges, a message leads to settings in their ranges.  For each field it is told by the
value under the key what becomes of the setting, and whether there is a warning; nothing else in the message
has any effect. -/
theorem update_validates (hmax : 1 ≤ maxThreads) (hs : s.InRange maxThreads) (fields : Dictionary Json) :
    Validates maxThreads s fields (s.update fields maxThreads) ∧
      ∀ fields' : Dictionary Json, (∀ f : Field, fields'.find? f.key = fields.find? f.key) →
        s.update fields' maxThreads = s.update fields maxThreads := by
  have hruling := update_eq_ruling maxThreads s fields
  refine ⟨⟨update_inRange hmax hs fields, rfl, rfl, ?_, ?_, ?_, ?_, ?_, warningKeys_update fields⟩, ?_⟩
  · intro f hnone
    have h := hruling f
    rw [hnone] at h
    exact Prod.mk.inj h
  · intro f v n hv hasked hrange
    have h := hruling f
    rw [hv, ruling, hasked] at h
    dsimp only at h
    rw [if_pos hrange] at h
    exact Prod.mk.inj h
  · intro f v n hv hasked hrange
    have h := hruling f
    rw [hv, ruling, hasked] at h
    dsimp only at h
    rw [if_neg hrange] at h
    exact Prod.mk.inj h
  · intro f v hv hasked
    have h := hruling f
    rw [hv, ruling, hasked] at h
    exact Prod.mk.inj h
  · intro f
    have h := ruling_warning hmax (admissible_value hs f) (fields.find? f.key)
    rwa [← hruling f] at h
  · intro fields' h
    exact update_congr h

/-- A level just above the signed range, no filter, as many threads as 64 bits can say and a compressor that is
provided, for a codec that has four threads. -/
theorem update_validates_mixed :
    let fields : Dictionary Json := [("compressor", .integer 4), ("extra", .bool true),
      ("level", .integer 0x8000000000000000), ("shuffle", .null), ("threads", .integer 0xffffffffffffffff)]
    let r := ({} : Settings).update fields 4
    1 ≤ 4 ∧ ({} : Settings).InRange 4 ∧ Validates 4 {} fields r ∧
      r.1 = { compressor := .zlib, level := 9, threads := 4 } ∧
      r.2.find? "compressor" = none ∧ r.2.find? "level" = some (.string "Capped at upper range: 9") ∧
      r.2.find? "shuffle" = some ignored ∧ r.2.find? "threads" = some (.integer 4) ∧
      ({} : Settings).update (fields.erase "extra") 4 = r := by
  intro fields r
  have hmax : 1 ≤ 4 := by decide
  have hs : ({} : Settings).InRange 4 := inRange_default hmax
  obtain ⟨hvalid, hother⟩ := update_validates hmax hs fields
  have hcompressor := hvalid.taken .compressor (.integer 4) 4 rfl rfl (by decide)
  have hlevel := hvalid.replaced .level (.integer 0x8000000000000000) 0x8000000000000000 rfl rfl (by decide)
  have hshuffle := hvalid.ignored .shuffle .null rfl rfl
  have hthreads := hvalid.replaced .threads (.integer 0xffffffffffffffff) 0xffffffffffffffff rfl rfl (by decide)
  have hextra : ({} : Settings).update (fields.erase "extra") 4 = r := by
    refine hother _ ?_
    intro f
    cases f <;> rfl
  exact ⟨hmax, hs, hvalid, by decide, hcompressor.2, hlevel.2, hshuffle.2, hthreads.2, hextra⟩

end FramePress.Settings
