import FramePress.Proofs.Dictionary
import FramePress.Proofs.Settings.Range

/-! # The rules for control messages

The rules for the four fields, said for all of them alike: a value asks for a number or not, the field can
have that number or not, and if not there is another in its place.

* `asked?`, `Admissible`, `fallback`, `notice`: the parts of the rules.
* `ruling`: the value of a field after a message, and its warning.
* `outcome_decideLevel`, `outcome_decideCode`, `outcome_decideThreads`: the decisions come to the same.
* `update_eq_ruling`: so does an update, for each field.
-/

namespace FramePress
set_option autoImplicit false

namespace Settings

/-! ## The rules -/

/-- The number that a value asks for.  A negative one is not a number of threads. -/
def asked? (f : Field) (v : Json) : Option Int :=
  match v.integer? with
  | none => none
  | some n => if f = .threads ∧ n < 0 then none else some n

/-- The numbers that a field can have. -/
def Admissible (maxThreads : Nat) : Field → Int → Prop
  | .level, n => 1 ≤ n ∧ n ≤ 9
  | .shuffle, n => n = 0 ∨ n = 1 ∨ n = 2
  | .threads, n => 1 ≤ n ∧ n ≤ maxThreads
  | .compressor, n => n = 1 ∨ n = 4 ∨ n = 5

instance (maxThreads : Nat) (f : Field) (n : Int) : Decidable (Admissible maxThreads f n) :=
  match f with
  | .level | .threads => inferInstanceAs (Decidable (_ ∧ _))
  | .shuffle | .compressor => inferInstanceAs (Decidable (_ ∨ _))

/-- The number that a field has instead of one that it cannot have. -/
def fallback (maxThreads : Nat) : Field → Int → Int
  | .level, n => if n < 1 then 1 else 9
  | .shuffle, _ => 0
  | .threads, n => if n = 0 then 1 else min 8 maxThreads
  | .compressor, _ => 1

/-- The warning that goes with a substitute. -/
def notice (maxThreads : Nat) : Field → Int → Json
  | .level, n => .string (if n < 1 then "Capped at lower range: 1" else "Capped at upper range: 9")
  | .shuffle, _ => .string "Disabled"
  | f, n => .integer (fallback maxThreads f n)

def ignored : Json := .string "Unsupported value type, setting unchanged"

/-- The value of a field and its warning, after a message with some value or none under the key. -/
def ruling (maxThreads : Nat) (f : Field) (current : Int) : Option Json → Int × Option Json
  | none => (current, none)
  | some v =>
    match asked? f v with
    | none => (current, some ignored)
    | some n =>
      if Admissible maxThreads f n then (n, none)
      else (fallback maxThreads f n, some (notice maxThreads f n))

theorem admissible_fallback {maxThreads : Nat} (hmax : 1 ≤ maxThreads) (f : Field) (n : Int) :
    Admissible maxThreads f (fallback maxThreads f n) := by
  cases f with
  | compressor => exact .inl rfl
  | shuffle => exact .inl rfl
  | level =>
    dsimp only [Admissible, fallback]
    split <;> omega
  | threads =>
    dsimp only [Admissible, fallback]
    split <;> omega

theorem asked?_of_ne_threads {f : Field} (h : f ≠ .threads) (v : Json) : asked? f v = v.integer? := by
  unfold asked?
  cases v.integer? with
  | none => rfl
  | some n => exact if_neg fun hboth => h hboth.1

theorem asked?_threads (v : Json) : asked? .threads v = v.unsigned?.map Int.ofNat := by
  unfold asked? Json.unsigned?
  cases v.integer? with
  | none => rfl
  | some n =>
    cases n with
    | ofNat n => exact if_neg fun hboth => absurd hboth.2 (Int.not_lt.mpr (Int.natCast_nonneg n))
    | negSucc n => exact if_pos ⟨rfl, Int.negSucc_lt_zero n⟩

end Settings

/-! ## The decisions -/

open Settings

namespace Decision

/-- A decision, by the number of the value. -/
def outcome {α : Type} (code : α → Int) (d : Decision α) (current : α) : Int × Option Json :=
  (code (d.resolve current), d.warning)

end Decision

open Decision

/-- A number above the signed range is above the largest level, too. -/
theorem outcome_decideLevel (maxThreads : Nat) (v : Json) (current : Int) :
    (decideLevel v).outcome id current = ruling maxThreads .level current (some v) := by
  have hmin : minLevel = 1 := rfl
  have hmax : maxLevel = 9 := rfl
  have hsmall : maxLevel < Json.maxSigned := by decide
  unfold ruling decideLevel Json.signed?
  dsimp only
  rw [asked?_of_ne_threads (by decide)]
  cases v.integer? with
  | none => rfl
  | some n =>
    dsimp only [Option.map_some]
    by_cases hlow : n < 1
    · have hrange : ¬ Admissible maxThreads .level n := fun h => Int.not_le.mpr hlow h.1
      have hbelow : min n Json.maxSigned < minLevel := by omega
      rw [if_pos hbelow, if_neg hrange]
      dsimp only [fallback, notice]
      rw [if_pos hlow, if_pos hlow]
      rfl
    have hbelow : ¬ min n Json.maxSigned < minLevel := by omega
    by_cases hhigh : 9 < n
    · have hrange : ¬ Admissible maxThreads .level n := fun h => Int.not_le.mpr hhigh h.2
      have habove : maxLevel < min n Json.maxSigned := by omega
      rw [if_neg hbelow, if_pos habove, if_neg hrange]
      dsimp only [fallback, notice]
      rw [if_neg hlow, if_neg hlow]
      rfl
    · have hrange : Admissible maxThreads .level n := ⟨by omega, by omega⟩
      have habove : ¬ maxLevel < min n Json.maxSigned := by omega
      have hsigned : min n Json.maxSigned = n := by omega
      rw [if_neg hbelow, if_neg habove, if_pos hrange, hsigned]
      rfl

theorem outcome_decideThreads (maxThreads : Nat) (v : Json) (current : Nat) :
    (decideThreads maxThreads v).outcome Int.ofNat current = ruling maxThreads .threads current (some v) := by
  unfold ruling decideThreads
  dsimp only
  rw [asked?_threads]
  cases v.unsigned? with
  | none => rfl
  | some n =>
    dsimp only [Option.map_some]
    rw [Int.ofNat_eq_natCast]
    by_cases hzero : n = 0
    · have hrange : ¬ Admissible maxThreads .threads n := by
        rintro ⟨hone, -⟩
        omega
      rw [if_pos hzero, if_neg hrange, hzero]
      rfl
    by_cases hhigh : maxThreads < n
    · have hrange : ¬ Admissible maxThreads .threads n := by
        rintro ⟨-, hle⟩
        omega
      have hfallback : fallback maxThreads .threads n = (min fallbackThreads maxThreads : Nat) := by
        have hnonzero : ¬ (n : Int) = 0 := by omega
        dsimp only [fallback, fallbackThreads]
        rw [if_neg hnonzero]
        omega
      rw [if_neg hzero, if_pos hhigh, if_neg hrange]
      dsimp only [notice]
      rw [hfallback]
      rfl
    · have hrange : Admissible maxThreads .threads n := ⟨by omega, by omega⟩
      rw [if_neg hzero, if_neg hhigh, if_pos hrange]
      rfl

/-! ### Fields that select by a code -/

theorem ShuffleMode.ofCode?_eq_some {n : Int} {m : ShuffleMode} : ofCode? n = some m ↔ n = m.code := by
  constructor
  · intro h
    have hcode := List.find?_some (p := fun m : ShuffleMode => decide (n = m.code)) h
    exact of_decide_eq_true hcode
  · rintro rfl
    cases m <;> rfl

theorem Compressor.ofCode?_eq_some {n : Int} {c : Compressor} : ofCode? n = some c ↔ n = c.code := by
  constructor
  · intro h
    have hcode := List.find?_some (p := fun c : Compressor => decide (n = c.code)) h
    exact of_decide_eq_true hcode
  · rintro rfl
    cases c <;> rfl

/-- No code lies above the signed range, so it is no matter what becomes of the numbers there. -/
theorem outcome_decideCode {α : Type} {ofCode? : Int → Option α} {code : α → Int} {maxThreads : Nat} {f : Field}
    {other : α} {w : Json} (hfield : f ≠ .threads) (hcode : ∀ n a, ofCode? n = some a ↔ n = code a)
    (hrange : ∀ n, Admissible maxThreads f n ↔ ∃ a, n = code a)
    (hsmall : ∀ a, code a < Json.maxSigned)
    (hfallback : ∀ n, fallback maxThreads f n = code other) (hnotice : ∀ n, notice maxThreads f n = w)
    (v : Json) (current : α) :
    (decideCode ofCode? other w v).outcome code current = ruling maxThreads f (code current) (some v) := by
  unfold ruling decideCode Json.signed?
  dsimp only
  rw [asked?_of_ne_threads hfield]
  cases v.integer? with
  | none => rfl
  | some n =>
    dsimp only [Option.map_some]
    cases hselect : ofCode? (min n Json.maxSigned) with
    | some a =>
      have ha := (hcode _ a).mp hselect
      have hlt := hsmall a
      have hn : n = code a := by omega
      rw [if_pos ((hrange n).mpr ⟨a, hn⟩), hn]
      rfl
    | none =>
      have hnone : ¬ Admissible maxThreads f n := by
        intro h
        obtain ⟨a, hn⟩ := (hrange n).mp h
        have hlt := hsmall a
        have hselect' := (hcode (min n Json.maxSigned) a).mpr (by omega)
        rw [hselect] at hselect'
        cases hselect'
      rw [if_neg hnone, hfallback, hnotice]
      rfl

theorem outcome_decideShuffle (maxThreads : Nat) (v : Json) (current : ShuffleMode) :
    (decideShuffle v).outcome (fun m => m.code) current = ruling maxThreads .shuffle current.code (some v) := by
  have hrange : ∀ n, Admissible maxThreads .shuffle n ↔ ∃ m : ShuffleMode, n = m.code := by
    intro n
    constructor
    · rintro (rfl | rfl | rfl)
      · exact ⟨.off, rfl⟩
      · exact ⟨.byte, rfl⟩
      · exact ⟨.bit, rfl⟩
    · rintro ⟨m, rfl⟩
      cases m with
      | off => exact .inl rfl
      | byte => exact .inr (.inl rfl)
      | bit => exact .inr (.inr rfl)
  have hsmall : ∀ m : ShuffleMode, (m.code : Int) < Json.maxSigned := by
    intro m
    cases m <;> decide
  exact outcome_decideCode (by decide) (fun _ _ => ShuffleMode.ofCode?_eq_some) hrange hsmall (fun _ => rfl)
    (fun _ => rfl) v current

theorem outcome_decideCompressor (maxThreads : Nat) (v : Json) (current : Compressor) :
    (decideCompressor v).outcome (fun c => c.code) current =
      ruling maxThreads .compressor current.code (some v) := by
  have hrange : ∀ n, Admissible maxThreads .compressor n ↔ ∃ c : Compressor, n = c.code := by
    intro n
    constructor
    · rintro (rfl | rfl | rfl)
      · exact ⟨.lz4, rfl⟩
      · exact ⟨.zlib, rfl⟩
      · exact ⟨.zstd, rfl⟩
    · rintro ⟨c, rfl⟩
      cases c with
      | lz4 => exact .inl rfl
      | zlib => exact .inr (.inl rfl)
      | zstd => exact .inr (.inr rfl)
  have hsmall : ∀ c : Compressor, (c.code : Int) < Json.maxSigned := by
    intro c
    cases c <;> decide
  exact outcome_decideCode (by decide) (fun _ _ => Compressor.ofCode?_eq_some) hrange hsmall (fun _ => rfl)
    (fun _ => rfl) v current

/-! ## A message -/

theorem outcome_requested {α : Type} {code : α → Int} {decide : Json → Decision α} {maxThreads : Nat}
    {f : Field} {current : α} (h : ∀ v, (decide v).outcome code current = ruling maxThreads f (code current) (some v))
    (fields : Dictionary Json) :
    (requested fields f decide).outcome code current =
      ruling maxThreads f (code current) (fields.find? f.key) := by
  unfold requested
  cases fields.find? f.key with
  | none => rfl
  | some v => exact h v

theorem warningKey_inj {f g : Field} : Warnings.key f.key = Warnings.key g.key ↔ f = g := by
  cases f <;> cases g <;> decide

section Report
variable {α : Type} (d : Decision α) (field : Field) (w : Warnings)

theorem find?_entries_report (key : String) : (d.report field w).entries.find? key =
    if key = Warnings.key field.key then d.warning.or (w.entries.find? key) else w.entries.find? key := by
  unfold Decision.report
  cases d.warning with
  | none => exact (ite_self _).symm
  | some value => exact Dictionary.find?_insert _ _ _ _

variable {field} {w}

theorem find?_report_self (h : w.find? field.key = none) : (d.report field w).find? field.key = d.warning := by
  unfold Warnings.find? at h ⊢
  rw [find?_entries_report, if_pos rfl, h, Option.or_none]

theorem find?_report_of_ne {other : Field} (h : other ≠ field) :
    (d.report field w).find? other.key = w.find? other.key := by
  unfold Warnings.find?
  rw [find?_entries_report, if_neg (mt warningKey_inj.mp h)]

end Report

namespace Settings
variable {maxThreads : Nat} {s : Settings}

theorem update_eq_ruling (maxThreads : Nat) (s : Settings) (fields : Dictionary Json) (f : Field) :
    ((s.update fields maxThreads).1.value f, (s.update fields maxThreads).2.find? f.key) =
      ruling maxThreads f (s.value f) (fields.find? f.key) := by
  have hempty : ∀ g : Field, ({} : Warnings).find? g.key = none := fun _ => rfl
  unfold update
  dsimp only
  cases f with
  | level =>
    rw [find?_report_of_ne _ (by decide), find?_report_of_ne _ (by decide), find?_report_of_ne _ (by decide),
      find?_report_self _ (hempty _)]
    exact outcome_requested (fun v => outcome_decideLevel maxThreads v s.level) fields
  | shuffle =>
    rw [find?_report_of_ne _ (by decide), find?_report_of_ne _ (by decide), find?_report_self]
    · exact outcome_requested (fun v => outcome_decideShuffle maxThreads v s.shuffle) fields
    · rw [find?_report_of_ne _ (by decide), hempty]
  | threads =>
    rw [find?_report_of_ne _ (by decide), find?_report_self]
    · exact outcome_requested (fun v => outcome_decideThreads maxThreads v s.threads) fields
    · rw [find?_report_of_ne _ (by decide), find?_report_of_ne _ (by decide), hempty]
  | compressor =>
    rw [find?_report_self]
    · exact outcome_requested (fun v => outcome_decideCompressor maxThreads v s.compressor) fields
    · rw [find?_report_of_ne _ (by decide), find?_report_of_ne _ (by decide), find?_report_of_ne _ (by decide),
        hempty]

end Settings
end FramePress
