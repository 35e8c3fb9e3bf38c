import FramePress.Settings.Update

/-! # Settings stay in their ranges

* `Decision.Within`: a decision that only ever gives values with some property.
* `Settings.InRange`: a level that can be set, and a number of threads the codec can have.
* `update_inRange`: no message, whatever its values, leads out of the ranges.
-/

namespace FramePress
set_option autoImplicit false

namespace Decision
variable {α : Type} {P : α → Prop} {d : Decision α}

/-- The new value, if there is one, has the property. -/
def Within (P : α → Prop) (d : Decision α) : Prop := ∀ a, d.value = some a → P a

theorem within_absent : (absent : Decision α).Within P := fun _ h => nomatch h

theorem within_ignore : (ignore : Decision α).Within P := fun _ h => nomatch h

theorem within_take {a : α} (h : P a) : (take a).Within P := by
  intro b hb
  cases hb
  exact h

theorem within_substitute {a : α} {w : Json} (h : P a) : (substitute a w).Within P := by
  intro b hb
  cases hb
  exact h

theorem Within.resolve {current : α} (hd : d.Within P) (h : P current) : P (d.resolve current) := by
  unfold Decision.resolve
  cases hv : d.value with
  | none => exact h
  | some a => exact hd a hv

end Decision

open Decision

theorem within_requested {α : Type} {P : α → Prop} {decide : Json → Decision α}
    (h : ∀ v, (decide v).Within P) (fields : Dictionary Json) (field : Field) :
    (requested fields field decide).Within P := by
  unfold requested
  split
  · exact within_absent
  · exact h _

namespace Settings

structure InRange (maxThreads : Nat) (s : Settings) : Prop where
  minLevel_le : minLevel ≤ s.level
  le_maxLevel : s.level ≤ maxLevel
  threads_pos : 0 < s.threads
  threads_le : s.threads ≤ maxThreads

theorem within_decideLevel (v : Json) : (decideLevel v).Within fun n => minLevel ≤ n ∧ n ≤ maxLevel := by
  have hbounds : minLevel ≤ maxLevel := by decide
  unfold decideLevel
  split
  · exact within_ignore
  · split
    · exact within_substitute ⟨Int.le_refl _, hbounds⟩
    · split
      · exact within_substitute ⟨hbounds, Int.le_refl _⟩
      · exact within_take ⟨by omega, by omega⟩

theorem within_decideThreads {maxThreads : Nat} (hmax : 0 < maxThreads) (v : Json) :
    (decideThreads maxThreads v).Within fun n => 0 < n ∧ n ≤ maxThreads := by
  have hfallback : 0 < fallbackThreads := by decide
  unfold decideThreads
  split
  · exact within_ignore
  · split
    · exact within_substitute ⟨Nat.one_pos, hmax⟩
    · split
      · exact within_substitute ⟨by omega, Nat.min_le_right _ _⟩
      · exact within_take ⟨by omega, by omega⟩

theorem inRange_default {maxThreads : Nat} (hmax : 0 < maxThreads) : InRange maxThreads {} :=
  ⟨by decide, by decide, Nat.one_pos, hmax⟩

theorem update_inRange {maxThreads : Nat} (hmax : 0 < maxThreads) {s : Settings} (h : s.InRange maxThreads)
    (fields : Dictionary Json) : (s.update fields maxThreads).1.InRange maxThreads := by
  have hlevel := (within_requested within_decideLevel fields .level).resolve
    ⟨h.minLevel_le, h.le_maxLevel⟩
  have hthreads := (within_requested (within_decideThreads hmax) fields .threads).resolve
    ⟨h.threads_pos, h.threads_le⟩
  exact ⟨hlevel.1, hlevel.2, hthreads.1, hthreads.2⟩

end Settings
end FramePress
