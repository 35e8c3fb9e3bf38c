import FramePress.Settings
import FramePress.Settings.Warnings

/-! # Updates of the settings

A control message asks for new values under the keys of the four fields.  A value that cannot be had is
replaced by a substitute, a value of the wrong type is ignored; either way there is a warning.

* `Decision`: what is done about one request.
* `decideLevel`, `decideCode`, `decideThreads`: the rules; those for the filter and the compressor are alike.
* `Settings.update`: the settings after a message, and the warnings.  Other keys have no effect.
-/

namespace FramePress
set_option autoImplicit false

/-- What becomes of a request: the new value, if there is one, and the warning, if there is one. -/
structure Decision (α : Type) where
  value : Option α
  warning : Option Json

namespace Decision

variable {α : Type}

def take (a : α) : Decision α := ⟨some a, none⟩

/-- The request is answered with a substitute. -/
def substitute (a : α) (warning : Json) : Decision α := ⟨some a, some warning⟩

/-- The request is not understood. -/
def ignore : Decision α := ⟨none, some (.string "Unsupported value type, setting unchanged")⟩

def absent : Decision α := ⟨none, none⟩

def resolve (d : Decision α) (current : α) : α := d.value.getD current

def report (d : Decision α) (field : Field) (w : Warnings) : Warnings :=
  match d.warning with
  | none => w
  | some value => w.add field.key value

end Decision

/-! ## The rules -/

/-- The number of threads used instead of one above the limit. -/
def fallbackThreads : Nat := 8

/-- A level outside the range is replaced by the nearest bound. -/
def decideLevel (v : Json) : Decision Int :=
  match v.signed? with
  | none => .ignore
  | some n =>
    if n < Settings.minLevel then
      .substitute Settings.minLevel (.string s!"Capped at lower range: {Settings.minLevel}")
    else if Settings.maxLevel < n then
      .substitute Settings.maxLevel (.string s!"Capped at upper range: {Settings.maxLevel}")
    else .take n

/-- A code that selects nothing is answered with `other`. -/
def decideCode {α : Type} (ofCode? : Int → Option α) (other : α) (warning v : Json) : Decision α :=
  match v.signed? with
  | none => .ignore
  | some n =>
    match ofCode? n with
    | some a => .take a
    | none => .substitute other warning

/-- An unknown filter turns shuffling off. -/
def decideShuffle : Json → Decision ShuffleMode := decideCode ShuffleMode.ofCode? .off (.string "Disabled")

/-- A compressor that is not provided is replaced by LZ4. -/
def decideCompressor : Json → Decision Compressor :=
  decideCode Compressor.ofCode? .lz4 (.integer Compressor.lz4.code)

/-- No threads become one; too many become eight, or the limit if that is smaller.  A negative number is
not a number of threads at all. -/
def decideThreads (maxThreads : Nat) (v : Json) : Decision Nat :=
  match v.unsigned? with
  | none => .ignore
  | some n =>
    if n = 0 then .substitute 1 (.integer 1)
    else if maxThreads < n then
      .substitute (min fallbackThreads maxThreads) (.integer (min fallbackThreads maxThreads : Nat))
    else .take n

/-! ## Messages -/

def requested {α : Type} (fields : Dictionary Json) (field : Field) (decide : Json → Decision α) :
    Decision α :=
  match fields.find? field.key with
  | none => .absent
  | some v => decide v

/-- The settings after a message, and the warnings. -/
def Settings.update (current : Settings) (fields : Dictionary Json) (maxThreads : Nat) :
    Settings × Warnings :=
  let level := requested fields .level decideLevel
  let shuffle := requested fields .shuffle decideShuffle
  let threads := requested fields .threads (decideThreads maxThreads)
  let compressor := requested fields .compressor decideCompressor
  ({ current with
      level := level.resolve current.level
      shuffle := shuffle.resolve current.shuffle
      threads := threads.resolve current.threads
      compressor := compressor.resolve current.compressor },
    compressor.report .compressor
      (threads.report .threads (shuffle.report .shuffle (level.report .level {}))))

end FramePress
