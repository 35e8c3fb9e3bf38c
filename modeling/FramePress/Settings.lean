import FramePress.Compressor
import FramePress.Params

/-! # Settings

* `Field`: the four settings that a control message can change, and their keys.
* `Settings`: one complete set of parameters; element size and payload size belong to a single frame.
* `Settings.describe`: the settings on one line.
-/

namespace FramePress
set_option autoImplicit false

inductive Field
  | compressor
  | threads
  | level
  | shuffle
  deriving DecidableEq, Repr

/-- The key of a field in messages, reports and configuration files. -/
def Field.key : Field → String
  | compressor => "compressor"
  | threads => "threads"
  | level => "level"
  | shuffle => "shuffle"

structure Settings where
  compressor : Compressor := .lz4
  level : Int := 1
  shuffle : ShuffleMode := .bit
  threads : Nat := 1
  /-- Bytes per element of the frame at hand. -/
  typeSize : Nat := 0
  /-- Payload bytes of the frame at hand. -/
  rawSize : Nat := 0
  deriving DecidableEq, Repr

namespace Settings

/-- The smallest level that can be set; the codec also knows level 0, which only stores. -/
def minLevel : Int := 1

def maxLevel : Int := 9

def params (s : Settings) : Params := ⟨s.level, s.shuffle, s.typeSize⟩

def describe (s : Settings) : String :=
  s!"compressor={s.compressor.name} threads={s.threads} clevel={s.level} " ++
    s!"doshuffle={s.shuffle.code} typesize={s.typeSize} nbytes={s.rawSize}"

def value (s : Settings) : Field → Int
  | .compressor => s.compressor.code
  | .threads => s.threads
  | .level => s.level
  | .shuffle => s.shuffle.code

end Settings
end FramePress
