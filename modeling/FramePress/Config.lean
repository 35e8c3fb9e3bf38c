import FramePress.Settings
import FramePress.Settings.Warnings

/-! # Configuration of a stage

* `StageConfig`: the name of the stage, the element size for frames without a data type, and requests
  for the four settings, which may be any values.
* `StageConfig.initialUpdate`: the requests as a control message.
* `StageConfig.check`: what a configuration read from a file must satisfy.
-/

namespace FramePress
set_option autoImplicit false

/-- The element size that is assumed unless a configuration says otherwise. -/
def defaultTypeSize : Nat := 2

/-- The name of a stage unless a configuration says otherwise. -/
def defaultStageName : String := "blosc"

structure StageConfig where
  name : String := defaultStageName
  defaultTypeSize : Nat := FramePress.defaultTypeSize
  compressor : Option Json := none
  level : Option Json := none
  shuffle : Option Json := none
  threads : Option Json := none

inductive ConfigError
  /-- There is no file, or it is not text. -/
  | unreadable
  /-- The text is malformed, or a value has the wrong type. -/
  | malformed
  | emptyName
  | zeroTypeSize
  deriving DecidableEq, Repr

def ConfigError.message : ConfigError → String
  | unreadable => "failed to read config file"
  | malformed => "failed to parse config"
  | emptyName => "invalid config: name must not be empty"
  | zeroTypeSize => "invalid config: default_type_size must be at least 1"

namespace StageConfig

/-- The requests that are present, under the keys of their fields. -/
def initialUpdate (c : StageConfig) : Dictionary Json :=
  Dictionary.ofList <|
    [(Field.compressor, c.compressor), (Field.level, c.level), (Field.shuffle, c.shuffle),
      (Field.threads, c.threads)].filterMap fun (field, value) => value.map fun v => (field.key, v)

/-- The configuration itself if it can be used. -/
def check (c : StageConfig) : Except ConfigError StageConfig :=
  if c.name.isEmpty then .error .emptyName
  else if c.defaultTypeSize = 0 then .error .zeroTypeSize
  else .ok c

end StageConfig
end FramePress
