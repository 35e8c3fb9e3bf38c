import FramePress.Config
import FramePress.Toml.Reader

/-! # Configuration files

* `Toml.Value.toJson`: a TOML value as a request for a setting.
* `StageConfig.ofEntries?`: the configuration in the entries of a TOML document; entries with other
  keys have no effect.
* `StageConfig.parse` and `StageConfig.load`: the configuration in a text, and in a file.
-/

namespace FramePress
set_option autoImplicit false

/-! ## Requests -/

namespace Toml

/-- The member under which a date or time appears in JSON. -/
def momentKey : String := "$__toml_private_datetime"

mutual

/-- The value as JSON, which has no number for infinity and none for what is not a number. -/
def Value.toJson : Value → Json
  | .string s => .string s
  | .integer n => .integer n
  | .float x => if x.isFinite then .double x else .null
  | .boolean b => .bool b
  | .moment text => .object [(momentKey, .string text)]
  | .array items => .array (itemsToJson items)
  | .table entries => .object (entriesToJson entries)

def itemsToJson : List Value → List Json
  | [] => []
  | v :: rest => v.toJson :: itemsToJson rest

def entriesToJson : List (String × Value) → Dictionary Json
  | [] => []
  | (key, v) :: rest => Dictionary.insert (entriesToJson rest) key v.toJson

end

end Toml

namespace StageConfig

/-! ## Entries -/

/-- The configuration with the requests of its `compression` entry.  A row of values stands for the
compressor, the level, the filter and the threads, in this order. -/
def request? (c : StageConfig) : Toml.Value → Option StageConfig
  | .table entries =>
    let find (field : Field) : Option Json := (entries.lookup field.key).map Toml.Value.toJson
    some { c with
      compressor := find .compressor
      level := find .level
      shuffle := find .shuffle
      threads := find .threads }
  | .array (compressor :: level :: shuffle :: threads :: _) =>
    some { c with
      compressor := some compressor.toJson
      level := some level.toJson
      shuffle := some shuffle.toJson
      threads := some threads.toJson }
  | .moment _ => some c
  | _ => none

/-- The configuration with the value of one entry. -/
def entry? (c : StageConfig) : String × Toml.Value → Option StageConfig
  | ("name", .string s) => some { c with name := s }
  | ("name", _) => none
  | ("default_type_size", .integer n) =>
    if n < 0 then none else some { c with defaultTypeSize := n.toNat }
  | ("default_type_size", _) => none
  | ("compression", v) => c.request? v
  | _ => some c

def ofEntries? (entries : List (String × Toml.Value)) : Option StageConfig :=
  entries.foldlM entry? {}

/-! ## Texts and files -/

def parse (text : String) : Except ConfigError StageConfig :=
  match (Toml.parse? text).bind ofEntries? with
  | none => .error .malformed
  | some c => c.check

/-- The configuration in a file of which the bytes are given, if it exists. -/
def load (file : Option Bytes) : Except ConfigError StageConfig :=
  match file.bind fun bytes => String.fromUTF8? ⟨bytes⟩ with
  | none => .error .unreadable
  | some text => parse text

end StageConfig
end FramePress
