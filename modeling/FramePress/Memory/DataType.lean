/-! # Data types of samples

* `DataType`: the type of the samples in a frame, its name, and the bytes of one sample.
-/

namespace FramePress
set_option autoImplicit false

inductive DataType
  | raw8
  | raw16
  | raw32
  | raw64
  | float32
  | float64
  deriving DecidableEq, Repr

namespace DataType

def all : List DataType := [raw8, raw16, raw32, raw64, float32, float64]

def size : DataType → Nat
  | raw8 => 1
  | raw16 => 2
  | raw32 | float32 => 4
  | raw64 | float64 => 8

def name : DataType → String
  | raw8 => "raw_8bit"
  | raw16 => "raw_16bit"
  | raw32 => "raw_32bit"
  | raw64 => "raw_64bit"
  | float32 => "float32"
  | float64 => "float64"

def ofName? (s : String) : Option DataType := all.find? fun t => t.name = s

/-- How a data type is written in the description of a frame. -/
def label : DataType → String
  | raw8 => "Raw8Bit"
  | raw16 => "Raw16Bit"
  | raw32 => "Raw32Bit"
  | raw64 => "Raw64Bit"
  | float32 => "Float32"
  | float64 => "Float64"

end DataType
end FramePress
