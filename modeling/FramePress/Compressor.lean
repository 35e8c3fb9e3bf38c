/-! # Compressors

* `Compressor`: the three block compressors, and the two numberings they have: the *code*, by
  which a control message selects one, and the *format code*, which a chunk header records.
-/

namespace FramePress
set_option autoImplicit false

inductive Compressor
  | lz4
  | zlib
  | zstd
  deriving DecidableEq, Inhabited, Repr

namespace Compressor

/-- Every compressor, in the order of the codes. -/
def all : List Compressor := [lz4, zlib, zstd]

/-- The number that selects the compressor in a control message. -/
def code : Compressor → Nat
  | lz4 => 1
  | zlib => 4
  | zstd => 5

/-- The compressor with a given code; the other codes belong to compressors that are not provided. -/
def ofCode? (n : Int) : Option Compressor := all.find? fun c => n = c.code

def name : Compressor → String
  | lz4 => "lz4"
  | zlib => "zlib"
  | zstd => "zstd"

def ofName? (s : String) : Option Compressor := all.find? fun c => c.name = s

/-- The number a chunk header records for the compressor. -/
def formatCode : Compressor → UInt8
  | lz4 => 1
  | zlib => 3
  | zstd => 4

def ofFormatCode? (n : UInt8) : Option Compressor := all.find? fun c => c.formatCode = n

end Compressor
end FramePress
