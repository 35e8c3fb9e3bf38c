import FramePress.Bytes

/-! # Copy plans

A block is described as a plan: sequences, each a run of literal bytes followed by a copy of earlier
output, and a tail of literals.  How a plan is found and how it is written down are separate matters.

* `Sequence` and `Plan`: literal runs are ranges of the source.
* `copyBack`: the output extended by a copy of its own bytes; the copy may overlap itself.
-/

namespace FramePress
set_option autoImplicit false

namespace Lz

/-- Literals from the source, then `length` bytes copied from `offset` bytes back. -/
structure Sequence where
  literalStart : Nat
  literalLength : Nat
  offset : Nat
  length : Nat
  deriving DecidableEq, Repr, Inhabited

/-- Sequences in order, and the position from which on all bytes are literals. -/
structure Plan where
  sequences : Array Sequence
  tailStart : Nat
  deriving DecidableEq, Repr

/-- The output after `n` bytes, each copied from `offset` bytes back, have been added. -/
def copyBack (out : Bytes) (offset : Nat) : (n : Nat) → Bytes
  | 0 => out
  | n + 1 => copyBack (out.push (out.byteAt (out.size - offset))) offset n

end Lz
end FramePress
