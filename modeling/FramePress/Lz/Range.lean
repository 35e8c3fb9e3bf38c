import FramePress.Bits

/-! # Ranges of numbers

Formats for copies give one symbol to a whole range of lengths or offsets; extra bits say which member
is meant.

* `Range`: the first member and the number of extra bits.
* `rangesFrom`: ranges that follow each other without a gap.
-/

namespace FramePress
set_option autoImplicit false

namespace Lz

/-- The numbers `first, first + 1, …`, as many as `extraBits` bits tell apart. -/
structure Range where
  first : Nat
  extraBits : Nat
  deriving DecidableEq, Repr, Inhabited

/-- Ranges in a row, the first one beginning at `first`, from their numbers of extra bits. -/
def rangesFrom (first : Nat) : List Nat → List Range
  | [] => []
  | bits :: rest => ⟨first, bits⟩ :: rangesFrom (first + (1 <<< bits)) rest

end Lz
end FramePress
