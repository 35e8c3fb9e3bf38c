import FramePress.Dictionary

/-! # JSON values

* `Json`: a value; integers and other numbers are told apart, as their texts are.
* `integer?`: the integer of a value, if it is one.
* `signed?` and `unsigned?`: the same as a number of 64 bits.
-/

namespace FramePress
set_option autoImplicit false

inductive Json
  | null
  | bool (b : Bool)
  /-- A number written without fraction and exponent that fits 64 bits, signed or unsigned. -/
  | integer (n : Int)
  | double (x : Float)
  | string (s : String)
  | array (items : List Json)
  | object (fields : List (String × Json))
  deriving Inhabited

namespace Json

def integer? : Json → Option Int
  | integer n => some n
  | _ => none

def maxSigned : Int := 0x7fffffffffffffff

/-- The integer as a signed number; one above the range counts as the largest there is. -/
def signed? (v : Json) : Option Int := v.integer?.map fun n => min n maxSigned

def unsigned? (v : Json) : Option Nat := v.integer?.bind Int.toNat?

def fields? : Json → Option (Dictionary Json)
  | object fields => some fields
  | _ => none

end Json
end FramePress
