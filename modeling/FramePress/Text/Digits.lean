/-! # Digits

* `decimal`: the number that decimal digits stand for.
* `hexValue?` and `hexDigit`: the value of a hexadecimal digit, and the lower-case digit of a value.
-/

namespace FramePress
set_option autoImplicit false

def digitValue (c : Char) : Nat := c.toNat - '0'.toNat

/-- The number with the given digits, most significant first. -/
def decimal (ds : List Char) : Nat := ds.foldl (fun n c => 10 * n + digitValue c) 0

def hexValue? (c : Char) : Option Nat :=
  if '0' ≤ c ∧ c ≤ '9' then some (c.toNat - '0'.toNat)
  else if 'a' ≤ c ∧ c ≤ 'f' then some (c.toNat - 'a'.toNat + 10)
  else if 'A' ≤ c ∧ c ≤ 'F' then some (c.toNat - 'A'.toNat + 10)
  else none

def hexDigit (n : Nat) : Char := if n < 10 then Char.ofNat (48 + n) else Char.ofNat (87 + n)

end FramePress
