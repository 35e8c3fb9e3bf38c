import FramePress.Json.Value
import FramePress.Text.Digits

/-! # JSON numbers

A number without fraction and exponent that fits a 64-bit word is an integer.  Any other number is a
double: its leading digits, as many as fit an unsigned word, scaled by a power of ten.  A number beyond
the doubles is refused, and so is none below them: it becomes zero.

* `takeDigits`: the digits that fit the word.
* `scale?`: a word times a power of ten, as a double.
* `Numeral` and `Numeral.value?`: the parts of a number's text, and the number.
-/

namespace FramePress
set_option autoImplicit false

namespace Json

/-- One more than the largest unsigned word. -/
def wordLimit : Nat := 0x10000000000000000

/-- The number `n` followed by digits, up to the first digit with which it would not fit a word, and
how many digits have been taken. -/
def takeDigits (n taken : Nat) : List Char → Nat × Nat
  | [] => (n, taken)
  | c :: rest =>
    let next := 10 * n + digitValue c
    if next < wordLimit then takeDigits next (taken + 1) rest else (n, taken)

/-- The largest power of ten a double is scaled by at once. -/
def maxPower : Nat := 308

def powerOfTen (n : Nat) : Float := Float.ofScientific 1 false n

def scaleDown (x : Float) (n : Nat) : Float :=
  if n ≤ maxPower then x / powerOfTen n
  else if x == 0 then x
  else scaleDown (x / powerOfTen maxPower) (n - maxPower)
termination_by n
decreasing_by simp only [maxPower] at *; omega

/-- The word `n` times `10 ^ exponent`, unless it is too large for a double. -/
def scale? (n : Nat) (exponent : Int) : Option Float :=
  let x := n.toUInt64.toFloat
  if exponent < 0 then some (scaleDown x exponent.natAbs)
  else if exponent ≤ maxPower then
    let y := x * powerOfTen exponent.natAbs
    if y.isInf then none else some y
  else if n = 0 then some x else none

/-- The text of a number: sign, digits before and after the point, exponent. -/
structure Numeral where
  isNegative : Bool
  whole : List Char
  fraction : Option (List Char)
  exponent : Option Int

namespace Numeral

def double? (t : Numeral) : Option Float :=
  let fraction := t.fraction.getD []
  let (n, kept) := takeDigits 0 0 t.whole
  let (n, more) := takeDigits n 0 fraction
  let exponent := (t.whole.length - kept : Nat) - (more : Int) + t.exponent.getD 0
  (scale? n exponent).map fun x => if t.isNegative then -x else x

/-- The number, an integer if its text is one and it fits a word; minus zero is a double. -/
def value? (t : Numeral) : Option Json :=
  let n := decimal t.whole
  if t.fraction.isNone && t.exponent.isNone then
    if t.isNegative then
      if 0 < n ∧ n ≤ 0x8000000000000000 then some (.integer (-n)) else t.double?.map .double
    else if n < wordLimit then some (.integer n)
    else t.double?.map .double
  else t.double?.map .double

end Numeral
end Json
end FramePress
