import FramePress.Toml.Moment
import FramePress.Toml.Value

/-! # Numbers in TOML

* `digits?`: digits with single underscores between them.
* `double`: the double nearest to a decimal fraction.
* `number?`: an integer or a float.
-/

namespace FramePress
set_option autoImplicit false

namespace Toml

/-! ## Digits -/

/-- The rest of a row of digits; an underscore must be followed by a digit. -/
def digitsRest? (isDigit : Char → Bool) : (fuel : Nat) → (done : List Char) → Reader (List Char)
  | 0, _, _ => none
  | fuel + 1, done, s =>
    match s with
    | [] => some (done.reverse, [])
    | '_' :: rest =>
      match rest with
      | c :: rest => if isDigit c then digitsRest? isDigit fuel (c :: done) rest else none
      | [] => none
    | c :: rest =>
      if isDigit c then digitsRest? isDigit fuel (c :: done) rest else some (done.reverse, s)

/-- A row of digits that begins with one. -/
def digits? (isDigit : Char → Bool) : Reader (List Char)
  | c :: s => if isDigit c then digitsRest? isDigit (s.length + 1) [c] s else none
  | [] => none

/-- The digits of a decimal integer: a zero stands alone. -/
def wholeDigits? : Reader (List Char)
  | '0' :: s => some (['0'], s)
  | s => digits? Char.isDigit s

/-! ## Floats -/

/-- The double nearest to `n * 10 ^ exponent`; infinity if it is too large. -/
def double (n : Nat) (exponent : Int) : Float :=
  let size := (toString n).length + exponent
  if n = 0 ∨ size < -400 then 0
  else if 400 < size then 1 / 0
  else Float.ofScientific n (exponent < 0) exponent.natAbs

def exponent? (s : List Char) : Option (Int × List Char) :=
  match s with
  | '-' :: s => (digits? Char.isDigit s).map fun (ds, s) => (-(decimal ds : Int), s)
  | '+' :: s => (digits? Char.isDigit s).map fun (ds, s) => ((decimal ds : Int), s)
  | s => (digits? Char.isDigit s).map fun (ds, s) => ((decimal ds : Int), s)

/-- The exponent of a float, zero if it has none. -/
def exponentOrZero? : List Char → Option (Int × List Char)
  | c :: s => if c = 'e' ∨ c = 'E' then exponent? s else some (0, c :: s)
  | [] => some (0, [])

/-- A float of a sign, digits before and after the point, and an exponent; infinity is not one. -/
def float? (isNegative : Bool) (whole fraction : List Char) (exponent : Int) : Option Value :=
  let x := double (decimal (whole ++ fraction)) (exponent - fraction.length)
  let x := if isNegative then -x else x
  if x.isInf && !isNegative then none else some (.float x)

/-! ## Integers -/

def integer? (n : Int) : Option Value :=
  if -0x8000000000000000 ≤ n ∧ n < 0x8000000000000000 then some (.integer n) else none

def based? (base : Nat) : Reader Value := fun s => do
  let (ds, s) ← digits? (fun c => (hexValue? c).any (· < base)) s
  let n := ds.foldl (fun n c => base * n + (hexValue? c).getD 0) 0
  let v ← integer? n
  return (v, s)

/-! ## Numbers -/

def unsigned? (isNegative : Bool) : Reader Value := fun s => do
  let (whole, s) ← wholeDigits? s
  match s with
  | '.' :: s =>
    let (fraction, s) ← digits? Char.isDigit s
    let (exponent, s) ← exponentOrZero? s
    let v ← float? isNegative whole fraction exponent
    return (v, s)
  | 'e' :: _ | 'E' :: _ =>
    let (exponent, s) ← exponentOrZero? s
    let v ← float? isNegative whole [] exponent
    return (v, s)
  | s =>
    let v ← integer? (if isNegative then -(decimal whole : Int) else decimal whole)
    return (v, s)

/-- Infinity and the value that is no number, after a sign. -/
def special? (isNegative : Bool) : Reader Value
  | 'i' :: 'n' :: 'f' :: s => some (.float (if isNegative then -(1 / 0) else 1 / 0), s)
  | 'n' :: 'a' :: 'n' :: s => some (.float (0 / 0), s)
  | _ => none

def signed? (isNegative : Bool) : Reader Value := fun s =>
  match special? isNegative s with
  | some found => some found
  | none => unsigned? isNegative s

def number? : Reader Value
  | '+' :: s => signed? false s
  | '-' :: s => signed? true s
  | '0' :: 'x' :: s => based? 16 s
  | '0' :: 'o' :: s => based? 8 s
  | '0' :: 'b' :: s => based? 2 s
  | s => signed? false s

end Toml
end FramePress
