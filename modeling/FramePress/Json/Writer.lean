import FramePress.Json.Value
import FramePress.Text.Digits

/-! # Writing JSON

* `exactDecimal`: a finite double as a decimal fraction, all digits of it.
* `Json.render`: the text of a value, on one line.
-/

namespace FramePress
set_option autoImplicit false

namespace Json

/-! ## Doubles -/

/-- A fraction without the zeros at its end, but with one digit at least. -/
def trimZeros (ds : List Char) : List Char :=
  let kept := (ds.reverse.dropWhile (· = '0')).reverse
  if kept.isEmpty then ['0'] else kept

/-- A natural number with the point set before its last `places` digits. -/
def pointed (n places : Nat) : String :=
  let ds := (toString n).toList
  let ds := List.replicate (places + 1 - ds.length) '0' ++ ds
  let whole := ds.take (ds.length - places)
  String.ofList (whole ++ '.' :: trimZeros (ds.drop whole.length))

/-- The decimal text of `m` times a power of two. -/
def binaryDecimal (m : Nat) (e : Int) : String :=
  if 0 ≤ e then pointed (m <<< e.natAbs) 0 else pointed (m * Nat.pow 5 e.natAbs) e.natAbs

/-- The decimal text of a double; one that is not finite has none. -/
def exactDecimal (x : Float) : String :=
  let bits := x.toBits
  let exponent := (bits >>> 52 &&& 0x7ff).toNat
  let fraction := (bits &&& 0xfffffffffffff).toNat
  let sign := if bits >>> 63 = 1 then "-" else ""
  if exponent = 2047 then "null"
  else if exponent = 0 then sign ++ binaryDecimal fraction (-1074)
  else sign ++ binaryDecimal (0x10000000000000 + fraction) ((exponent : Int) - 1075)

/-! ## Strings -/

def quotedChar (c : Char) : List Char :=
  if c = '"' then ['\\', '"']
  else if c = '\\' then ['\\', '\\']
  else if c.toNat < 0x20 then ['\\', 'u', '0', '0', hexDigit (c.toNat / 16), hexDigit (c.toNat % 16)]
  else [c]

def quoted (s : String) : String := "\"" ++ String.ofList (s.toList.flatMap quotedChar) ++ "\""

/-! ## Values -/

mutual

def render : Json → String
  | null => "null"
  | bool true => "true"
  | bool false => "false"
  | integer n => toString n
  | double x => exactDecimal x
  | string s => quoted s
  | array items => "[" ++ renderItems items ++ "]"
  | object fields => "\x7b" ++ renderFields fields ++ "\x7d"

def renderItems : List Json → String
  | [] => ""
  | [v] => render v
  | v :: rest => render v ++ "," ++ renderItems rest

def renderFields : List (String × Json) → String
  | [] => ""
  | [(k, v)] => quoted k ++ ":" ++ render v
  | (k, v) :: rest => quoted k ++ ":" ++ render v ++ "," ++ renderFields rest

end

end Json
end FramePress
