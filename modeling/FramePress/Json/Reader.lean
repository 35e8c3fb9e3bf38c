import FramePress.Json.Number

/-! # Reading JSON

* `Json.parse?`: the value a text stands for.  Values nest at most 127 deep; of several members with
  one name the last counts; a text that is not exactly one value has none.
-/

namespace FramePress
set_option autoImplicit false

namespace Json

def maxDepth : Nat := 127

def isSpace (c : Char) : Bool := c = ' ' || c = '\n' || c = '\t' || c = '\r'

def skipSpace (s : List Char) : List Char := s.dropWhile isSpace

/-! ## Numbers -/

/-- The digits at the front, if there is at least one. -/
def digits? (s : List Char) : Option (List Char × List Char) :=
  let ds := s.takeWhile Char.isDigit
  if ds.isEmpty then none else some (ds, s.dropWhile Char.isDigit)

/-- The fraction, if there is one; `none` if a point has no digit behind it. -/
def fraction? : List Char → Option (Option (List Char) × List Char)
  | '.' :: s => (digits? s).map fun (ds, s) => (some ds, s)
  | s => some (none, s)

def signedExponent? (s : List Char) : Option (Int × List Char) :=
  match s with
  | '-' :: s => (digits? s).map fun (ds, s) => (-(decimal ds : Int), s)
  | '+' :: s => (digits? s).map fun (ds, s) => ((decimal ds : Int), s)
  | s => (digits? s).map fun (ds, s) => ((decimal ds : Int), s)

/-- The exponent, if there is one; `none` if its mark has no digit behind it. -/
def exponent? : List Char → Option (Option Int × List Char)
  | c :: s =>
    if c = 'e' ∨ c = 'E' then (signedExponent? s).map fun (e, s) => (some e, s)
    else some (none, c :: s)
  | [] => some (none, [])

def number? (isNegative : Bool) (s : List Char) : Option (Json × List Char) := do
  let (whole, s) ← digits? s
  guard (whole.length = 1 ∨ whole.head? ≠ some '0')
  let (fraction, s) ← fraction? s
  let (exponent, s) ← exponent? s
  let value ← Numeral.value? ⟨isNegative, whole, fraction, exponent⟩
  return (value, s)

/-! ## Strings -/

def unit? : List Char → Option (Nat × List Char)
  | a :: b :: c :: d :: s => do
    let a ← hexValue? a
    let b ← hexValue? b
    let c ← hexValue? c
    let d ← hexValue? d
    return (((a * 16 + b) * 16 + c) * 16 + d, s)
  | _ => none

def isHighUnit (n : Nat) : Bool := 0xD800 ≤ n && n < 0xDC00
def isLowUnit (n : Nat) : Bool := 0xDC00 ≤ n && n < 0xE000

/-- A character given by one unit, or by a high and a low one. -/
def escapedUnits? (s : List Char) : Option (Char × List Char) := do
  let (high, s) ← unit? s
  if isHighUnit high then
    match s with
    | '\\' :: 'u' :: s => do
      let (low, s) ← unit? s
      guard (isLowUnit low)
      return (Char.ofNat (0x10000 + (high - 0xD800) * 0x400 + (low - 0xDC00)), s)
    | _ => none
  else
    guard (!isLowUnit high)
    return (Char.ofNat high, s)

def escaped? : List Char → Option (Char × List Char)
  | '"' :: s => some ('"', s)
  | '\\' :: s => some ('\\', s)
  | '/' :: s => some ('/', s)
  | 'b' :: s => some ('\x08', s)
  | 'f' :: s => some ('\x0c', s)
  | 'n' :: s => some ('\n', s)
  | 'r' :: s => some ('\r', s)
  | 't' :: s => some ('\t', s)
  | 'u' :: s => escapedUnits? s
  | _ => none

/-- The rest of a string after its opening quote; each step takes a character, so as many units of fuel
as there are characters are enough. -/
def stringRest? : (fuel : Nat) → (s : List Char) → (done : List Char) → Option (String × List Char)
  | 0, _, _ => none
  | _ + 1, [], _ => none
  | fuel + 1, c :: s, done =>
    if c = '"' then some (String.ofList done.reverse, s)
    else if c = '\\' then
      match escaped? s with
      | none => none
      | some (c, s) => stringRest? fuel s (c :: done)
    else if c.toNat < 0x20 then none
    else stringRest? fuel s (c :: done)

def string? (s : List Char) : Option (String × List Char) := stringRest? (s.length + 1) s []

/-! ## Values -/

def afterWord? (word : List Char) (s : List Char) : Option (List Char) :=
  if word.isPrefixOf s then some (s.drop word.length) else none

mutual

/-- A value; arrays and objects may nest `depth` deep. -/
def value? : (fuel depth : Nat) → List Char → Option (Json × List Char)
  | 0, _, _ => none
  | fuel + 1, depth, s =>
    match skipSpace s with
    | '"' :: s => (string? s).map fun (t, s) => (.string t, s)
    | '-' :: s => number? true s
    | 'n' :: s => (afterWord? ['u', 'l', 'l'] s).map fun s => (.null, s)
    | 't' :: s => (afterWord? ['r', 'u', 'e'] s).map fun s => (.bool true, s)
    | 'f' :: s => (afterWord? ['a', 'l', 's', 'e'] s).map fun s => (.bool false, s)
    | '[' :: s =>
      match depth, skipSpace s with
      | 0, _ => none
      | _ + 1, ']' :: s => some (.array [], s)
      | depth + 1, s => items? fuel depth s []
    | '{' :: s =>
      match depth, skipSpace s with
      | 0, _ => none
      | _ + 1, '}' :: s => some (.object [], s)
      | depth + 1, s => members? fuel depth s []
    | s => number? false s

/-- The items of an array from the next one on. -/
def items? : (fuel depth : Nat) → List Char → (done : List Json) → Option (Json × List Char)
  | 0, _, _, _ => none
  | fuel + 1, depth, s, done =>
    match value? fuel depth s with
    | none => none
    | some (v, s) =>
      match skipSpace s with
      | ',' :: s => items? fuel depth s (v :: done)
      | ']' :: s => some (.array (v :: done).reverse, s)
      | _ => none

/-- The members of an object from the next one on. -/
def members? : (fuel depth : Nat) → List Char → (done : Dictionary Json) → Option (Json × List Char)
  | 0, _, _, _ => none
  | fuel + 1, depth, s, done =>
    match skipSpace s with
    | '"' :: s =>
      match string? s with
      | none => none
      | some (key, s) =>
        match skipSpace s with
        | ':' :: s =>
          match value? fuel depth s with
          | none => none
          | some (v, s) =>
            match skipSpace s with
            | ',' :: s => members? fuel depth s (done.insert key v)
            | '}' :: s => some (.object (done.insert key v), s)
            | _ => none
        | _ => none
    | _ => none

end

def parse? (text : String) : Option Json :=
  let s := text.toList
  match value? (2 * s.length + 2) maxDepth s with
  | some (v, s) => if (skipSpace s).isEmpty then some v else none
  | none => none

end Json
end FramePress
