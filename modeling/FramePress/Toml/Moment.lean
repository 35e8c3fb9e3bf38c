import FramePress.Toml.Lexical

/-! # Dates and times in TOML

* `Date`, `Time`, `Offset`, `Moment`: the parts of a date-time, of which some may be missing.
* `moment?`: a date, a time or both.
* `Moment.text`: the normal text, with `T` between date and time.
-/

namespace FramePress
set_option autoImplicit false

namespace Toml

structure Date where
  year : Nat
  month : Nat
  day : Nat
  deriving DecidableEq, Repr

structure Time where
  hour : Nat
  minute : Nat
  second : Nat
  nanosecond : Nat
  deriving DecidableEq, Repr

/-- The distance from universal time. -/
inductive Offset
  | utc
  | minutes (n : Int)
  deriving DecidableEq, Repr

structure Moment where
  date : Option Date := none
  time : Option Time := none
  offset : Option Offset := none
  deriving DecidableEq, Repr

/-! ## Calendar -/

def isLeapYear (year : Nat) : Bool := year % 4 = 0 && (year % 100 ≠ 0 || year % 400 = 0)

def daysIn (year month : Nat) : Nat :=
  if month = 2 then (if isLeapYear year then 29 else 28)
  else if month = 4 ∨ month = 6 ∨ month = 9 ∨ month = 11 then 30
  else 31

/-! ## Reading -/

/-- A number of exactly `n` digits within bounds. -/
def fixed? (n least most : Nat) : Reader Nat := fun s =>
  let ds := s.take n
  if ds.length = n ∧ ds.all Char.isDigit ∧ least ≤ decimal ds ∧ decimal ds ≤ most then
    some (decimal ds, s.drop n)
  else none

/-- The text after a character that must come next. -/
def expect? (c : Char) : List Char → Option (List Char)
  | d :: s => if d = c then some s else none
  | [] => none

def date? : Reader Date := fun s => do
  let (year, s) ← fixed? 4 0 9999 s
  let s ← expect? '-' s
  let (month, s) ← fixed? 2 1 12 s
  let s ← expect? '-' s
  let (day, s) ← fixed? 2 1 31 s
  guard (day ≤ daysIn year month)
  return (⟨year, month, day⟩, s)

/-- The nanoseconds behind a point, if there is one; further digits are cut off. -/
def nanoseconds (s : List Char) : Nat × List Char :=
  match s with
  | '.' :: rest =>
    let ds := rest.takeWhile Char.isDigit
    if ds.isEmpty then (0, s)
    else (decimal ((ds ++ List.replicate 9 '0').take 9), rest.drop ds.length)
  | _ => (0, s)

def time? : Reader Time := fun s => do
  let (hour, s) ← fixed? 2 0 23 s
  let s ← expect? ':' s
  let (minute, s) ← fixed? 2 0 59 s
  let s ← expect? ':' s
  let (second, s) ← fixed? 2 0 60 s
  let (nanosecond, s) := nanoseconds s
  return (⟨hour, minute, second, nanosecond⟩, s)

def offsetMinutes? : Reader Nat := fun s => do
  let (hours, s) ← fixed? 2 0 23 s
  let s ← expect? ':' s
  let (minutes, s) ← fixed? 2 0 59 s
  return (60 * hours + minutes, s)

/-- The offset behind a time, if there is one. -/
def offset? : Reader (Option Offset)
  | 'Z' :: s => some (some .utc, s)
  | 'z' :: s => some (some .utc, s)
  | '+' :: s => (offsetMinutes? s).map fun (n, s) => (some (.minutes n), s)
  | '-' :: s => (offsetMinutes? s).map fun (n, s) => (some (.minutes (-n)), s)
  | s => some (none, s)

/-- Whether an hour comes next, which means that what follows must be a time. -/
def startsTime (s : List Char) : Bool :=
  ((fixed? 2 0 23 s).bind fun (_, s) => expect? ':' s).isSome

/-- Whether a year and a dash come next, which means that what follows must be a date. -/
def startsDate (s : List Char) : Bool :=
  ((fixed? 4 0 9999 s).bind fun (_, s) => expect? '-' s).isSome

/-- The time behind a date, if there is one, with its offset. -/
def timeAfterDate? (date : Date) (s : List Char) : Option (Moment × List Char) :=
  match s with
  | c :: rest =>
    if (c = 'T' ∨ c = 't' ∨ c = ' ') ∧ startsTime rest then do
      let (time, s) ← time? rest
      let (offset, s) ← offset? s
      return (⟨some date, some time, offset⟩, s)
    else some (⟨some date, none, none⟩, s)
  | [] => some (⟨some date, none, none⟩, [])

/-- A date, a date with a time, or a time. -/
def moment? : Reader Moment := fun s =>
  if startsDate s then do
    let (date, s) ← date? s
    timeAfterDate? date s
  else do
    let (time, s) ← time? s
    return (⟨none, some time, none⟩, s)

/-! ## Writing -/

def padded (width n : Nat) : String :=
  let ds := (toString n).toList
  String.ofList (List.replicate (width - ds.length) '0' ++ ds)

def Date.text (d : Date) : String := padded 4 d.year ++ "-" ++ padded 2 d.month ++ "-" ++ padded 2 d.day

/-- A fraction of a second without zeros at the end. -/
def fractionText (nanosecond : Nat) : String :=
  if nanosecond = 0 then ""
  else
    "." ++ String.ofList (((padded 9 nanosecond).toList.reverse.dropWhile (· = '0')).reverse)

def Time.text (t : Time) : String :=
  padded 2 t.hour ++ ":" ++ padded 2 t.minute ++ ":" ++ padded 2 t.second ++ fractionText t.nanosecond

def Offset.text : Offset → String
  | .utc => "Z"
  | .minutes n =>
    (if n < 0 then "-" else "+") ++ padded 2 (n.natAbs / 60) ++ ":" ++ padded 2 (n.natAbs % 60)

def Moment.text (m : Moment) : String :=
  (m.date.map Date.text).getD "" ++ (if m.date.isSome && m.time.isSome then "T" else "") ++
    (m.time.map Time.text).getD "" ++ (m.offset.map Offset.text).getD ""

end Toml
end FramePress
