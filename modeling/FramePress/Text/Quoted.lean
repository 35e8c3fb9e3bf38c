import FramePress.Text.Digits
import FramePress.Text.Unprintable

/-! # Quoted text

* `Quoted.char`: a character between quotes; one that could not be seen is written as its number.
* `quoted`: a text between quotes.
-/

namespace FramePress
set_option autoImplicit false

namespace Quoted

/-- The hexadecimal digits of a number, most significant first, none for zero. -/
def hexDigits (n : Nat) : List Char :=
  if n = 0 then [] else hexDigits (n / 16) ++ [hexDigit (n % 16)]

def number (c : Char) : List Char :=
  ['\\', 'u', '\x7b'] ++ (if c.toNat = 0 then ['0'] else hexDigits c.toNat) ++ ['\x7d']

def char (c : Char) : List Char :=
  match c with
  | '"' => ['\\', '"']
  | '\\' => ['\\', '\\']
  | '\n' => ['\\', 'n']
  | '\r' => ['\\', 'r']
  | '\t' => ['\\', 't']
  | '\x00' => ['\\', '0']
  | c => if isUnprintable c then number c else [c]

end Quoted

def quoted (s : String) : String := "\"" ++ String.ofList (s.toList.flatMap Quoted.char) ++ "\""

end FramePress
