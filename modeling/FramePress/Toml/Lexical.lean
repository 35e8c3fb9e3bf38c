import FramePress.Text.Digits

/-! # Characters, keys and strings in TOML

All readers here take the text from some place on; they give what they have read and the text after it,
or nothing if the text is malformed.

* `skipBlank`, `lineEnd?`, `skipLines?`: blanks, the end of a line, and blank lines with comments.
* `text?`: a string in any of the four notations.
* `key?`: a key, as the row of its parts.
-/

namespace FramePress
set_option autoImplicit false

namespace Toml

/-- A reader of an `α` at the front of a text. -/
abbrev Reader (α : Type) := List Char → Option (α × List Char)

/-! ## Blanks and comments -/

def isBlank (c : Char) : Bool := c = ' ' || c = '\t'

def skipBlank (s : List Char) : List Char := s.dropWhile isBlank

/-- The characters of comments and strings: a tab is the only control character among them. -/
def isPlain (c : Char) : Bool := c = '\t' || (0x20 ≤ c.toNat && c.toNat ≠ 0x7f)

def newline? : List Char → Option (List Char)
  | '\n' :: s => some s
  | '\r' :: '\n' :: s => some s
  | _ => none

/-- The text after a comment, if there is one here. -/
def skipComment : List Char → List Char
  | '#' :: s => s.dropWhile isPlain
  | s => s

/-- The text after the rest of a line that holds at most a comment. -/
def lineEnd? (s : List Char) : Option (List Char) :=
  match skipComment (skipBlank s) with
  | [] => some []
  | s => newline? s

/-- The text after blanks, line breaks, and comments that are followed by a line break. -/
def skipLines : (fuel : Nat) → List Char → List Char
  | 0, s => s
  | fuel + 1, s =>
    let s := skipBlank s
    match newline? (skipComment s) with
    | some rest => skipLines fuel rest
    | none => s

/-! ## Escapes -/

/-- The character with the number given by `n` further hexadecimal digits. -/
def numbered? : (n value : Nat) → Reader Char
  | 0, value, s => if value.isValidChar then some (Char.ofNat value, s) else none
  | n + 1, value, c :: s =>
    match hexValue? c with
    | none => none
    | some d => numbered? n (16 * value + d) s
  | _ + 1, _, [] => none

/-- The character that an escape stands for, after the backslash. -/
def escaped? : Reader Char
  | 'b' :: s => some ('\x08', s)
  | 'f' :: s => some ('\x0c', s)
  | 'n' :: s => some ('\n', s)
  | 'r' :: s => some ('\r', s)
  | 't' :: s => some ('\t', s)
  | '"' :: s => some ('"', s)
  | '\\' :: s => some ('\\', s)
  | 'u' :: s => numbered? 4 0 s
  | 'U' :: s => numbered? 8 0 s
  | _ => none

/-! ## Strings on one line -/

/-- The rest of a string in double quotes. -/
def basicRest? : (fuel : Nat) → (done : List Char) → Reader String
  | 0, _, _ => none
  | fuel + 1, done, s =>
    match s with
    | [] => none
    | '"' :: s => some (String.ofList done.reverse, s)
    | '\\' :: s =>
      match escaped? s with
      | none => none
      | some (c, s) => basicRest? fuel (c :: done) s
    | c :: s => if isPlain c then basicRest? fuel (c :: done) s else none

/-- The rest of a string in single quotes. -/
def literalRest? (s : List Char) : Option (String × List Char) :=
  let body := s.takeWhile fun c => isPlain c && c ≠ '\''
  match s.drop body.length with
  | '\'' :: s => some (String.ofList body, s)
  | _ => none

/-! ## Strings on several lines -/

def skipSpace : (fuel : Nat) → List Char → List Char
  | 0, s => s
  | fuel + 1, s =>
    match newline? (skipBlank s) with
    | some rest => skipSpace fuel rest
    | none => skipBlank s

/-- The end of a string that is closed by three quotes: up to two more quotes belong to the string. -/
def closing? (quote : Char) (done s : List Char) : Option (String × List Char) :=
  let n := (s.takeWhile (· = quote)).length
  if n < 3 then none
  else
    let more := min (n - 3) 2
    some (String.ofList ((List.replicate more quote) ++ done).reverse, s.drop (more + 3))

/-- The rest of a string in three double quotes. -/
def blockRest? : (fuel : Nat) → (done : List Char) → Reader String
  | 0, _, _ => none
  | fuel + 1, done, s =>
    match closing? '"' done s with
    | some found => some found
    | none =>
      match newline? s with
      | some s => blockRest? fuel ('\n' :: done) s
      | none =>
        match s with
        | [] => none
        | '\\' :: s =>
          match newline? (skipBlank s) with
          | some rest => blockRest? fuel done (skipSpace rest.length rest)
          | none =>
            match escaped? s with
            | none => none
            | some (c, s) => blockRest? fuel (c :: done) s
        | c :: s => if isPlain c then blockRest? fuel (c :: done) s else none

/-- The rest of a string in three single quotes. -/
def literalBlockRest? : (fuel : Nat) → (done : List Char) → Reader String
  | 0, _, _ => none
  | fuel + 1, done, s =>
    match closing? '\'' done s with
    | some found => some found
    | none =>
      match newline? s with
      | some s => literalBlockRest? fuel ('\n' :: done) s
      | none =>
        match s with
        | [] => none
        | c :: s => if isPlain c then literalBlockRest? fuel (c :: done) s else none

/-- The text without a line break at its front. -/
def dropNewline (s : List Char) : List Char := (newline? s).getD s

def text? : Reader String
  | '"' :: '"' :: '"' :: s => blockRest? (s.length + 1) [] (dropNewline s)
  | '"' :: s => basicRest? (s.length + 1) [] s
  | '\'' :: '\'' :: '\'' :: s => literalBlockRest? (s.length + 1) [] (dropNewline s)
  | '\'' :: s => literalRest? s
  | _ => none

/-! ## Keys -/

/-- The characters of keys without quotes. -/
def isBare (c : Char) : Bool := c.isAlphanum || c = '-' || c = '_'

def keyPart? : Reader String
  | '"' :: s => basicRest? (s.length + 1) [] s
  | '\'' :: s => literalRest? s
  | s =>
    let part := s.takeWhile isBare
    if part.isEmpty then none else some (String.ofList part, s.drop part.length)

/-- The parts of a key from the next one on. -/
def keyParts? : (fuel : Nat) → (done : List String) → Reader (List String)
  | 0, _, _ => none
  | fuel + 1, done, s =>
    match keyPart? (skipBlank s) with
    | none => none
    | some (part, s) =>
      match skipBlank s with
      | '.' :: s => keyParts? fuel (part :: done) s
      | s => some ((part :: done).reverse, s)

/-- Keys have fewer parts than this, and values nest less deep. -/
def depthLimit : Nat := 80

def key? : Reader (List String) := fun s =>
  (keyParts? (s.length + 1) [] s).filter fun (parts, _) => parts.length < depthLimit

end Toml
end FramePress
