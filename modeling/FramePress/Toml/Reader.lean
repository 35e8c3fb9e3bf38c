import FramePress.Toml.Number

/-! # Reading TOML documents

* `value?`: a value; arrays may run over several lines, inline tables may not.
* `Draft`: a document that has been read up to some line, with the table that lines belong to.
* `Toml.parse?`: the entries of a document.
-/

namespace FramePress
set_option autoImplicit false

namespace Toml

/-! ## Values -/

def afterWord? (word : String) (s : List Char) : Option (List Char) :=
  if word.toList.isPrefixOf s then some (s.drop word.length) else none

def scalar? : Reader Value := fun s =>
  match s with
  | [] => none
  | '"' :: _ | '\'' :: _ => (text? s).map fun (t, s) => (.string t, s)
  | 't' :: _ => (afterWord? "true" s).map fun s => (.boolean true, s)
  | 'f' :: _ => (afterWord? "false" s).map fun s => (.boolean false, s)
  | _ =>
    if startsDate s || startsTime s then (moment? s).map fun (m, s) => (.moment m.text, s)
    else number? s

mutual

/-- A value inside `depth` others. -/
def value? : (fuel depth : Nat) → Reader Value
  | 0, _, _ => none
  | fuel + 1, depth, s =>
    match s with
    | '[' :: s => if depth + 1 < depthLimit then items? fuel (depth + 1) [] s else none
    | '{' :: s =>
      if depth + 1 < depthLimit then
        match skipBlank s with
        | '}' :: s => some (.table [], s)
        | s => pairs? fuel (depth + 1) .empty s
      else none
    | s => scalar? s

/-- The items of an array from the next one on; a comma may follow the last one. -/
def items? : (fuel depth : Nat) → (done : List Value) → Reader Value
  | 0, _, _, _ => none
  | fuel + 1, depth, done, s =>
    match skipLines s.length s with
    | ']' :: s => some (.array done.reverse, s)
    | s =>
      match value? fuel depth s with
      | none => none
      | some (v, s) =>
        match skipLines s.length s with
        | ',' :: s => items? fuel depth (v :: done) s
        | ']' :: s => some (.array (v :: done).reverse, s)
        | _ => none

/-- The pairs of an inline table from the next one on. -/
def pairs? : (fuel depth : Nat) → (done : Table) → Reader Value
  | 0, _, _, _ => none
  | fuel + 1, depth, done, s =>
    match key? s with
    | none => none
    | some (parts, s) =>
      match s with
      | '=' :: s =>
        match value? fuel depth (skipBlank s) with
        | none => none
        | some (v, s) =>
          match done.put? parts.dropLast (parts.getLast?.getD "") v with
          | none => none
          | some done =>
            match skipBlank s with
            | ',' :: s => pairs? fuel depth done s
            | '}' :: s => some (done.toValue, s)
            | _ => none
      | _ => none

end

/-! ## Tables -/

/-- A document up to some line: all tables but the current one, which is to be put at `path`. -/
structure Draft where
  root : Table := .empty
  current : Table := .empty
  path : List String := []
  isRow : Bool := false

namespace Draft

/-- The root with the current table in its place. -/
def close? (d : Draft) : Option Table :=
  match d.path.getLast? with
  | none => some d.current
  | some key =>
    (d.root.at? false (fun parent =>
      if d.isRow then
        match parent.find? key with
        | none => some ((), parent.set key (.tables [d.current]))
        | some (.tables ts) => some ((), parent.set key (.tables (ts ++ [d.current])))
        | some _ => none
      else some ((), parent.set key (.table d.current))) d.path.dropLast).map (·.2)

/-- A table that a header begins: a new one, or one that exists only for the tables in it. -/
def opened? (parent : Table) (key : String) : Option Table :=
  match parent.find? key with
  | none => some .empty
  | some (.table t) => if t.isImplicit && !t.isDotted then some t.declared else none
  | some _ => none

def header? (d : Draft) (path : List String) : Option Draft := do
  let root ← d.close?
  let key ← path.getLast?
  let (current, root) ← root.at? false
    (fun parent => (opened? parent key).map fun t => (t, parent)) path.dropLast
  return { root := root, current := current, path := path }

/-- Whether a row of tables may go under a key. -/
def takesRow (parent : Table) (key : String) : Bool :=
  match parent.find? key with
  | none => true
  | some (.tables _) => true
  | some _ => false

def rowHeader? (d : Draft) (path : List String) : Option Draft := do
  let root ← d.close?
  let key ← path.getLast?
  let ((), root) ← root.at? false
    (fun parent => if takesRow parent key then some ((), parent) else none) path.dropLast
  return { root := root, path := path, isRow := true }

def pair? (d : Draft) (parts : List String) (v : Value) : Option Draft :=
  (d.current.put? parts.dropLast (parts.getLast?.getD "") v).map fun t => { d with current := t }

end Draft

/-! ## Documents -/

/-- The draft after the line that begins here, and the text after it. -/
def line? (d : Draft) : Reader Draft := fun s =>
  match s with
  | '[' :: '[' :: s => do
    let (path, s) ← key? s
    let s ← expect? ']' s
    let s ← expect? ']' s
    let s ← lineEnd? s
    let d ← d.rowHeader? path
    return (d, s)
  | '[' :: s => do
    let (path, s) ← key? s
    let s ← expect? ']' s
    let s ← lineEnd? s
    let d ← d.header? path
    return (d, s)
  | s => do
    let (parts, s) ← key? s
    let s ← expect? '=' s
    let (v, s) ← value? (2 * s.length + 2) 0 (skipBlank s)
    let s ← lineEnd? s
    let d ← d.pair? parts v
    return (d, s)

/-- The draft after all lines from here on. -/
def lines? : (fuel : Nat) → Draft → List Char → Option Draft
  | 0, _, _ => none
  | fuel + 1, d, s =>
    match lineEnd? s with
    | some [] => some d
    | some rest => lines? fuel d rest
    | none =>
      match line? d (skipBlank s) with
      | none => none
      | some (d, rest) => lines? fuel d rest

def dropMark : List Char → List Char
  | '\uFEFF' :: s => s
  | s => s

def parse? (text : String) : Option (List (String × Value)) := do
  let s := dropMark text.toList
  let d ← lines? (s.length + 1) {} s
  let root ← d.close?
  match root.toValue with
  | .table entries => return entries
  | _ => none

end Toml
end FramePress
