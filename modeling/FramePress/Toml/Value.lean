/-! # TOML values and tables

* `Toml.Value`: what a key can be given.  A date or time is kept as its normal text.
* `Toml.Table`: the keys of a document while it is read.  A table remembers whether it has a header of
  its own (`isImplicit`) and whether it was made by a dotted key (`isDotted`), for that decides whether
  it may be added to.
* `Table.at?`: a change to a table further down, making the tables on the way.
* `Table.put?`: a key, possibly dotted, given a value.
* `Table.toValue`: the table once the document is complete.
-/

namespace FramePress
set_option autoImplicit false

namespace Toml

inductive Value
  | string (s : String)
  | integer (n : Int)
  | float (x : Float)
  | boolean (b : Bool)
  | moment (text : String)
  | array (items : List Value)
  | table (entries : List (String × Value))
  deriving Inhabited

mutual

/-- What a key of a table stands for. -/
inductive Node
  | value (v : Value)
  | table (t : Table)
  /-- A row of tables, each with a header of its own. -/
  | tables (ts : List Table)

inductive Table
  | mk (isImplicit isDotted : Bool) (entries : List (String × Node))

end

namespace Table

def isImplicit : Table → Bool
  | mk i _ _ => i

def isDotted : Table → Bool
  | mk _ d _ => d

def entries : Table → List (String × Node)
  | mk _ _ es => es

/-- A table with a header of its own and nothing in it. -/
def empty : Table := mk false false []

/-- A table that came about on the way to another one. -/
def implied (isDotted : Bool) : Table := mk true isDotted []

def declared (t : Table) : Table := mk false false t.entries

def find? (t : Table) (key : String) : Option Node := t.entries.lookup key

def replaceIn (key : String) (n : Node) : List (String × Node) → List (String × Node)
  | [] => [(key, n)]
  | (k, m) :: rest => if k = key then (key, n) :: rest else (k, m) :: replaceIn key n rest

def set (t : Table) (key : String) (n : Node) : Table :=
  mk t.isImplicit t.isDotted (replaceIn key n t.entries)

/-! ## Changing tables further down -/

/-- The outcome of a change to the table at a path, and the whole table after it.  Missing tables are
made; a row of tables stands for its last one; a dotted key does not lead into a table with a header. -/
def at? {α : Type} (viaDots : Bool) (change : Table → Option (α × Table)) :
    (path : List String) → Table → Option (α × Table)
  | [], t => change t
  | key :: path, t =>
    match t.find? key with
    | none => (at? viaDots change path (implied viaDots)).map fun (a, c) => (a, t.set key (.table c))
    | some (.value _) => none
    | some (.table c) =>
      if viaDots && !c.isImplicit then none
      else (at? viaDots change path c).map fun (a, c) => (a, t.set key (.table c))
    | some (.tables cs) =>
      match cs.getLast? with
      | none => none
      | some c =>
        (at? viaDots change path c).map fun (a, c) => (a, t.set key (.tables (cs.dropLast ++ [c])))

/-- The table with a value under a dotted key; `path` leads to the table of the last part.  No key is
given twice, and tables made by dotted keys are not mixed with others. -/
def put? (t : Table) (path : List String) (key : String) (v : Value) : Option Table :=
  (t.at? true (fun c =>
    if c.isDotted = path.isEmpty ∨ (c.find? key).isSome then none
    else some ((), c.set key (.value v))) path).map (·.2)

end Table

/-! ## Complete tables -/

mutual

def Node.toValue : Node → Value
  | .value v => v
  | .table t => t.toValue
  | .tables ts => .array (Table.toValues ts)

def Table.toValue : Table → Value
  | .mk _ _ es => .table (Table.toEntries es)

def Table.toValues : List Table → List Value
  | [] => []
  | t :: ts => t.toValue :: Table.toValues ts

def Table.toEntries : List (String × Node) → List (String × Value)
  | [] => []
  | (k, n) :: es => (k, n.toValue) :: Table.toEntries es

end

end Toml
end FramePress
