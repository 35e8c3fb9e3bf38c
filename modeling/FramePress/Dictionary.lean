/-! # Dictionaries

* `Dictionary`: values under distinct keys, in the order of the keys.
* `find?`, `insert` and `erase`: the value under a key, and the dictionary with another value, or none,
  under a key.
-/

namespace FramePress
set_option autoImplicit false

/-- Pairs of a key and a value, in ascending order of the keys. -/
abbrev Dictionary (α : Type) := List (String × α)

namespace Dictionary

variable {α : Type}

def find? (d : Dictionary α) (key : String) : Option α := d.lookup key

/-- The dictionary with `value` under `key`, in place of any other value there. -/
def insert (d : Dictionary α) (key : String) (value : α) : Dictionary α :=
  match d with
  | [] => [(key, value)]
  | (k, v) :: rest =>
    if key < k then (key, value) :: (k, v) :: rest
    else if key = k then (key, value) :: rest
    else (k, v) :: insert rest key value

def erase (d : Dictionary α) (key : String) : Dictionary α := d.filter fun p => p.1 ≠ key

/-- The dictionary of some pairs; the last of several pairs with one key counts. -/
def ofList (pairs : List (String × α)) : Dictionary α :=
  pairs.foldl (fun d (k, v) => insert d k v) []

end Dictionary
end FramePress
