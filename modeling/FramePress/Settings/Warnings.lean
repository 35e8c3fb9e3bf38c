import FramePress.Json.Value

/-! # Warnings

* `Warnings`: what was not taken as requested, by subject; a later warning on a subject replaces an
  earlier one.
* `toJson`: the warnings as one object.
-/

namespace FramePress
set_option autoImplicit false

structure Warnings where
  /-- Each warning under the key of its subject. -/
  entries : Dictionary Json := []

namespace Warnings

def key (subject : String) : String := "warning: " ++ subject

def add (w : Warnings) (subject : String) (value : Json) : Warnings :=
  ⟨w.entries.insert (key subject) value⟩

def find? (w : Warnings) (subject : String) : Option Json := w.entries.find? (key subject)

def isEmpty (w : Warnings) : Bool := w.entries.isEmpty

def size (w : Warnings) : Nat := w.entries.length

def toJson (w : Warnings) : Json := .object w.entries

end Warnings
end FramePress
