/-! # Version

* `Version`: the version of the program, in parts and as text.
-/

namespace FramePress
set_option autoImplicit false

structure Version where
  major : Nat
  minor : Nat
  patch : Nat
  /-- What follows the three numbers, for versions before a release. -/
  suffix : String := ""
  deriving DecidableEq, Repr

namespace Version

def current : Version := { major := 0, minor := 1, patch := 0 }

def short (v : Version) : String := s!"{v.major}.{v.minor}.{v.patch}"

def long (v : Version) : String := v.short ++ v.suffix

end Version
end FramePress
