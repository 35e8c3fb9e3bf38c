import FramePress.Shuffle

/-! # Parameters of one compression

* `Params`: what a caller chooses for one call, next to the source and the destination.
-/

namespace FramePress
set_option autoImplicit false

structure Params where
  /-- 0 stores the source, 9 compresses hardest. -/
  level : Int
  shuffle : ShuffleMode
  typeSize : Nat
  deriving DecidableEq, Repr

end FramePress
