import FramePress.Memory.Block
import FramePress.Settings
import FramePress.Sink
import FramePress.Status

/-! # Why a stage refuses a frame

* `StageError`: the cause, and its text.
-/

namespace FramePress
set_option autoImplicit false

inductive StageError
  | allocation (e : AllocationError)
  /-- The codec failed on a frame, or reported more bytes than it had room for. -/
  | codec (status : Status) (frame : Nat) (settings : Settings)
  | selection (compressor : Compressor) (status : Status)
  | threads (n : Nat) (status : Status)
  /-- The sink has refused the result for a frame. -/
  | downstream (frame : Nat)
  deriving DecidableEq, Repr

def StageError.message : StageError → String
  | allocation e => e.message
  | codec status frame settings =>
    s!"compression failed for frame {frame} ({settings.describe}): {status.message}"
  | selection c status => s!"codec refused compressor {c.name}: {status.message}"
  | threads n status => s!"codec refused {n} threads: {status.message}"
  | downstream frame =>
    let source : SinkError := {}
    s!"downstream rejected frame {frame}: {source.message}"

end FramePress
