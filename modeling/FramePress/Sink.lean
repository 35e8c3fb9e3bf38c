import FramePress.Memory.Frame

/-! # Sinks

A stage pushes its results into a sink, one frame at a time.

* `Sink τ`: a sink whose states are `τ`.  It may refuse any frame, and every push may change its state,
  whether the frame is accepted or not.  A frame that it refuses is dropped.
* `Sink.answering`: a sink of which nothing is known but its answer.
* `Channel`, `Channel.sink`: a queue for a receiver that takes the frames in order, until it goes.
-/

namespace FramePress
set_option autoImplicit false

/-- The receiver of the frames is gone. -/
structure SinkError where
  deriving DecidableEq, Repr

def SinkError.message (_ : SinkError) : String := "frame sink disconnected"

structure Sink (τ : Type) where
  push : τ → Frame → Except SinkError Unit × τ

def Sink.answering (accepted : Bool) : Sink Unit where
  push _ _ := (if accepted then .ok () else .error {}, ())

structure Channel where
  /-- The frames that have not been received, the oldest first. -/
  queue : List Frame := []
  isConnected : Bool := true

namespace Channel

def push (ch : Channel) (f : Frame) : Except SinkError Unit × Channel :=
  if ch.isConnected then (.ok (), { ch with queue := ch.queue ++ [f] }) else (.error {}, ch)

def sink : Sink Channel := ⟨push⟩

end Channel
end FramePress
