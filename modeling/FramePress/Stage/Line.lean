import FramePress.Stage

/-! # A stage and its receiver

* `Line σ`: a stage with its heap and the channel into which it pushes its results.
* `Line.Op` and `Line.step`: messages, frames, and what the receiver does.  The input frame of a call
  comes from the stage's pool and is dropped after the call; a returned result is dropped before it.
-/

namespace FramePress
set_option autoImplicit false

structure Line (σ : Type) where
  stage : Stage σ
  heap : Heap
  channel : Channel := {}

/-- An input frame to be made: its labels and its payload, if it gets one. -/
structure Input where
  dataset : String
  labels : Labels
  payload : Option Bytes

namespace Line

variable {σ : Type}

/-- Results that have not been received, the oldest first. -/
def queue (l : Line σ) : List Frame := l.channel.queue

def isConnected (l : Line σ) : Bool := l.channel.isConnected

inductive Op
  | configure (message : Json)
  | process (input : Input)
  | compress (input : Input)
  | receive
  | disconnect
  | status
  | request

inductive Result
  | warnings (w : Warnings)
  | done
  | frame (f : Frame)
  | nothing
  | settings (fields : Dictionary Json)
  | failed (e : StageError)

def makeInput (a : Allocator) (l : Line σ) (input : Input) : Except StageError Frame × Line σ :=
  let f := Frame.relabel { dataset := input.dataset, pool := l.stage.pool } input.labels
  match input.payload with
  | none => (.ok f, l)
  | some src =>
    match f.store a.block l.heap src with
    | (.error e, _, heap) => (.error (.allocation e), { l with heap := heap })
    | (.ok _, f, heap) => (.ok f, { l with heap := heap })

/-- An input frame processed; its result, if the channel accepts it, waits in the queue. -/
def process (c : Codec σ) (a : Allocator) (l : Line σ) (f : Frame) : Result × Line σ :=
  match l.stage.process c Channel.sink a l.channel l.heap f with
  | (.error e, stage, heap, channel) => (.failed e, ⟨stage, f.drop heap, channel⟩)
  | (.ok _, stage, heap, channel) => (.done, ⟨stage, f.drop heap, channel⟩)

/-- An input frame compressed; the result is dropped when it has been looked at. -/
def compress (c : Codec σ) (a : Allocator) (l : Line σ) (f : Frame) : Result × Line σ :=
  match l.stage.compress c a l.heap f with
  | (.error e, stage, heap) => (.failed e, { l with stage := stage, heap := f.drop heap })
  | (.ok out, stage, heap) =>
    (.frame out, { l with stage := stage, heap := f.drop (out.drop heap) })

/-- The oldest waiting result, dropped when it has been looked at. -/
def receive (l : Line σ) : Result × Line σ :=
  match l.queue with
  | [] => (.nothing, l)
  | f :: rest => (.frame f, { l with channel := { l.channel with queue := rest }, heap := f.drop l.heap })

/-- The receiver goes, and with it all results that wait, the oldest first. -/
def disconnect (l : Line σ) : Line σ where
  stage := l.stage
  heap := l.queue.foldl (fun h f => f.drop h) l.heap
  channel := { queue := [], isConnected := false }

def step (c : Codec σ) (a : Allocator) (l : Line σ) : Op → Result × Line σ
  | .configure message =>
    let (w, stage) := l.stage.configure c message
    (.warnings w, { l with stage := stage })
  | .process input =>
    match l.makeInput a input with
    | (.error e, l) => (.failed e, l)
    | (.ok f, l) => l.process c a f
  | .compress input =>
    match l.makeInput a input with
    | (.error e, l) => (.failed e, l)
    | (.ok f, l) => l.compress c a f
  | .receive => l.receive
  | .disconnect => (.done, l.disconnect)
  | .status => (.settings l.stage.status, l)
  | .request => (.settings l.stage.request, l)

end Line
end FramePress
