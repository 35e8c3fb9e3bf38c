import FramePress.Codec
import FramePress.Config
import FramePress.Memory.Frame
import FramePress.Settings.Update
import FramePress.Stage.Error
import FramePress.Stage.Telemetry

/-! # The compression stage

A stage turns each frame into a frame with a compressed payload.  Settings are *commanded* at any time;
they become *active* when a frame of another acquisition arrives, so that all frames of an acquisition
are compressed alike.

* `Stage σ`: the state of a stage whose codec has states `σ`.
* `Stage.create`, `Stage.ofConfig`: a stage with default settings, or with those of a configuration.
* `Stage.configure`: a control message; `Stage.report`: the settings under the stage's name.
* `Stage.commit`: binds the stage to an acquisition.
* `Stage.process`, `Stage.compress`: a frame compressed and pushed into a sink, or returned.
-/

namespace FramePress
set_option autoImplicit false

/-- What an allocator grants during one call of a stage. -/
structure Allocator where
  scratch : Grants
  block : Grants

structure Stage (σ : Type) where
  name : String
  /-- The element size for frames without a data type. -/
  defaultTypeSize : Nat := FramePress.defaultTypeSize
  commanded : Settings := {}
  active : Settings := {}
  /-- The acquisition for which the active settings are in force. -/
  binding : Option String := none
  codecState : σ
  stats : Telemetry := {}
  pool : PoolId

namespace Stage

variable {σ : Type}

/-! ## Selecting in the codec -/

/-- The codec asked for the number of threads of some settings, unless it has that number already. -/
def selectThreads (c : Codec σ) (s : Settings) (state : σ) : Except StageError Unit × σ :=
  if c.threads state = s.threads then (.ok (), state)
  else
    match c.setThreads state s.threads with
    | (.ok _, state) => (.ok (), state)
    | (.error status, state) => (.error (.threads s.threads status), state)

/-- The codec asked for the compressor and the number of threads of some settings. -/
def select (c : Codec σ) (s : Settings) (state : σ) : Except StageError Unit × σ :=
  match c.select state s.compressor with
  | (.error status, state) => (.error (.selection s.compressor status), state)
  | (.ok _, state) => selectThreads c s state

/-! ## Messages and reports -/

/-- The stage after the requests of a message, and the warnings. -/
def apply (c : Codec σ) (s : Stage σ) (fields : Dictionary Json) : Warnings × Stage σ :=
  let (commanded, warnings) := s.commanded.update fields c.maxThreads
  (warnings, { s with commanded := commanded })

/-- The stage after a control message, and the warnings; a message that is no object has no effect. -/
def configure (c : Codec σ) (s : Stage σ) (message : Json) : Warnings × Stage σ :=
  match message.fields? with
  | some fields => s.apply c fields
  | none =>
    (Warnings.add {} "configuration" (.string "Expected an object, nothing applied"), s)

/-- The four fields of some settings, each under the name of the stage. -/
def report (s : Stage σ) (settings : Settings) : Dictionary Json :=
  Dictionary.ofList <| [Field.compressor, .threads, .shuffle, .level].map fun field =>
    (s.name ++ "/" ++ field.key, .integer (settings.value field))

def status (s : Stage σ) : Dictionary Json := s.report s.active

def request (s : Stage σ) : Dictionary Json := s.report s.commanded

/-! ## Construction -/

/-- A stage with default settings, which the codec is asked for at once. -/
def create (c : Codec σ) (state : σ) (name : String) (pool : PoolId) : Except StageError (Stage σ) :=
  match select c {} state with
  | (.error e, _) => .error e
  | (.ok _, state) => .ok { name := name, codecState := state, pool := pool }

/-- A stage with a configuration, whose requests are treated like those of a message. -/
def ofConfig (c : Codec σ) (state : σ) (config : StageConfig) (pool : PoolId) :
    Except StageError (Stage σ) :=
  match create c state config.name pool with
  | .error e => .error e
  | .ok s =>
    let s := { s with defaultTypeSize := max config.defaultTypeSize 1 }
    .ok (s.apply c config.initialUpdate).2

/-! ## Acquisitions -/

/-- The stage bound to an acquisition.  If it is not bound to it yet, it is unbound until the codec has
accepted the commanded settings, which then are in force. -/
def commit (c : Codec σ) (s : Stage σ) (acquisition : String) : Except StageError Unit × Stage σ :=
  if s.binding = some acquisition then (.ok (), s)
  else
    match select c s.commanded s.codecState with
    | (.error e, state) => (.error e, { s with binding := none, codecState := state })
    | (.ok _, state) =>
      (.ok (), { s with
        binding := some acquisition
        active := s.commanded
        codecState := state
        stats := s.stats.recordCommit })

/-! ## Frames -/

def frameSettings (s : Stage σ) (f : Frame) : Settings :=
  { s.active with
    typeSize := match f.dataType with
      | some t => t.size
      | none => s.defaultTypeSize
    rawSize := f.dataSize }

/-- The stage after the element size for a frame has been chosen. -/
def countFallback (s : Stage σ) (f : Frame) : Stage σ :=
  if f.dataType.isNone then { s with stats := s.stats.recordFallback } else s

/-- A codec's result for a frame, as the bytes written. -/
def encode (c : Codec σ) (s : Stage σ) (f : Frame) (dest : Bytes) :
    Except StageError Bytes × Stage σ :=
  let settings := s.frameSettings f
  let r := c.compress s.codecState settings.params f.data dest
  let s := { s with codecState := r.state }
  let fail (status : Status) : Except StageError Bytes × Stage σ :=
    (.error (.codec status f.number settings), { s with stats := s.stats.recordFailure })
  match r.result with
  | .error status => fail status
  | .ok n => if dest.size < n then fail .failure else (.ok (r.dest.extract 0 n), s)

/-- A frame with the labels of `f` and another payload. -/
def wrap (grants : Grants) (s : Stage σ) (h : Heap) (f : Frame) (payload : Bytes) :
    Except StageError Frame × Heap :=
  let out : Frame :=
    { dataset := f.dataset
      acquisition := f.acquisition
      number := f.number
      dataType := f.dataType
      dimensions := f.dimensions
      pool := s.pool }
  match out.store grants h payload with
  | (.error e, _, h) => (.error (.allocation e), h)
  | (.ok _, out, h) => (.ok out, h)

/-- The result for a frame once the stage is bound to its acquisition. -/
def encodeFrame (c : Codec σ) (a : Allocator) (s : Stage σ) (h : Heap) (f : Frame) :
    Except StageError Frame × Stage σ × Heap :=
  let s := s.countFallback f
  match zeroed a.scratch (f.dataSize + c.maxOverhead) with
  | .error e => (.error (.allocation e), s, h)
  | .ok dest =>
    match s.encode c f dest with
    | (.error e, s) => (.error e, s, h)
    | (.ok payload, s) =>
      let (result, h) := s.wrap a.block h f payload
      (result, s, h)

def produce (c : Codec σ) (a : Allocator) (s : Stage σ) (h : Heap) (f : Frame) :
    Except StageError Frame × Stage σ × Heap :=
  match s.commit c f.acquisition with
  | (.error e, s) => (.error e, s, h)
  | (.ok _, s) => s.encodeFrame c a h f

/-- The stage after the result for a frame has left it. -/
def recordFrame (s : Stage σ) (f out : Frame) : Stage σ :=
  { s with stats := s.stats.recordFrame f.dataSize out.dataSize }

/-- A frame compressed and pushed into a sink, which decides what becomes of the call.  The result is the
frame that the sink has accepted. -/
def process {τ : Type} (c : Codec σ) (k : Sink τ) (a : Allocator) (s : Stage σ) (sink : τ) (h : Heap)
    (f : Frame) : Except StageError Frame × Stage σ × Heap × τ :=
  match s.produce c a h f with
  | (.error e, s, h) => (.error e, s, h, sink)
  | (.ok out, s, h) =>
    match k.push sink out with
    | (.error _, sink) => (.error (.downstream out.number), s, out.drop h, sink)
    | (.ok _, sink) => (.ok out, s.recordFrame f out, h, sink)

def compress (c : Codec σ) (a : Allocator) (s : Stage σ) (h : Heap) (f : Frame) :
    Except StageError Frame × Stage σ × Heap :=
  match s.produce c a h f with
  | (.error e, s, h) => (.error e, s, h)
  | (.ok out, s, h) => (.ok out, s.recordFrame f out, h)

end Stage
end FramePress
