/-! # Telemetry

* `Telemetry`: what a stage has counted, in 64-bit words.
* `Telemetry.ratio`: the raw size of all frames over the size of their results.
-/

namespace FramePress
set_option autoImplicit false

structure Telemetry where
  frames : UInt64 := 0
  failures : UInt64 := 0
  emptyResults : UInt64 := 0
  /-- Frames whose samples had no declared type. -/
  typeFallbacks : UInt64 := 0
  bytesIn : UInt64 := 0
  bytesOut : UInt64 := 0
  /-- How often settings were put into force for an acquisition. -/
  commits : UInt64 := 0
  deriving DecidableEq, Repr

namespace Telemetry

def recordFrame (t : Telemetry) (bytesIn bytesOut : Nat) : Telemetry :=
  { t with
    frames := t.frames + 1
    bytesIn := t.bytesIn + bytesIn.toUInt64
    bytesOut := t.bytesOut + bytesOut.toUInt64
    emptyResults := if bytesOut = 0 then t.emptyResults + 1 else t.emptyResults }

def recordFailure (t : Telemetry) : Telemetry := { t with failures := t.failures + 1 }

def recordFallback (t : Telemetry) : Telemetry := { t with typeFallbacks := t.typeFallbacks + 1 }

def recordCommit (t : Telemetry) : Telemetry := { t with commits := t.commits + 1 }

/-- Raw over compressed size; zero before there is any output. -/
def ratio (t : Telemetry) : Float :=
  if t.bytesOut = 0 then 0 else t.bytesIn.toFloat / t.bytesOut.toFloat

end Telemetry
end FramePress
