import FramePress.Codec

/-! # A scripted codec

A codec that does what a script says and keeps a record of the calls it gets.  It stands in for a real
codec to show how a stage behaves when calls are refused or results are wrong.

* `Script`: which calls are refused, and what a compression does.
* `ScriptedCodec`: the script, the selections and the record.
-/

namespace FramePress
set_option autoImplicit false

structure Script where
  /-- The code of a compressor that cannot be selected. -/
  rejectCompressor : Option Nat := none
  /-- A number of threads that cannot be set. -/
  rejectThreads : Option Nat := none
  /-- The status with which compressions fail. -/
  fail : Option Int := none
  /-- By how much compressions report more bytes than the destination has. -/
  excess : Option Nat := none
  /-- The number of bytes a compression writes; without it the source is copied. -/
  produce : Option Nat := none

inductive CodecCall
  | select (c : Compressor)
  | setThreads (n : Nat)
  | compress (p : Params) (c : Compressor) (threads srcSize destSize : Nat)

structure ScriptedCodec where
  script : Script
  compressor : Compressor := .lz4
  threads : Nat := 0
  /-- The calls so far, the latest first. -/
  calls : List CodecCall := []

namespace ScriptedCodec

def record (s : ScriptedCodec) (call : CodecCall) : ScriptedCodec :=
  { s with calls := call :: s.calls }

def select (s : ScriptedCodec) (c : Compressor) : Except Status Unit × ScriptedCodec :=
  let s := s.record (.select c)
  if s.script.rejectCompressor = some c.code then (.error .unsupported, s)
  else (.ok (), { s with compressor := c })

def setThreads (s : ScriptedCodec) (n : Nat) : Except Status Unit × ScriptedCodec :=
  let s := s.record (.setThreads n)
  if s.script.rejectThreads = some n then (.error .noThreads, s)
  else (.ok (), { s with threads := n })

def compress (s : ScriptedCodec) (p : Params) (src dest : Bytes) : Compression ScriptedCodec :=
  let s := s.record (.compress p s.compressor s.threads src.size dest.size)
  match s.script.fail, s.script.excess, s.script.produce with
  | some code, _, _ => ⟨.error ⟨code⟩, dest, s⟩
  | none, some more, _ => ⟨.ok (dest.size + more), dest, s⟩
  | none, none, some n => ⟨.ok n, dest.overlay (Array.replicate (min n dest.size) 0xAB), s⟩
  | none, none, none => ⟨.ok src.size, dest.overlay src, s⟩

def codec (maxOverhead maxThreads : Nat) : Codec ScriptedCodec where
  name := "scripted"
  maxOverhead := maxOverhead
  maxThreads := maxThreads
  compressor := ScriptedCodec.compressor
  threads := ScriptedCodec.threads
  select := select
  setThreads := setThreads
  compress := compress

end ScriptedCodec
end FramePress
