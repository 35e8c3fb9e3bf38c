import FramePress.Lz.Search
import FramePress.Lz4.Length

/-! # LZ4 blocks

A block is a row of sequences: a token with the two length fields, the rest of the literal length, the
literals, a two-byte offset and the rest of the copy length.  The last sequence ends after its literals.

* `encode`: the text of the copy plan of a block.
* `decode`: the bytes of a block that may not become longer than a limit.
-/

namespace FramePress
set_option autoImplicit false

namespace Lz4

/-- How far back a copy may reach. -/
def window : Nat := 65535

/-! ## Writing -/

def token (literalLength extraLength : Nat) : UInt8 :=
  (16 * field literalLength + field extraLength).toUInt8

def sequenceBytes (src : Bytes) (s : Lz.Sequence) : Bytes :=
  #[token s.literalLength (s.length - Lz.minCopy)] ++ extra s.literalLength ++
    src.extract s.literalStart (s.literalStart + s.literalLength) ++
    #[s.offset.toUInt8, (s.offset / 256).toUInt8] ++ extra (s.length - Lz.minCopy)

def tailBytes (src : Bytes) (start : Nat) : Bytes :=
  #[token (src.size - start) 0] ++ extra (src.size - start) ++ src.extract start src.size

def planBytes (src : Bytes) (plan : Lz.Plan) : Bytes :=
  plan.sequences.foldl (fun out s => out ++ sequenceBytes src s) #[] ++ tailBytes src plan.tailStart

def encode (src : Bytes) : Bytes := planBytes src (Lz.plan src window)

/-! ## Reading -/

inductive Step
  /-- The block ends with these literals. -/
  | last (out : Bytes)
  /-- The output grows, and the next sequence begins at a position. -/
  | more (out : Bytes) (next : Nat)

def decodeSequence (b : Bytes) (limit i : Nat) (out : Bytes) : Option Step := do
  let token ← b[i]?
  let (literals, i) ← readLength b (i + 1) (token.toNat / 16)
  let run ← b.slice? i literals
  guard (out.size + literals ≤ limit)
  let out := out ++ run
  let i := i + literals
  if i = b.size then return .last out
  guard (i + 2 ≤ b.size)
  let offset := b.u16At i
  let (copied, i) ← readLength b (i + 2) (token.toNat % 16)
  guard (0 < offset ∧ offset ≤ out.size ∧ out.size + copied + Lz.minCopy ≤ limit)
  return .more (Lz.copyBack out offset (copied + Lz.minCopy)) i

/-- The sequences from position `i` on; every sequence takes at least one byte, so `b.size + 1` units of
fuel are enough. -/
def decodeFrom (b : Bytes) (limit : Nat) : (fuel i : Nat) → (out : Bytes) → Option Bytes
  | 0, _, _ => none
  | fuel + 1, i, out =>
    match decodeSequence b limit i out with
    | none => none
    | some (.last out) => some out
    | some (.more out next) => decodeFrom b limit fuel next out

def decode (b : Bytes) (limit : Nat) : Option Bytes := decodeFrom b limit (b.size + 1) 0 #[]

end Lz4
end FramePress
