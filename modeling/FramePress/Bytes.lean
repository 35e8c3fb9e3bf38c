/-! # Byte strings

* `Bytes`: a finite sequence of bytes; all payloads, chunks and buffers are of this type.
* `slice?` and `u32At?`: checked reads, `none` when the range does not lie inside.
* `byteAt`: an unchecked read, for positions the caller has already bounded; zero outside.
* `join` and `total`: parts put one after the other, and their size.
* `pieces`: a byte string cut into parts of one length, the last one possibly shorter.
* `overlay`: a buffer whose front has been overwritten.
-/

namespace FramePress
set_option autoImplicit false

abbrev Bytes := Array UInt8

namespace Bytes

/-! ## Reading -/

@[inline] def byteAt (b : Bytes) (i : Nat) : UInt8 := b.getD i 0

def slice? (b : Bytes) (start len : Nat) : Option Bytes :=
  if start + len ≤ b.size then some (b.extract start (start + len)) else none

/-- The little-endian 16-bit number at position `i`; missing bytes count as zero. -/
def u16At (b : Bytes) (i : Nat) : Nat :=
  (b.byteAt i).toNat + 256 * (b.byteAt (i + 1)).toNat

/-- The little-endian 32-bit word of four bytes, least significant first. -/
def wordOf (a b c d : UInt8) : UInt32 :=
  a.toUInt32 ||| (b.toUInt32 <<< 8) ||| (c.toUInt32 <<< 16) ||| (d.toUInt32 <<< 24)

/-- The little-endian word at position `i`; missing bytes count as zero. -/
def u32At (b : Bytes) (i : Nat) : UInt32 :=
  wordOf (b.byteAt i) (b.byteAt (i + 1)) (b.byteAt (i + 2)) (b.byteAt (i + 3))

def u32At? (b : Bytes) (i : Nat) : Option UInt32 :=
  if i + 4 ≤ b.size then some (b.u32At i) else none

/-- The little-endian 64-bit word at position `i`; missing bytes count as zero. -/
def u64At (b : Bytes) (i : Nat) : UInt64 :=
  (b.u32At i).toUInt64 ||| ((b.u32At (i + 4)).toUInt64 <<< 32)

/-! ## Building -/

/-- The four bytes of a word, least significant first. -/
def ofUInt32 (w : UInt32) : Bytes :=
  #[w.toUInt8, (w >>> 8).toUInt8, (w >>> 16).toUInt8, (w >>> 24).toUInt8]

def total (parts : List Bytes) : Nat := parts.foldr (fun b n => b.size + n) 0

def join (parts : List Bytes) : Bytes := parts.toArray.flatten

/-- The parts of length `n` in order; the last one holds what is left. -/
def pieces (b : Bytes) (n : Nat) : List Bytes :=
  (List.range ((b.size + n - 1) / n)).map fun i => b.extract (i * n) ((i + 1) * n)

def overlay (dest front : Bytes) : Bytes := front ++ dest.extract front.size dest.size

/-- The little-endian number of a byte string of any length. -/
def toNatLE (b : Bytes) : Nat := b.foldr (fun x acc => x.toNat + 256 * acc) 0

end Bytes
end FramePress
