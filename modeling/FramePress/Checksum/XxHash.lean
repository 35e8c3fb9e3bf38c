import FramePress.Bytes

/-! # XXH64

The 64-bit hash whose low half ends a zstd frame.  Four lanes run over stripes of 32 bytes; they are
merged, the bytes after the last stripe are folded in, and the bits are mixed once more.

* `xxHash64`: the hash with seed zero.
-/

namespace FramePress
set_option autoImplicit false

namespace XxHash

def prime1 : UInt64 := 0x9E3779B185EBCA87
def prime2 : UInt64 := 0xC2B2AE3D27D4EB4F
def prime3 : UInt64 := 0x165667B19E3779F9
def prime4 : UInt64 := 0x85EBCA77C2B2AE63
def prime5 : UInt64 := 0x27D4EB2F165667C5

@[inline] def rotateLeft (x : UInt64) (n : UInt64) : UInt64 := (x <<< n) ||| (x >>> (64 - n))

/-- A lane after eight bytes. -/
@[inline] def round (lane input : UInt64) : UInt64 :=
  rotateLeft (lane + input * prime2) 31 * prime1

structure Lanes where
  a : UInt64 := prime1 + prime2
  b : UInt64 := prime2
  c : UInt64 := 0
  d : UInt64 := 0 - prime1

/-- The lanes after `n` stripes from position `i` on. -/
def stripes (bytes : Bytes) : (n i : Nat) → Lanes → Lanes
  | 0, _, l => l
  | n + 1, i, l =>
    stripes bytes n (i + 32)
      { a := round l.a (bytes.u64At i)
        b := round l.b (bytes.u64At (i + 8))
        c := round l.c (bytes.u64At (i + 16))
        d := round l.d (bytes.u64At (i + 24)) }

def mergeLane (acc lane : UInt64) : UInt64 := (acc ^^^ round 0 lane) * prime1 + prime4

/-- One value for the four lanes. -/
def merge (l : Lanes) : UInt64 :=
  let acc := rotateLeft l.a 1 + rotateLeft l.b 7 + rotateLeft l.c 12 + rotateLeft l.d 18
  mergeLane (mergeLane (mergeLane (mergeLane acc l.a) l.b) l.c) l.d

/-- `n` groups of eight bytes folded in. -/
def foldLongs (bytes : Bytes) : (n i : Nat) → UInt64 → UInt64
  | 0, _, acc => acc
  | n + 1, i, acc =>
    foldLongs bytes n (i + 8) (rotateLeft (acc ^^^ round 0 (bytes.u64At i)) 27 * prime1 + prime4)

def foldWord (acc : UInt64) (w : UInt32) : UInt64 :=
  rotateLeft (acc ^^^ (w.toUInt64 * prime1)) 23 * prime2 + prime3

def foldByte (acc : UInt64) (x : UInt8) : UInt64 :=
  rotateLeft (acc ^^^ (x.toUInt64 * prime5)) 11 * prime1

def avalanche (h : UInt64) : UInt64 :=
  let h := (h ^^^ (h >>> 33)) * prime2
  let h := (h ^^^ (h >>> 29)) * prime3
  h ^^^ (h >>> 32)

end XxHash

open XxHash in
def xxHash64 (bytes : Bytes) : UInt64 :=
  let stripeCount := bytes.size / 32
  let start := if stripeCount = 0 then prime5 else merge (stripes bytes stripeCount 0 {})
  let i := 32 * stripeCount
  let longCount := (bytes.size - i) / 8
  let acc := foldLongs bytes longCount i (start + bytes.size.toUInt64)
  let i := i + 8 * longCount
  let hasWord := i + 4 ≤ bytes.size
  let acc := if hasWord then foldWord acc (bytes.u32At i) else acc
  let i := if hasWord then i + 4 else i
  avalanche ((bytes.extract i bytes.size).foldl foldByte acc)

end FramePress
