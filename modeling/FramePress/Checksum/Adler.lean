import FramePress.Bytes

/-! # Adler-32

* `adler32`: two sums modulo 65521, one of the bytes and one of the first sum after each byte.
-/

namespace FramePress
set_option autoImplicit false

def adler32 (b : Bytes) : Nat :=
  let sums := b.foldl (fun (s : Nat × Nat) x =>
    let low := (s.1 + x.toNat) % 65521
    (low, (s.2 + low) % 65521)) (1, 0)
  65536 * sums.2 + sums.1

end FramePress
