import BankedZ80.Bytes

/-!
# Bits of bytes

The bits of a byte array, counted from the lowest bit of its first byte up. Zeros follow the last byte.
-/

namespace BankedZ80.Bits

/-- The bit at a position. -/
def get (data : ByteArray) (k : Nat) : Nat :=
  if k / 8 < data.size then (Bytes.get data (k / 8)).toNat / 2 ^ (k % 8) % 2 else 0

/-- The number of that many bits from a position on, the lowest first. -/
def number (data : ByteArray) (k : Nat) : Nat → Nat
  | 0 => 0
  | n + 1 => get data k + 2 * number data (k + 1) n

end BankedZ80.Bits
