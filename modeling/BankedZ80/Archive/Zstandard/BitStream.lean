import BankedZ80.Archive.Bits

/-!
# Bit streams of zstandard

A bit stream is written from its first bit to its last and read from its last bit to its first. The
highest one-bit of the last byte marks the end and is not itself part of the stream.
-/

namespace BankedZ80.Zstandard

/-- A bit stream, of which so many bits are left. -/
structure BitStream where
  data : ByteArray
  left : Nat

/-- The stream in some bytes. -/
def BitStream.ofBytes? (data : ByteArray) : Option BitStream :=
  let last := (Bytes.get data (data.size - 1)).toNat
  if data.size = 0 || last = 0 then none
  else some { data, left := 8 * (data.size - 1) + last.log2 }

/-- The number of the next bits, zeros coming after the stream. -/
def BitStream.peek (s : BitStream) (n : Nat) : Nat :=
  if n ≤ s.left then Bits.number s.data (s.left - n) n
  else Bits.number s.data 0 s.left * 2 ^ (n - s.left)

/-- Read a number of that many bits. -/
def BitStream.read? (s : BitStream) (n : Nat) : Option (Nat × BitStream) :=
  if n ≤ s.left then some (s.peek n, { s with left := s.left - n }) else none

end BankedZ80.Zstandard
