/-!
# Cyclic redundancy check of 64 bits

The check of blocks in the xz format: the remainder by the reflected polynomial `0xC96C5795D7870F42`,
computed a byte at a time through a table of the remainders of all bytes.
-/

namespace BankedZ80.Crc64

/-- The remainder after one more bit. -/
def shiftBit (r : UInt64) : UInt64 :=
  if r &&& 1 = 1 then (r >>> 1) ^^^ 0xC96C5795D7870F42 else r >>> 1

/-- The remainder of a byte. -/
def byteRemainder (b : UInt8) : UInt64 :=
  (List.range 8).foldl (fun r _ => shiftBit r) b.toUInt64

/-- The remainders of all bytes. -/
def table : Array UInt64 := ((List.range 256).map fun b => byteRemainder b.toUInt8).toArray

/-- The remainder after one more byte. -/
def update (r : UInt64) (b : UInt8) : UInt64 :=
  ((table[((r ^^^ b.toUInt64) &&& 0xFF).toNat]?).getD 0) ^^^ (r >>> 8)

/-- The check of some bytes. -/
def compute (bytes : ByteArray) : UInt64 := ~~~(bytes.foldl update 0xFFFFFFFFFFFFFFFF)

end BankedZ80.Crc64
