/-!
# Cyclic redundancy check

The 32-bit check of ZIP entries: the remainder by the reflected polynomial `0xEDB88320`, computed a
byte at a time through a table of the remainders of all bytes.
-/

namespace BankedZ80.Crc32

/-- The remainder after one more bit. -/
def shiftBit (r : UInt32) : UInt32 :=
  if r &&& 1 = 1 then (r >>> 1) ^^^ 0xEDB88320 else r >>> 1

/-- The remainder of a byte. -/
def byteRemainder (b : UInt8) : UInt32 :=
  (List.range 8).foldl (fun r _ => shiftBit r) b.toUInt32

/-- The remainders of all bytes. -/
def table : Array UInt32 := ((List.range 256).map fun b => byteRemainder b.toUInt8).toArray

/-- The remainder after one more byte. -/
def update (r : UInt32) (b : UInt8) : UInt32 :=
  ((table[((r ^^^ b.toUInt32) &&& 0xFF).toNat]?).getD 0) ^^^ (r >>> 8)

/-- The check of some bytes. -/
def compute (bytes : ByteArray) : UInt32 := ~~~(bytes.foldl update 0xFFFFFFFF)

end BankedZ80.Crc32
