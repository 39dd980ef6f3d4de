/-!
# Bytes and sixteen-bit words

A word is a pair of bytes, high and low. `word` joins the two, `highByte` and `lowByte` take them
apart (`highByte_word`, `lowByte_word`, `word_highByte_lowByte`), and `bitIf`, `parityEven` and
`signExtend` serve the processor.
-/

namespace BankedZ80

/-- The word with the given high and low byte. -/
def word (high low : UInt8) : UInt16 := high.toUInt16 * 256 + low.toUInt16

/-- The upper eight bits of a word. -/
def highByte (w : UInt16) : UInt8 := (w / 256).toUInt8

/-- The lower eight bits of a word. -/
def lowByte (w : UInt16) : UInt8 := w.toUInt8

@[simp] theorem toNat_word (high low : UInt8) :
    (word high low).toNat = 256 * high.toNat + low.toNat := by
  have h := high.toNat_lt
  have l := low.toNat_lt
  simp only [word, UInt16.toNat_add, UInt16.toNat_mul, UInt8.toNat_toUInt16, UInt16.reduceToNat]
  omega

@[simp] theorem toNat_highByte (w : UInt16) : (highByte w).toNat = w.toNat / 256 := by
  have h := w.toNat_lt
  simp only [highByte, UInt16.toNat_toUInt8, UInt16.toNat_div, UInt16.reduceToNat]
  omega

@[simp] theorem toNat_lowByte (w : UInt16) : (lowByte w).toNat = w.toNat % 256 := by
  simp [lowByte]

@[simp] theorem lowByte_word (high low : UInt8) : lowByte (word high low) = low := by
  have l := low.toNat_lt
  apply UInt8.toNat_inj.1
  simp only [toNat_lowByte, toNat_word]
  omega

@[simp] theorem highByte_word (high low : UInt8) : highByte (word high low) = high := by
  have l := low.toNat_lt
  apply UInt8.toNat_inj.1
  simp only [toNat_highByte, toNat_word]
  omega

@[simp] theorem word_highByte_lowByte (w : UInt16) : word (highByte w) (lowByte w) = w := by
  apply UInt16.toNat_inj.1
  simp only [toNat_word, toNat_highByte, toNat_lowByte]
  omega

/-- The bits of `mask` when the condition holds, no bits otherwise. -/
def bitIf (condition : Bool) (mask : UInt8) : UInt8 := if condition then mask else 0

/-- Does the byte have an even number of one bits? -/
def parityEven (v : UInt8) : Bool :=
  let a := v ^^^ (v >>> 4)
  let b := a ^^^ (a >>> 2)
  let c := b ^^^ (b >>> 1)
  c &&& 1 == 0

/-- A displacement byte read as a signed number, as an addend modulo 65536. -/
def signExtend (d : UInt8) : UInt16 := if d < 0x80 then d.toUInt16 else d.toUInt16 + 0xFF00

end BankedZ80
