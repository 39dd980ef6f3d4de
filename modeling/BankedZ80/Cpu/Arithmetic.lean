import BankedZ80.Cpu.Core

/-!
# Arithmetic and logic of the processor

Each operation is a function from bytes (and the incoming flags, where it reads any) to the result
and the outgoing flag byte. The undocumented flags 5 and 3 copy the result's bits, except for a
comparison, which copies the operand's.
-/

namespace BankedZ80

/-- A result byte or word with the flag byte that goes with it. -/
abbrev Flagged (α : Type) := α × UInt8

namespace Arithmetic

open BankedZ80.Flag

/-- Sign, zero and the two copied bits of a result byte. -/
def resultFlags (r : UInt8) : UInt8 := (r &&& 0xA8) ||| bitIf (r == 0) zero

/-- The result flags together with the parity of the result. -/
def parityFlags (r : UInt8) : UInt8 := resultFlags r ||| bitIf (parityEven r) parity

/-! ### Eight-bit addition and subtraction -/

/-- `a + v + carry`, with all flags. -/
def add (a v : UInt8) (carryIn : Bool) : Flagged UInt8 :=
  let sum := a.toUInt16 + v.toUInt16 + (if carryIn then 1 else 0)
  let r := sum.toUInt8
  (r, resultFlags r ||| ((a ^^^ v ^^^ r) &&& half)
    ||| bitIf (((a ^^^ r) &&& (v ^^^ r) &&& 0x80) != 0) parity
    ||| bitIf (sum > 0xFF) carry)

/-- `a - v - carry`, with all flags. -/
def sub (a v : UInt8) (carryIn : Bool) : Flagged UInt8 :=
  let taken := v.toUInt16 + (if carryIn then 1 else 0)
  let r := (a.toUInt16 - taken).toUInt8
  (r, resultFlags r ||| ((a ^^^ v ^^^ r) &&& half)
    ||| bitIf (((a ^^^ v) &&& (a ^^^ r) &&& 0x80) != 0) parity
    ||| subtract ||| bitIf (a.toUInt16 < taken) carry)

/-- The flags of comparing `a` with `v`: those of the subtraction, bits 5 and 3 from `v`. -/
def compare (a v : UInt8) : UInt8 :=
  ((sub a v false).2 &&& ~~~(bit5 ||| bit3)) ||| (v &&& (bit5 ||| bit3))

/-- `v + 1`, keeping the carry of `f`. -/
def increment (v f : UInt8) : Flagged UInt8 :=
  let r := v + 1
  (r, resultFlags r ||| bitIf (v &&& 0x0F == 0x0F) half ||| bitIf (v == 0x7F) parity
    ||| (f &&& carry))

/-- `v - 1`, keeping the carry of `f`. -/
def decrement (v f : UInt8) : Flagged UInt8 :=
  let r := v - 1
  (r, resultFlags r ||| bitIf (v &&& 0x0F == 0) half ||| bitIf (v == 0x80) parity
    ||| subtract ||| (f &&& carry))

/-! ### Logic -/

/-- Flags of a conjunction; only this one sets the half carry. -/
def logicAnd (a v : UInt8) : Flagged UInt8 := let r := a &&& v; (r, parityFlags r ||| half)

def logicXor (a v : UInt8) : Flagged UInt8 := let r := a ^^^ v; (r, parityFlags r)

def logicOr (a v : UInt8) : Flagged UInt8 := let r := a ||| v; (r, parityFlags r)

/-! ### Decimal adjustment -/

/-- Correct a sum or difference of packed decimal bytes. -/
def decimalAdjust (a f : UInt8) : Flagged UInt8 :=
  let low : UInt8 := if f &&& half != 0 || (a &&& 0x0F) > 9 then 0x06 else 0
  let beyond := f &&& carry != 0 || a > 0x99
  let correction := low ||| (if beyond then 0x60 else 0)
  let r := if f &&& subtract != 0 then a - correction else a + correction
  (r, parityFlags r ||| ((a ^^^ r) &&& half) ||| (f &&& subtract) ||| bitIf beyond carry)

/-! ### Sixteen-bit arithmetic -/

/-- `x + y`; sign, zero and parity keep the values they have in `f`. -/
def addWord (x y : UInt16) (f : UInt8) : Flagged UInt16 :=
  let r := x + y
  (r, (f &&& (sign ||| zero ||| parity)) ||| (highByte r &&& (bit5 ||| bit3))
    ||| bitIf ((x &&& 0x0FFF) + (y &&& 0x0FFF) > 0x0FFF) half
    ||| bitIf (r < x) carry)

/-- `x + y + carry`, with all flags. -/
def addCarryWord (x y : UInt16) (carryIn : Bool) : Flagged UInt16 :=
  let low := add (lowByte x) (lowByte y) carryIn
  let high := add (highByte x) (highByte y) (low.2 &&& carry != 0)
  let r := word high.1 low.1
  (r, (high.2 &&& ~~~zero) ||| bitIf (r == 0) zero)

/-- `x - y - carry`, with all flags. -/
def subCarryWord (x y : UInt16) (carryIn : Bool) : Flagged UInt16 :=
  let low := sub (lowByte x) (lowByte y) carryIn
  let high := sub (highByte x) (highByte y) (low.2 &&& carry != 0)
  let r := word high.1 low.1
  (r, (high.2 &&& ~~~zero) ||| bitIf (r == 0) zero)

/-! ### Rotations and shifts -/

/-- The eight rotations and shifts of the bit page. -/
inductive Rotation where
  /-- Rotate left, the top bit also into the carry. -/
  | rotateLeft
  /-- Rotate right, the bottom bit also into the carry. -/
  | rotateRight
  /-- Rotate left through the carry. -/
  | rotateLeftCarry
  /-- Rotate right through the carry. -/
  | rotateRightCarry
  /-- Shift left, a zero enters. -/
  | shiftLeft
  /-- Shift right, the sign stays. -/
  | shiftRight
  /-- Shift left, a one enters. -/
  | shiftLeftOne
  /-- Shift right, a zero enters. -/
  | shiftRightZero
deriving DecidableEq, Repr

/-- The rotated byte and the carry it leaves. -/
def Rotation.apply (op : Rotation) (v : UInt8) (carryIn : Bool) : UInt8 × Bool :=
  let top := v &&& 0x80 != 0
  let bottom := v &&& 1 != 0
  match op with
  | .rotateLeft => ((v <<< 1) ||| bitIf top 1, top)
  | .rotateRight => ((v >>> 1) ||| bitIf bottom 0x80, bottom)
  | .rotateLeftCarry => ((v <<< 1) ||| bitIf carryIn 1, top)
  | .rotateRightCarry => ((v >>> 1) ||| bitIf carryIn 0x80, bottom)
  | .shiftLeft => (v <<< 1, top)
  | .shiftRight => ((v >>> 1) ||| (v &&& 0x80), bottom)
  | .shiftLeftOne => ((v <<< 1) ||| 1, top)
  | .shiftRightZero => (v >>> 1, bottom)

/-- A rotation on the bit page sets all flags. -/
def rotate (op : Rotation) (v f : UInt8) : Flagged UInt8 :=
  let (r, out) := op.apply v (f &&& carry != 0)
  (r, parityFlags r ||| bitIf out carry)

/-- A rotation of the accumulator alone keeps sign, zero and parity. -/
def rotateAccumulator (op : Rotation) (a f : UInt8) : Flagged UInt8 :=
  let (r, out) := op.apply a (f &&& carry != 0)
  (r, (f &&& (sign ||| zero ||| parity)) ||| (r &&& (bit5 ||| bit3)) ||| bitIf out carry)

/-! ### Bit tests -/

/-- Flags of testing bit `n` of `v`, with bits 5 and 3 taken from `source`. -/
def testBit (n : UInt8) (v source f : UInt8) : UInt8 :=
  let r := v &&& (1 <<< n)
  (r &&& sign) ||| bitIf (r == 0) (zero ||| parity) ||| half ||| (source &&& (bit5 ||| bit3))
    ||| (f &&& carry)

end Arithmetic

end BankedZ80
