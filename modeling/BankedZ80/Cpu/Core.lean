import BankedZ80.Word

/-!
# Registers of the processor

`Core` is everything the processor remembers between two steps: the main and the shadow registers,
the address latch `wz` that shows through in two undocumented flags, the index register an opcode
byte DD or FD selected for the next step, and whether the last step computed flags.

Sixteen-bit registers are kept as their two bytes where the machine names the bytes, so a change of
one byte leaves the others alone by construction.
-/

namespace BankedZ80

/-- Silicon variants; they differ in undocumented behaviour only. -/
inductive Flavour where
  | nmos
  | cmos
  | bm1
deriving DecidableEq, Repr

/-- The register pair that plays the part of HL in one step. -/
inductive IndexPair where
  | hl
  | ix
  | iy
deriving DecidableEq, Repr

/-- Interrupt modes, kept although no interrupt ever arrives. -/
inductive InterruptMode where
  | mode0
  | mode1
  | mode2
deriving DecidableEq, Repr

/-! ### Masks of the flags -/

/-- The sign of a result. -/
def Flag.sign : UInt8 := 0x80

/-- The result is zero. -/
def Flag.zero : UInt8 := 0x40

/-- The undocumented copy of bit 5. -/
def Flag.bit5 : UInt8 := 0x20

/-- A carry out of the low half of the operation. -/
def Flag.half : UInt8 := 0x10

/-- The undocumented copy of bit 3. -/
def Flag.bit3 : UInt8 := 0x08

/-- Even parity, or a signed overflow. -/
def Flag.parity : UInt8 := 0x04

/-- The last operation subtracted. -/
def Flag.subtract : UInt8 := 0x02

/-- A carry or borrow out of the operation. -/
def Flag.carry : UInt8 := 0x01

/-- The state of the processor between two steps, with its values after a reset. -/
@[ext] structure Core where
  a : UInt8 := 0xFF
  f : UInt8 := 0xFF
  b : UInt8 := 0
  c : UInt8 := 0
  d : UInt8 := 0
  e : UInt8 := 0
  h : UInt8 := 0
  l : UInt8 := 0
  shadowAF : UInt16 := 0xFFFF
  shadowBC : UInt16 := 0
  shadowDE : UInt16 := 0
  shadowHL : UInt16 := 0
  ix : UInt16 := 0
  iy : UInt16 := 0
  sp : UInt16 := 0
  pc : UInt16 := 0
  /-- The internal address latch. -/
  wz : UInt16 := 0
  /-- The interrupt page register. -/
  i : UInt8 := 0
  /-- The refresh register. -/
  r : UInt8 := 0
  iff1 : Bool := false
  iff2 : Bool := false
  mode : InterruptMode := .mode0
  /-- The pair selected by an index byte for the next step. -/
  index : IndexPair := .hl
  /-- Did the last step compute flags? -/
  flagsFresh : Bool := false
  halted : Bool := false
deriving DecidableEq, Repr

namespace Core

/-- The core after a reset. -/
def reset : Core := {}

/-! ### Register pairs -/

def af (c : Core) : UInt16 := word c.a c.f
def bc (c : Core) : UInt16 := word c.b c.c
def de (c : Core) : UInt16 := word c.d c.e
def hl (c : Core) : UInt16 := word c.h c.l

def setAF (c : Core) (w : UInt16) : Core := { c with a := highByte w, f := lowByte w }
def setBC (c : Core) (w : UInt16) : Core := { c with b := highByte w, c := lowByte w }
def setDE (c : Core) (w : UInt16) : Core := { c with d := highByte w, e := lowByte w }
def setHL (c : Core) (w : UInt16) : Core := { c with h := highByte w, l := lowByte w }

/-- The value of the pair that plays the part of HL. -/
def indexed (c : Core) : IndexPair → UInt16
  | .hl => c.hl
  | .ix => c.ix
  | .iy => c.iy

/-- Set the pair that plays the part of HL. -/
def setIndexed (c : Core) (pair : IndexPair) (w : UInt16) : Core :=
  match pair with
  | .hl => c.setHL w
  | .ix => { c with ix := w }
  | .iy => { c with iy := w }

/-! ### Flags -/

/-- Is a flag set? -/
def flag (c : Core) (mask : UInt8) : Bool := c.f &&& mask != 0

/-- Store computed flags; the step counts as one that computed flags. -/
def setFlags (c : Core) (f : UInt8) : Core := { c with f := f, flagsFresh := true }

end Core

end BankedZ80
