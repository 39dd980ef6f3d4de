import BankedZ80.Cpu.BusProgram
import BankedZ80.Cpu.Instruction

/-!
# Execution of one instruction

`Core.step` is the program of bus accesses that one step of a running core makes, ending in the new
core and the number of T-states taken. A step is one opcode fetch unit: an opcode byte DD or FD is a
step of its own that selects an index register for the step after it, while the bytes CB and ED
belong to their instruction.

The step of a core that is not halted takes at least four T-states, and what it does depends on the
core and on the answers of the bus alone.
-/

namespace BankedZ80

open BusProgram

/-- What is left after a step: the core, and the T-states that have passed. -/
structure Stepped where
  core : Core
  cycles : Nat
deriving DecidableEq, Repr

/-- What the execution of an opcode depends on besides the core it changes. -/
structure StepContext where
  flavour : Flavour
  /-- The pair in the part of HL. -/
  index : IndexPair
  /-- Did the step before this one compute flags? -/
  flagsWereFresh : Bool
deriving DecidableEq, Repr

namespace Core

/-! ### Registers by name -/

/-- The value of a register. -/
def getRegister (c : Core) (index : IndexPair) : Register → UInt8
  | .a => c.a
  | .b => c.b
  | .c => c.c
  | .d => c.d
  | .e => c.e
  | .high => highByte (c.indexed index)
  | .low => lowByte (c.indexed index)

/-- Set a register. -/
def setRegister (c : Core) (index : IndexPair) (r : Register) (v : UInt8) : Core :=
  match r with
  | .a => { c with a := v }
  | .b => { c with b := v }
  | .c => { c with c := v }
  | .d => { c with d := v }
  | .e => { c with e := v }
  | .high => c.setIndexed index (word v (lowByte (c.indexed index)))
  | .low => c.setIndexed index (word (highByte (c.indexed index)) v)

/-- The value of a pair. -/
def getPair (c : Core) (index : IndexPair) : Pair → UInt16
  | .bc => c.bc
  | .de => c.de
  | .indexed => c.indexed index
  | .sp => c.sp

/-- Set a pair. -/
def setPair (c : Core) (index : IndexPair) (pair : Pair) (w : UInt16) : Core :=
  match pair with
  | .bc => c.setBC w
  | .de => c.setDE w
  | .indexed => c.setIndexed index w
  | .sp => { c with sp := w }

/-- The value of a pair that is pushed. -/
def getStackPair (c : Core) (index : IndexPair) : StackPair → UInt16
  | .bc => c.bc
  | .de => c.de
  | .indexed => c.indexed index
  | .af => c.af

/-- Set a pair that was popped; flags set this way do not count as computed. -/
def setStackPair (c : Core) (index : IndexPair) (pair : StackPair) (w : UInt16) : Core :=
  match pair with
  | .bc => c.setBC w
  | .de => c.setDE w
  | .indexed => c.setIndexed index w
  | .af => c.setAF w

/-- Does a condition hold? -/
def satisfies (c : Core) (cond : Condition) : Bool := c.flag cond.mask == cond.value

/-! ### Fetching, stack and jumps -/

/-- Read the byte at PC and move past it. -/
def fetchByte (c : Core) : BusProgram (UInt8 × Core) := do
  let v ← readByte c.pc
  return (v, { c with pc := c.pc + 1 })

/-- Read an opcode byte: as `fetchByte`, and the low seven bits of the refresh register count. -/
def fetchOpcode (c : Core) : BusProgram (UInt8 × Core) := do
  let v ← readByte c.pc
  return (v, { c with pc := c.pc + 1, r := (c.r &&& 0x80) ||| ((c.r + 1) &&& 0x7F) })

/-- Read the word at PC, low byte first, and move past it. -/
def fetchWord (c : Core) : BusProgram (UInt16 × Core) := do
  let low ← readByte c.pc
  let high ← readByte (c.pc + 1)
  return (word high low, { c with pc := c.pc + 2 })

/-- Put a word on the stack. -/
def push (c : Core) (w : UInt16) : BusProgram Core := do
  writeByte (c.sp - 1) (highByte w)
  writeByte (c.sp - 2) (lowByte w)
  return { c with sp := c.sp - 2 }

/-- Take a word from the stack. -/
def pop (c : Core) : BusProgram (UInt16 × Core) := do
  let low ← readByte c.sp
  let high ← readByte (c.sp + 1)
  return (word high low, { c with sp := c.sp + 2 })

/-- Continue at an address, which also enters the latch. -/
def jump (c : Core) (target : UInt16) : Core := { c with pc := target, wz := target }

/-- Continue at a displacement from PC. -/
def jumpBy (c : Core) (d : UInt8) : Core := c.jump (c.pc + signExtend d)

/-- The latch after a store of A at an address: A over the low byte of the address after it; the
BM1 keeps no high byte. -/
def storeLatch (ctx : StepContext) (c : Core) (address : UInt16) : Core :=
  { c with wz := word (if ctx.flavour = .bm1 then 0 else c.a) (lowByte (address + 1)) }

/-! ### The memory operand -/

/-- Address of the memory operand: HL itself, or an index register with the displacement that
follows in the instruction. The latch takes a displaced address. -/
def memoryOperand (ctx : StepContext) (c : Core) : BusProgram (UInt16 × Core) :=
  match ctx.index with
  | .hl => pure (c.hl, c)
  | index => do
    let (d, c) ← c.fetchByte
    let address := c.indexed index + signExtend d
    return (address, { c with wz := address })

/-- T-states that the displacement of a memory operand takes. -/
def StepContext.displacementCycles (ctx : StepContext) : Nat :=
  if ctx.index = .hl then 0 else 8

/-- The value of an operand, with the T-states that reading it adds. -/
def readOperand (ctx : StepContext) (c : Core) : Operand → BusProgram (UInt8 × Core × Nat)
  | .register r => pure (c.getRegister ctx.index r, c, 0)
  | .memory => do
    let (address, c) ← memoryOperand ctx c
    let v ← readByte address
    return (v, c, 3 + StepContext.displacementCycles ctx)

/-- Replace an operand by a function of it and the flags. -/
def modifyOperand (ctx : StepContext) (c : Core) (operand : Operand)
    (f : UInt8 → UInt8 → Flagged UInt8) : BusProgram Stepped :=
  match operand with
  | .register r =>
    let (v, flags) := f (c.getRegister ctx.index r) c.f
    pure ⟨(c.setRegister ctx.index r v).setFlags flags, 4⟩
  | .memory => do
    let (address, c) ← memoryOperand ctx c
    let old ← readByte address
    let (v, flags) := f old c.f
    writeByte address v
    return ⟨c.setFlags flags, 11 + StepContext.displacementCycles ctx⟩

/-! ### Accumulator operations -/

/-- Combine A with a value. -/
def accumulate (c : Core) (op : AccumulatorOp) (v : UInt8) : Core :=
  let carry := c.flag Flag.carry
  let store (r : Flagged UInt8) : Core := { c with a := r.1 }.setFlags r.2
  match op with
  | .add => store (Arithmetic.add c.a v false)
  | .addCarry => store (Arithmetic.add c.a v carry)
  | .sub => store (Arithmetic.sub c.a v false)
  | .subCarry => store (Arithmetic.sub c.a v carry)
  | .and => store (Arithmetic.logicAnd c.a v)
  | .xor => store (Arithmetic.logicXor c.a v)
  | .or => store (Arithmetic.logicOr c.a v)
  | .compare => c.setFlags (Arithmetic.compare c.a v)

/-- Flags after setting or complementing the carry: bits 5 and 3 come from A, on an NMOS or BM1
core joined with those of F unless the step before computed flags. -/
def carryFlags (ctx : StepContext) (c : Core) (half carry : Bool) : UInt8 :=
  let source := if ctx.flavour = .cmos || ctx.flagsWereFresh then c.a else c.a ||| c.f
  (c.f &&& (Flag.sign ||| Flag.zero ||| Flag.parity)) ||| (source &&& (Flag.bit5 ||| Flag.bit3))
    ||| bitIf half Flag.half ||| bitIf carry Flag.carry

/-- Operations on A and the flags alone. -/
def applyFlagOp (ctx : StepContext) (c : Core) (op : FlagOp) : Core :=
  let store (r : Flagged UInt8) : Core := { c with a := r.1 }.setFlags r.2
  match op with
  | .rotate op => store (Arithmetic.rotateAccumulator op c.a c.f)
  | .decimalAdjust => store (Arithmetic.decimalAdjust c.a c.f)
  | .complement =>
    let a := ~~~c.a
    store (a, (c.f &&& (Flag.sign ||| Flag.zero ||| Flag.parity ||| Flag.carry))
      ||| Flag.half ||| Flag.subtract ||| (a &&& (Flag.bit5 ||| Flag.bit3)))
  | .setCarry => c.setFlags (carryFlags ctx c false true)
  | .complementCarry =>
    let carry := c.flag Flag.carry
    c.setFlags (carryFlags ctx c carry !carry)

/-! ### The bit page -/

/-- Apply a bit-page operation other than a test to a byte. -/
def applyBitOp (op : BitOp) (v f : UInt8) : Flagged UInt8 :=
  match op with
  | .rotate op => Arithmetic.rotate op v f
  | .test _ => (v, f)
  | .reset n => (v &&& ~~~(1 <<< n), f)
  | .set n => (v ||| (1 <<< n), f)

/-- Store the flags of a bit-page operation; resetting and setting a bit computes none. -/
def setBitFlags (c : Core) (op : BitOp) (flags : UInt8) : Core :=
  match op with
  | .rotate _ => c.setFlags flags
  | _ => c

/-- An instruction of the bit page on the plain operands. -/
def executeBit (c : Core) (instr : BitInstruction) : BusProgram Stepped :=
  match instr.op, instr.operand with
  | .test n, .register r =>
    let v := c.getRegister .hl r
    pure ⟨c.setFlags (Arithmetic.testBit n v v c.f), 8⟩
  | .test n, .memory => do
    let v ← readByte c.hl
    return ⟨c.setFlags (Arithmetic.testBit n v (highByte c.wz) c.f), 12⟩
  | op, .register r =>
    let (v, flags) := applyBitOp op (c.getRegister .hl r) c.f
    pure ⟨(c.setRegister .hl r v).setBitFlags op flags, 8⟩
  | op, .memory => do
    let old ← readByte c.hl
    let (v, flags) := applyBitOp op old c.f
    writeByte c.hl v
    return ⟨c.setBitFlags op flags, 15⟩

/-- An instruction of the bit page on a displaced operand, at an address that has been latched. A
named register receives a copy of the result. -/
def executeDisplacedBit (c : Core) (instr : BitInstruction) (address : UInt16) :
    BusProgram Stepped := do
  let old ← readByte address
  match instr.op with
  | .test n => return ⟨c.setFlags (Arithmetic.testBit n old (highByte address) c.f), 16⟩
  | op =>
    let (v, flags) := applyBitOp op old c.f
    writeByte address v
    let c := c.setBitFlags op flags
    match instr.operand with
    | .register r => return ⟨c.setRegister .hl r v, 19⟩
    | .memory => return ⟨c, 19⟩

/-! ### Block instructions -/

/-- Add or subtract one, by the direction of a block instruction. -/
def towards (forward : Bool) (w : UInt16) : UInt16 := if forward then w + 1 else w - 1

/-- Finish a block instruction: go back to its first byte when it repeats. -/
def finishBlock (c : Core) (again : Bool) : Stepped :=
  if again then ⟨{ c with pc := c.pc - 2 }, 21⟩ else ⟨c, 16⟩

/-- As `finishBlock`, for the instructions that latch their own address when they repeat. -/
def finishLatchedBlock (c : Core) (again : Bool) : Stepped :=
  if again then ⟨{ c with pc := c.pc - 2, wz := c.pc - 1 }, 21⟩ else ⟨c, 16⟩

/-- Copy a byte from HL to DE. -/
def blockCopy (c : Core) (forward repeats : Bool) : BusProgram Stepped := do
  let v ← readByte c.hl
  writeByte c.de v
  let n := c.a + v
  let count := c.bc - 1
  let flags := (c.f &&& (Flag.sign ||| Flag.zero ||| Flag.carry))
    ||| bitIf (n &&& 2 != 0) Flag.bit5 ||| (n &&& Flag.bit3) ||| bitIf (count != 0) Flag.parity
  let c := ((c.setBC count).setDE (towards forward c.de)).setHL (towards forward c.hl)
  return finishLatchedBlock (c.setFlags flags) (repeats && count != 0)

/-- Compare A with the byte at HL. -/
def blockSearch (c : Core) (forward repeats : Bool) : BusProgram Stepped := do
  let v ← readByte c.hl
  let r := c.a - v
  let half := (c.a ^^^ v ^^^ r) &&& Flag.half
  let n := if half != 0 then r - 1 else r
  let count := c.bc - 1
  let flags := (r &&& Flag.sign) ||| bitIf (r == 0) Flag.zero ||| half
    ||| bitIf (n &&& 2 != 0) Flag.bit5 ||| (n &&& Flag.bit3) ||| bitIf (count != 0) Flag.parity
    ||| Flag.subtract ||| (c.f &&& Flag.carry)
  let c := { (c.setBC count).setHL (towards forward c.hl) with wz := towards forward c.wz }
  return finishLatchedBlock (c.setFlags flags) (repeats && count != 0 && r != 0)

/-- Flags of a block transfer with a port: `v` is the byte moved, `sum` that byte plus the counter
that goes with the direction of the transfer, and B has been counted down. -/
def blockPortFlags (b v : UInt8) (sum : UInt16) : UInt8 :=
  Arithmetic.resultFlags b ||| bitIf (v &&& 0x80 != 0) Flag.subtract
    ||| bitIf (sum > 0xFF) (Flag.half ||| Flag.carry)
    ||| bitIf (parityEven ((sum.toUInt8 &&& 7) ^^^ b)) Flag.parity

/-- Read a port into the byte at HL. -/
def blockInput (c : Core) (forward repeats : Bool) : BusProgram Stepped := do
  let v ← readPort c.bc
  writeByte c.hl v
  let latch := towards forward c.bc
  let b := c.b - 1
  let sum := v.toUInt16 + (lowByte latch).toUInt16
  let c := { c.setHL (towards forward c.hl) with b := b, wz := latch }
  return finishBlock (c.setFlags (blockPortFlags b v sum)) (repeats && b != 0)

/-- Write the byte at HL to a port. -/
def blockOutput (c : Core) (forward repeats : Bool) : BusProgram Stepped := do
  let v ← readByte c.hl
  let c := { c.setHL (towards forward c.hl) with b := c.b - 1 }
  writePort c.bc v
  let sum := v.toUInt16 + c.l.toUInt16
  let c := { c with wz := towards forward c.bc }
  return finishBlock (c.setFlags (blockPortFlags c.b v sum)) (repeats && c.b != 0)

/-! ### The extended page -/

/-- Load A from the interrupt or refresh register; the parity flag shows the second interrupt
flip-flop. -/
def loadAFromSpecial (c : Core) (v : UInt8) : Core :=
  { c with a := v }.setFlags
    (Arithmetic.resultFlags v ||| bitIf c.iff2 Flag.parity ||| (c.f &&& Flag.carry))

/-- An instruction of the extended page. -/
def executeExtended (flavour : Flavour) (c : Core) : ExtendedInstruction → BusProgram Stepped
  | .nop => pure ⟨c, 8⟩
  | .inputRegister target => do
    let v ← readPort c.bc
    let c := { c with wz := c.bc + 1 }.setFlags (Arithmetic.parityFlags v ||| (c.f &&& Flag.carry))
    match target with
    | .register r => return ⟨c.setRegister .hl r v, 12⟩
    | .memory => return ⟨c, 12⟩
  | .outputRegister source => do
    let v := match source with
      | .register r => c.getRegister .hl r
      | .memory => if flavour = .cmos then 0xFF else 0
    writePort c.bc v
    return ⟨{ c with wz := c.bc + 1 }, 12⟩
  | .subCarryPair pair =>
    let (w, flags) := Arithmetic.subCarryWord c.hl (c.getPair .hl pair) (c.flag Flag.carry)
    pure ⟨({ c with wz := c.hl + 1 }.setHL w).setFlags flags, 15⟩
  | .addCarryPair pair =>
    let (w, flags) := Arithmetic.addCarryWord c.hl (c.getPair .hl pair) (c.flag Flag.carry)
    pure ⟨({ c with wz := c.hl + 1 }.setHL w).setFlags flags, 15⟩
  | .storePair pair => do
    let (address, c) ← c.fetchWord
    let w := c.getPair .hl pair
    writeByte address (lowByte w)
    writeByte (address + 1) (highByte w)
    return ⟨{ c with wz := address + 1 }, 20⟩
  | .loadPair pair => do
    let (address, c) ← c.fetchWord
    let low ← readByte address
    let high ← readByte (address + 1)
    return ⟨{ c with wz := address + 1 }.setPair .hl pair (word high low), 20⟩
  | .negate =>
    let (v, flags) := Arithmetic.sub 0 c.a false
    pure ⟨{ c with a := v }.setFlags flags, 8⟩
  | .returnRestoring => do
    let (target, c) ← c.pop
    return ⟨{ c with iff1 := c.iff2 }.jump target, 14⟩
  | .interruptMode mode => pure ⟨{ c with mode := mode }, 8⟩
  | .loadIFromA => pure ⟨{ c with i := c.a }, 9⟩
  | .loadRFromA => pure ⟨{ c with r := c.a }, 9⟩
  | .loadAFromI => pure ⟨c.loadAFromSpecial c.i, 9⟩
  | .loadAFromR => pure ⟨c.loadAFromSpecial c.r, 9⟩
  | .rotateDigitRight => do
    let v ← readByte c.hl
    writeByte c.hl ((c.a <<< 4) ||| (v >>> 4))
    let a := (c.a &&& 0xF0) ||| (v &&& 0x0F)
    return ⟨{ c with a := a, wz := c.hl + 1 }.setFlags
      (Arithmetic.parityFlags a ||| (c.f &&& Flag.carry)), 18⟩
  | .rotateDigitLeft => do
    let v ← readByte c.hl
    writeByte c.hl ((v <<< 4) ||| (c.a &&& 0x0F))
    let top := v >>> 4
    let a := (c.a &&& 0xF0) ||| top
    return ⟨{ c with a := a, wz := c.hl + 1 }.setFlags
      (Arithmetic.parityFlags a ||| (c.f &&& Flag.carry)), 18⟩
  | .block .copy forward repeats => c.blockCopy forward repeats
  | .block .search forward repeats => c.blockSearch forward repeats
  | .block .input forward repeats => c.blockInput forward repeats
  | .block .output forward repeats => c.blockOutput forward repeats

/-! ### The plain page -/

/-- Load one operand from another. Beside a memory operand, H and L are the plain ones. -/
def executeLoad (ctx : StepContext) (c : Core) (target source : Operand) : BusProgram Stepped :=
  match target, source with
  | .register t, .register s =>
    pure ⟨c.setRegister ctx.index t (c.getRegister ctx.index s), 4⟩
  | .register t, .memory => do
    let (address, c) ← memoryOperand ctx c
    let v ← readByte address
    return ⟨c.setRegister .hl t v, 7 + StepContext.displacementCycles ctx⟩
  | .memory, .register s => do
    let (address, c) ← memoryOperand ctx c
    writeByte address (c.getRegister .hl s)
    return ⟨c, 7 + StepContext.displacementCycles ctx⟩
  | .memory, .memory => pure ⟨c, 4⟩

/-- Call a subroutine. -/
def callTo (c : Core) (target : UInt16) : BusProgram Core := do
  let c ← c.push c.pc
  return c.jump target

/-- An instruction of the plain page, its opcode already fetched. -/
def execute (ctx : StepContext) (c : Core) : Instruction → BusProgram Stepped
  | .nop => pure ⟨c, 4⟩
  | .exchangeAF => pure ⟨{ c.setAF c.shadowAF with shadowAF := c.af }, 4⟩
  | .decrementJump => do
    let (d, c) ← c.fetchByte
    let c := { c with b := c.b - 1 }
    return if c.b == 0 then ⟨c, 8⟩ else ⟨c.jumpBy d, 13⟩
  | .jumpRelative => do
    let (d, c) ← c.fetchByte
    return ⟨c.jumpBy d, 12⟩
  | .jumpRelativeIf cond => do
    let (d, c) ← c.fetchByte
    return if c.satisfies cond then ⟨c.jumpBy d, 12⟩ else ⟨c, 7⟩
  | .loadPair pair => do
    let (w, c) ← c.fetchWord
    return ⟨c.setPair ctx.index pair w, 10⟩
  | .addPair pair =>
    let x := c.indexed ctx.index
    let (w, flags) := Arithmetic.addWord x (c.getPair ctx.index pair) c.f
    pure ⟨({ c with wz := x + 1 }.setIndexed ctx.index w).setFlags flags, 11⟩
  | .storeAAtBC => do
    writeByte c.bc c.a
    return ⟨storeLatch ctx c c.bc, 7⟩
  | .storeAAtDE => do
    writeByte c.de c.a
    return ⟨storeLatch ctx c c.de, 7⟩
  | .loadAFromBC => do
    let v ← readByte c.bc
    return ⟨{ c with a := v, wz := c.bc + 1 }, 7⟩
  | .loadAFromDE => do
    let v ← readByte c.de
    return ⟨{ c with a := v, wz := c.de + 1 }, 7⟩
  | .storeIndexed => do
    let (address, c) ← c.fetchWord
    let w := c.indexed ctx.index
    writeByte address (lowByte w)
    writeByte (address + 1) (highByte w)
    return ⟨{ c with wz := address + 1 }, 16⟩
  | .loadIndexed => do
    let (address, c) ← c.fetchWord
    let low ← readByte address
    let high ← readByte (address + 1)
    return ⟨{ c with wz := address + 1 }.setIndexed ctx.index (word high low), 16⟩
  | .storeA => do
    let (address, c) ← c.fetchWord
    writeByte address c.a
    return ⟨storeLatch ctx c address, 13⟩
  | .loadA => do
    let (address, c) ← c.fetchWord
    let v ← readByte address
    return ⟨{ c with a := v, wz := address + 1 }, 13⟩
  | .incrementPair pair => pure ⟨c.setPair ctx.index pair (c.getPair ctx.index pair + 1), 6⟩
  | .decrementPair pair => pure ⟨c.setPair ctx.index pair (c.getPair ctx.index pair - 1), 6⟩
  | .increment operand => modifyOperand ctx c operand Arithmetic.increment
  | .decrement operand => modifyOperand ctx c operand Arithmetic.decrement
  | .loadByte (.register r) => do
    let (v, c) ← c.fetchByte
    return ⟨c.setRegister ctx.index r v, 7⟩
  | .loadByte .memory => do
    let (address, c) ← memoryOperand ctx c
    let (v, c) ← c.fetchByte
    writeByte address v
    return ⟨c, if ctx.index = .hl then 10 else 15⟩
  | .flags op => pure ⟨applyFlagOp ctx c op, 4⟩
  | .halt => pure ⟨{ c with pc := c.pc - 1, halted := true }, 4⟩
  | .load target source => executeLoad ctx c target source
  | .accumulator op operand => do
    let (v, c, extra) ← readOperand ctx c operand
    return ⟨c.accumulate op v, 4 + extra⟩
  | .accumulatorByte op => do
    let (v, c) ← c.fetchByte
    return ⟨c.accumulate op v, 7⟩
  | .returnIf cond =>
    if c.satisfies cond then do
      let (target, c) ← c.pop
      return ⟨c.jump target, 11⟩
    else pure ⟨c, 5⟩
  | .pop pair => do
    let (w, c) ← c.pop
    return ⟨c.setStackPair ctx.index pair w, 10⟩
  | .push pair => do
    let c ← c.push (c.getStackPair ctx.index pair)
    return ⟨c, 11⟩
  | .ret => do
    let (target, c) ← c.pop
    return ⟨c.jump target, 10⟩
  | .exchangeShadow =>
    pure ⟨{ ((c.setBC c.shadowBC).setDE c.shadowDE).setHL c.shadowHL with
      shadowBC := c.bc, shadowDE := c.de, shadowHL := c.hl }, 4⟩
  | .jumpIndexed => pure ⟨{ c with pc := c.indexed ctx.index }, 4⟩
  | .loadSP => pure ⟨{ c with sp := c.indexed ctx.index }, 6⟩
  | .jumpIf cond => do
    let (target, c) ← c.fetchWord
    let c := { c with wz := target }
    return ⟨if c.satisfies cond then c.jump target else c, 10⟩
  | .jump => do
    let (target, c) ← c.fetchWord
    return ⟨c.jump target, 10⟩
  | .outputA => do
    let (n, c) ← c.fetchByte
    writePort (word c.a n) c.a
    return ⟨storeLatch ctx c (word 0 n), 11⟩
  | .inputA => do
    let (n, c) ← c.fetchByte
    let port := word c.a n
    let v ← readPort port
    return ⟨{ c with a := v, wz := port + 1 }, 11⟩
  | .exchangeStack => do
    let low ← readByte c.sp
    let high ← readByte (c.sp + 1)
    let w := c.indexed ctx.index
    writeByte (c.sp + 1) (highByte w)
    writeByte c.sp (lowByte w)
    let new := word high low
    return ⟨{ c with wz := new }.setIndexed ctx.index new, 19⟩
  | .exchangeDEHL => pure ⟨(c.setDE c.hl).setHL c.de, 4⟩
  | .disableInterrupts => pure ⟨{ c with iff1 := false, iff2 := false }, 4⟩
  | .enableInterrupts => pure ⟨{ c with iff1 := true, iff2 := true }, 4⟩
  | .callIf cond => do
    let (target, c) ← c.fetchWord
    let c := { c with wz := target }
    if c.satisfies cond then do
      let c ← c.callTo target
      return ⟨c, 17⟩
    else return ⟨c, 10⟩
  | .call => do
    let (target, c) ← c.fetchWord
    let c ← c.callTo target
    return ⟨c, 17⟩
  | .restart address => do
    let c ← c.callTo address
    return ⟨c, 11⟩
  | .selectIndex pair => pure ⟨{ c with index := pair }, 4⟩
  | .bitPage =>
    match ctx.index with
    | .hl => do
      let (opcode, c) ← c.fetchOpcode
      c.executeBit (BitInstruction.ofOpcode opcode)
    | _ => do
      let (address, c) ← memoryOperand ctx c
      let (opcode, c) ← c.fetchByte
      c.executeDisplacedBit (BitInstruction.ofOpcode opcode) address
  | .extendedPage => do
    let (opcode, c) ← c.fetchOpcode
    c.executeExtended ctx.flavour (ExtendedInstruction.ofOpcode opcode)

/-- One step of a core that is not halted. -/
def step (flavour : Flavour) (c : Core) : BusProgram Stepped := do
  let (opcode, fetched) ← c.fetchOpcode
  let ctx : StepContext := ⟨flavour, c.index, c.flagsFresh⟩
  execute ctx { fetched with index := .hl, flagsFresh := false } (Instruction.ofOpcode opcode)

end Core

end BankedZ80
