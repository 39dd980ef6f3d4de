import BankedZ80.Cpu.Arithmetic

/-!
# Instructions and their opcodes

An opcode byte splits into fields of two, three and three bits, `x`, `y` and `z`, and the middle one
again into two bits `p` and one bit `q`. The three opcode pages (plain, after CB, after ED) are read
off these fields: `Instruction.ofOpcode`, `BitInstruction.ofOpcode`, `ExtendedInstruction.ofOpcode`.
Every byte denotes something on every page, so reading is total.
-/

namespace BankedZ80

/-- An eight-bit register; `high` and `low` are the halves of the pair in the part of HL. -/
inductive Register where
  | a
  | b
  | c
  | d
  | e
  | high
  | low
deriving DecidableEq, Repr

/-- What a three-bit operand field names: a register, or the byte in memory that the pair in the
part of HL points at. -/
inductive Operand where
  | register (r : Register)
  | memory
deriving DecidableEq, Repr

/-- What a two-bit pair field names in sixteen-bit arithmetic and loads. -/
inductive Pair where
  | bc
  | de
  | indexed
  | sp
deriving DecidableEq, Repr

/-- What a two-bit pair field names on the stack. -/
inductive StackPair where
  | bc
  | de
  | indexed
  | af
deriving DecidableEq, Repr

/-- A flag and the value it must have. -/
structure Condition where
  mask : UInt8
  value : Bool
deriving DecidableEq, Repr

/-- The eight accumulator operations. -/
inductive AccumulatorOp where
  | add
  | addCarry
  | sub
  | subCarry
  | and
  | xor
  | or
  | compare
deriving DecidableEq, Repr

/-- The eight flag and accumulator operations without operand. -/
inductive FlagOp where
  | rotate (op : Arithmetic.Rotation)
  | decimalAdjust
  | complement
  | setCarry
  | complementCarry
deriving DecidableEq, Repr

/-- Instructions of the plain page. -/
inductive Instruction where
  | nop
  | exchangeAF
  | decrementJump
  | jumpRelative
  | jumpRelativeIf (cond : Condition)
  | loadPair (pair : Pair)
  | addPair (pair : Pair)
  | storeAAtBC
  | storeAAtDE
  | loadAFromBC
  | loadAFromDE
  | storeIndexed
  | loadIndexed
  | storeA
  | loadA
  | incrementPair (pair : Pair)
  | decrementPair (pair : Pair)
  | increment (operand : Operand)
  | decrement (operand : Operand)
  | loadByte (operand : Operand)
  | flags (op : FlagOp)
  | halt
  | load (target source : Operand)
  | accumulator (op : AccumulatorOp) (operand : Operand)
  | accumulatorByte (op : AccumulatorOp)
  | returnIf (cond : Condition)
  | pop (pair : StackPair)
  | push (pair : StackPair)
  | ret
  | exchangeShadow
  | jumpIndexed
  | loadSP
  | jumpIf (cond : Condition)
  | jump
  | outputA
  | inputA
  | exchangeStack
  | exchangeDEHL
  | disableInterrupts
  | enableInterrupts
  | callIf (cond : Condition)
  | call
  | restart (address : UInt16)
  /-- The next step uses the given pair in the part of HL. -/
  | selectIndex (pair : IndexPair)
  /-- The operation is in the next byte, on the bit page. -/
  | bitPage
  /-- The operation is in the next byte, on the extended page. -/
  | extendedPage
deriving DecidableEq, Repr

/-- What a bit-page instruction does with its operand. -/
inductive BitOp where
  | rotate (op : Arithmetic.Rotation)
  | test (bit : UInt8)
  | reset (bit : UInt8)
  | set (bit : UInt8)
deriving DecidableEq, Repr

/-- Instructions of the bit page. -/
structure BitInstruction where
  op : BitOp
  operand : Operand
deriving DecidableEq, Repr

/-- What a block instruction does with one byte. -/
inductive BlockOp where
  | copy
  | search
  | input
  | output
deriving DecidableEq, Repr

/-- Instructions of the extended page. -/
inductive ExtendedInstruction where
  | nop
  | inputRegister (target : Operand)
  | outputRegister (source : Operand)
  | subCarryPair (pair : Pair)
  | addCarryPair (pair : Pair)
  | storePair (pair : Pair)
  | loadPair (pair : Pair)
  | negate
  | returnRestoring
  | interruptMode (mode : InterruptMode)
  | loadIFromA
  | loadRFromA
  | loadAFromI
  | loadAFromR
  | rotateDigitRight
  | rotateDigitLeft
  | block (op : BlockOp) (forward repeats : Bool)
deriving DecidableEq, Repr

/-! ### Fields of an opcode -/

/-- Operand named by a field value. -/
def Operand.ofField : Nat → Operand
  | 0 => .register .b
  | 1 => .register .c
  | 2 => .register .d
  | 3 => .register .e
  | 4 => .register .high
  | 5 => .register .low
  | 6 => .memory
  | _ => .register .a

/-- Pair named by a field value. -/
def Pair.ofField : Nat → Pair
  | 0 => .bc
  | 1 => .de
  | 2 => .indexed
  | _ => .sp

/-- Stack pair named by a field value. -/
def StackPair.ofField : Nat → StackPair
  | 0 => .bc
  | 1 => .de
  | 2 => .indexed
  | _ => .af

/-- Condition named by a field value: zero, carry, parity, sign, each first clear, then set. -/
def Condition.ofField (y : Nat) : Condition where
  mask := match y / 2 with
    | 0 => Flag.zero
    | 1 => Flag.carry
    | 2 => Flag.parity
    | _ => Flag.sign
  value := y % 2 == 1

/-- Accumulator operation named by a field value. -/
def AccumulatorOp.ofField : Nat → AccumulatorOp
  | 0 => .add
  | 1 => .addCarry
  | 2 => .sub
  | 3 => .subCarry
  | 4 => .and
  | 5 => .xor
  | 6 => .or
  | _ => .compare

/-- Rotation named by a field value. -/
def Arithmetic.Rotation.ofField : Nat → Arithmetic.Rotation
  | 0 => .rotateLeft
  | 1 => .rotateRight
  | 2 => .rotateLeftCarry
  | 3 => .rotateRightCarry
  | 4 => .shiftLeft
  | 5 => .shiftRight
  | 6 => .shiftLeftOne
  | _ => .shiftRightZero

/-- Flag operation named by a field value. -/
def FlagOp.ofField : Nat → FlagOp
  | 0 => .rotate .rotateLeft
  | 1 => .rotate .rotateRight
  | 2 => .rotate .rotateLeftCarry
  | 3 => .rotate .rotateRightCarry
  | 4 => .decimalAdjust
  | 5 => .complement
  | 6 => .setCarry
  | _ => .complementCarry

/-! ### The plain page -/

/-- Opcodes 00 to 3F. -/
def Instruction.ofLowFields (y z : Nat) : Instruction :=
  let p := y / 2
  let first := y % 2 == 0
  match z with
  | 0 => match y with
    | 0 => .nop
    | 1 => .exchangeAF
    | 2 => .decrementJump
    | 3 => .jumpRelative
    | _ => .jumpRelativeIf (Condition.ofField (y - 4))
  | 1 => if first then .loadPair (Pair.ofField p) else .addPair (Pair.ofField p)
  | 2 => match y with
    | 0 => .storeAAtBC
    | 1 => .loadAFromBC
    | 2 => .storeAAtDE
    | 3 => .loadAFromDE
    | 4 => .storeIndexed
    | 5 => .loadIndexed
    | 6 => .storeA
    | _ => .loadA
  | 3 => if first then .incrementPair (Pair.ofField p) else .decrementPair (Pair.ofField p)
  | 4 => .increment (Operand.ofField y)
  | 5 => .decrement (Operand.ofField y)
  | 6 => .loadByte (Operand.ofField y)
  | _ => .flags (FlagOp.ofField y)

/-- Opcodes C0 to FF. -/
def Instruction.ofHighFields (y z : Nat) : Instruction :=
  let p := y / 2
  let first := y % 2 == 0
  match z with
  | 0 => .returnIf (Condition.ofField y)
  | 1 => if first then .pop (StackPair.ofField p) else match p with
    | 0 => .ret
    | 1 => .exchangeShadow
    | 2 => .jumpIndexed
    | _ => .loadSP
  | 2 => .jumpIf (Condition.ofField y)
  | 3 => match y with
    | 0 => .jump
    | 1 => .bitPage
    | 2 => .outputA
    | 3 => .inputA
    | 4 => .exchangeStack
    | 5 => .exchangeDEHL
    | 6 => .disableInterrupts
    | _ => .enableInterrupts
  | 4 => .callIf (Condition.ofField y)
  | 5 => if first then .push (StackPair.ofField p) else match p with
    | 0 => .call
    | 1 => .selectIndex .ix
    | 2 => .extendedPage
    | _ => .selectIndex .iy
  | 6 => .accumulatorByte (AccumulatorOp.ofField y)
  | _ => .restart (8 * y).toUInt16

/-- The instruction of the plain page that an opcode denotes. -/
def Instruction.ofOpcode (opcode : UInt8) : Instruction :=
  let y := opcode.toNat / 8 % 8
  let z := opcode.toNat % 8
  match opcode.toNat / 64 with
  | 0 => ofLowFields y z
  | 1 => if y == 6 && z == 6 then .halt else .load (Operand.ofField y) (Operand.ofField z)
  | 2 => .accumulator (AccumulatorOp.ofField y) (Operand.ofField z)
  | _ => ofHighFields y z

/-! ### The bit page -/

/-- The instruction of the bit page that an opcode denotes. -/
def BitInstruction.ofOpcode (opcode : UInt8) : BitInstruction :=
  let y := opcode.toNat / 8 % 8
  let op := match opcode.toNat / 64 with
    | 0 => .rotate (Arithmetic.Rotation.ofField y)
    | 1 => .test y.toUInt8
    | 2 => .reset y.toUInt8
    | _ => .set y.toUInt8
  ⟨op, Operand.ofField (opcode.toNat % 8)⟩

/-! ### The extended page -/

/-- Opcodes 40 to 7F of the extended page. -/
def ExtendedInstruction.ofMiddleFields (y z : Nat) : ExtendedInstruction :=
  let p := y / 2
  let first := y % 2 == 0
  match z with
  | 0 => .inputRegister (Operand.ofField y)
  | 1 => .outputRegister (Operand.ofField y)
  | 2 => if first then .subCarryPair (Pair.ofField p) else .addCarryPair (Pair.ofField p)
  | 3 => if first then .storePair (Pair.ofField p) else .loadPair (Pair.ofField p)
  | 4 => .negate
  | 5 => .returnRestoring
  | 6 => .interruptMode (match y % 4 with
    | 2 => .mode1
    | 3 => .mode2
    | _ => .mode0)
  | _ => match y with
    | 0 => .loadIFromA
    | 1 => .loadRFromA
    | 2 => .loadAFromI
    | 3 => .loadAFromR
    | 4 => .rotateDigitRight
    | 5 => .rotateDigitLeft
    | _ => .nop

/-- Block operation named by a field value. -/
def BlockOp.ofField : Nat → BlockOp
  | 0 => .copy
  | 1 => .search
  | 2 => .input
  | _ => .output

/-- The instruction of the extended page that an opcode denotes. -/
def ExtendedInstruction.ofOpcode (opcode : UInt8) : ExtendedInstruction :=
  let y := opcode.toNat / 8 % 8
  let z := opcode.toNat % 8
  match opcode.toNat / 64 with
  | 1 => ofMiddleFields y z
  | 2 => if y ≥ 4 && z ≤ 3 then .block (BlockOp.ofField z) (y % 2 == 0) (y ≥ 6) else .nop
  | _ => .nop

end BankedZ80
