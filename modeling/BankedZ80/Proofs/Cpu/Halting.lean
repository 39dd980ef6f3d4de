import BankedZ80.Proofs.Cpu.Timing

/-!
# Which instruction halts

No instruction but a halt changes whether the core is halted (`execute_steady`), and a halt makes no
access after that of its opcode. So a step that ends in a firmware call, or in no event, leaves the core
running (`Processor.running_of_trap`, `Processor.running_of_no_event`).
-/

namespace BankedZ80

open BusProgram

namespace Core

/-! ### Parts of instructions -/

variable (c : Core) (w : UInt16)

@[simp] theorem halted_setBC : (c.setBC w).halted = c.halted := rfl

@[simp] theorem halted_setDE : (c.setDE w).halted = c.halted := rfl

@[simp] theorem halted_setHL : (c.setHL w).halted = c.halted := rfl

@[simp] theorem halted_setAF : (c.setAF w).halted = c.halted := rfl

@[simp] theorem halted_setFlags (f : UInt8) : (c.setFlags f).halted = c.halted := rfl

@[simp] theorem halted_jump : (c.jump w).halted = c.halted := rfl

@[simp] theorem halted_jumpBy (d : UInt8) : (c.jumpBy d).halted = c.halted := rfl

@[simp] theorem halted_storeLatch (ctx : StepContext) : (storeLatch ctx c w).halted = c.halted := rfl

@[simp] theorem halted_loadAFromSpecial (v : UInt8) : (c.loadAFromSpecial v).halted = c.halted := rfl

@[simp] theorem halted_setIndexed (pair : IndexPair) : (c.setIndexed pair w).halted = c.halted := by
  cases pair <;> rfl

@[simp] theorem halted_setRegister (index : IndexPair) (r : Register) (v : UInt8) :
    (c.setRegister index r v).halted = c.halted := by
  cases r <;> simp [setRegister]

@[simp] theorem halted_setPair (index : IndexPair) (pair : Pair) :
    (c.setPair index pair w).halted = c.halted := by
  cases pair <;> simp [setPair]

@[simp] theorem halted_setStackPair (index : IndexPair) (pair : StackPair) :
    (c.setStackPair index pair w).halted = c.halted := by
  cases pair <;> simp [setStackPair]

@[simp] theorem halted_accumulate (op : AccumulatorOp) (v : UInt8) :
    (c.accumulate op v).halted = c.halted := by
  cases op <;> rfl

@[simp] theorem halted_applyFlagOp (ctx : StepContext) (op : FlagOp) :
    (applyFlagOp ctx c op).halted = c.halted := by
  cases op <;> rfl

@[simp] theorem halted_setBitFlags (op : BitOp) (f : UInt8) :
    (c.setBitFlags op f).halted = c.halted := by
  cases op <;> rfl

@[simp] theorem halted_finishBlock (again : Bool) : (c.finishBlock again).core.halted = c.halted := by
  cases again <;> rfl

@[simp] theorem halted_finishLatchedBlock (again : Bool) :
    (c.finishLatchedBlock again).core.halted = c.halted := by
  cases again <;> rfl

/-! ### Programs -/

/-- However the bus answers, the program ends with a core that is halted exactly if this one is. -/
def Steady (c : Core) (p : BusProgram Stepped) : Prop := p.Ends fun s => s.core.halted = c.halted

/-- A core that is halted exactly if another is may stand for it. -/
theorem steady_of_same {c c' : Core} {p : BusProgram Stepped} (same : c'.halted = c.halted)
    (h : Steady c' p) : Steady c p := by
  unfold Steady at h ⊢
  rw [← same]
  exact h

/-! None of the parts of an instruction halts. -/

theorem ends_fetchByte {P : UInt8 × Core → Prop} (h : ∀ v c', c'.halted = c.halted → P (v, c')) :
    c.fetchByte.Ends P :=
  fun v => h v _ rfl

theorem ends_fetchOpcode {P : UInt8 × Core → Prop} (h : ∀ v c', c'.halted = c.halted → P (v, c')) :
    c.fetchOpcode.Ends P :=
  fun v => h v _ rfl

theorem ends_fetchWord {P : UInt16 × Core → Prop} (h : ∀ w c', c'.halted = c.halted → P (w, c')) :
    c.fetchWord.Ends P :=
  fun _ _ => h _ _ rfl

theorem ends_pop {P : UInt16 × Core → Prop} (h : ∀ w c', c'.halted = c.halted → P (w, c')) :
    c.pop.Ends P :=
  fun _ _ => h _ _ rfl

theorem ends_callTo {P : Core → Prop} (h : ∀ c', c'.halted = c.halted → P c') :
    (c.callTo w).Ends P :=
  h _ rfl

theorem ends_memoryOperand (ctx : StepContext) {P : UInt16 × Core → Prop}
    (h : ∀ address c', c'.halted = c.halted → P (address, c')) : (memoryOperand ctx c).Ends P := by
  unfold memoryOperand
  cases ctx.index with
  | hl => exact h c.hl c rfl
  | ix => exact fun d => h _ _ rfl
  | iy => exact fun d => h _ _ rfl

theorem modifyOperand_steady (ctx : StepContext) (operand : Operand)
    (f : UInt8 → UInt8 → Flagged UInt8) : Steady c (modifyOperand ctx c operand f) := by
  cases operand with
  | register r => simp [Steady, modifyOperand]
  | memory =>
      refine ends_bind.2 (c.ends_memoryOperand ctx fun address c' same => ?_)
      simpa [readByte, writeByte] using same

theorem executeLoad_steady (ctx : StepContext) (target source : Operand) :
    Steady c (executeLoad ctx c target source) := by
  cases target <;> cases source
  case register.register => simp [Steady, executeLoad]
  case register.memory =>
      refine ends_bind.2 (c.ends_memoryOperand ctx fun address c' same => ?_)
      simpa [readByte] using same
  case memory.register =>
      refine ends_bind.2 (c.ends_memoryOperand ctx fun address c' same => ?_)
      simpa [writeByte] using same
  case memory.memory => rfl

theorem executeBit_steady (instr : BitInstruction) : Steady c (c.executeBit instr) := by
  obtain ⟨op, operand⟩ := instr
  cases op <;> cases operand <;> simp [Steady, executeBit, readByte, writeByte]

theorem executeDisplacedBit_steady (instr : BitInstruction) (address : UInt16) :
    Steady c (c.executeDisplacedBit instr address) := by
  obtain ⟨op, operand⟩ := instr
  cases op <;> cases operand <;> simp [Steady, executeDisplacedBit, readByte, writeByte]

theorem executeExtended_steady (flavour : Flavour) (instr : ExtendedInstruction) :
    Steady c (c.executeExtended flavour instr) := by
  cases instr with
  | inputRegister target => cases target <;> simp [Steady, executeExtended, readPort]
  | block op forward repeats =>
      cases op <;> simp [Steady, executeExtended, blockCopy, blockSearch, blockInput, blockOutput,
        readByte, writeByte, readPort, writePort]
  | _ => simp [Steady, executeExtended, fetchWord, pop, readByte, writeByte, writePort]

/-! ### Instructions -/

/-- **No other instruction than a halt** changes whether the core is halted. -/
theorem execute_steady (ctx : StepContext) {instr : Instruction} (other : instr ≠ .halt) :
    Steady c (execute ctx c instr) := by
  cases instr with
  | halt => exact absurd rfl other
  | increment operand => exact c.modifyOperand_steady ctx operand Arithmetic.increment
  | decrement operand => exact c.modifyOperand_steady ctx operand Arithmetic.decrement
  | load target source => exact c.executeLoad_steady ctx target source
  | accumulator op operand =>
      cases operand with
      | register r => simp [Steady, execute, readOperand]
      | memory =>
          refine ends_bind.2 (ends_bind.2 (c.ends_memoryOperand ctx fun address c' same => ?_))
          simpa [readByte] using same
  | extendedPage =>
      refine ends_bind.2 (c.ends_fetchOpcode fun opcode c' same => ?_)
      exact steady_of_same same (c'.executeExtended_steady ctx.flavour (.ofOpcode opcode))
  | bitPage =>
      simp only [Steady, execute, bind_eq]
      split
      · refine ends_bind.2 (c.ends_fetchOpcode fun opcode c' same => ?_)
        exact steady_of_same same (c'.executeBit_steady (.ofOpcode opcode))
      · refine ends_bind.2 (c.ends_memoryOperand ctx fun address c' same => ?_)
        refine ends_bind.2 (c'.ends_fetchByte fun opcode c'' same' => ?_)
        exact steady_of_same (same'.trans same)
          (c''.executeDisplacedBit_steady (.ofOpcode opcode) address)
  | loadByte operand =>
      cases operand with
      | register r => simp [Steady, execute, fetchByte, readByte]
      | memory =>
          refine ends_bind.2 (c.ends_memoryOperand ctx fun address c' same => ?_)
          simpa [fetchByte, readByte, writeByte] using same
  | decrementJump | jumpRelativeIf =>
      refine ends_bind.2 (c.ends_fetchByte fun d c' same => ends_done.2 ?_)
      split <;> exact same
  | jumpIf =>
      refine ends_bind.2 (c.ends_fetchWord fun target c' same => ends_done.2 ?_)
      dsimp only
      split <;> exact same
  | returnIf =>
      simp only [Steady, execute, bind_eq]
      split
      · exact ends_bind.2 (c.ends_pop fun target c' same => same)
      · exact ends_done.2 rfl
  | callIf =>
      refine ends_bind.2 (c.ends_fetchWord fun target c' same => ?_)
      dsimp only
      split
      · exact ends_bind.2 (ends_callTo _ target fun c'' same' => same'.trans same)
      · exact ends_done.2 same
  | _ =>
      simp [Steady, execute, fetchByte, fetchWord, push, pop, callTo, readByte, writeByte, readPort,
        writePort]

/-- A step of a running core leaves it running, or is a halt, which leaves the bus alone. -/
theorem step_running_or_quiet {σ : Type} (flavour : Flavour) (running : c.halted = false)
    (bus : Bus σ) (s : σ) :
    ((c.step flavour).run bus s).1.core.halted = false ∨ ((c.step flavour).run bus s).2 = s := by
  unfold step
  rw [bind_eq, run_bind]
  generalize fetched : (c.fetchOpcode.run bus s).1 = opcode
  have untouched : (c.fetchOpcode.run bus s).2 = s := rfl
  have same : opcode.2.halted = c.halted := by
    rw [← fetched]
    rfl
  rw [untouched]
  dsimp only
  by_cases halt : Instruction.ofOpcode opcode.1 = .halt
  · rw [halt]
    exact .inr rfl
  · refine .inl ?_
    have steady := (execute_steady { opcode.2 with index := .hl, flagsFresh := false }
      ⟨flavour, c.index, c.flagsFresh⟩ halt).run bus s
    exact steady.trans (same.trans running)

end Core

namespace Processor

variable (p : Processor) (board : Board)

/-- A step that reports no event leaves the core running. -/
theorem running_of_no_event (h : (p.step board).1.event = none) :
    (p.step board).2.1.core.halted = false := by
  cases halted : p.core.halted with
  | true =>
      rw [p.step_of_halted board halted] at h
      cases h
  | false =>
      simp only [step, halted, Bool.false_eq_true, if_false, eventOf] at h ⊢
      split at h
      · cases h
      · split at h
        · cases h
        · next running => exact Bool.eq_false_iff.2 running

/-- A step that writes to the trap port leaves the core running. -/
theorem running_of_trap {v : UInt8} (h : (p.step board).1.event = some (.trap v)) :
    (p.step board).2.1.core.halted = false := by
  cases halted : p.core.halted with
  | true =>
      rw [p.step_of_halted board halted] at h
      cases h
  | false =>
      have stepped := p.core.step_running_or_quiet p.flavour halted Board.bus { board }
      simp only [step, halted, Bool.false_eq_true, if_false] at h ⊢
      rcases stepped with running | quiet
      · exact running
      · rw [quiet, eventOf] at h
        split at h <;> cases h

end Processor

end BankedZ80
