import BankedZ80.Proofs.Cpu.Timing

/-!
# What depends on the refresh register

The refresh register counts opcode fetches. A single instruction looks at it, the one that loads A from
it; all others do the same whatever it holds, and leave the same core but for this register
(`Core.execute_withRefresh`, `Core.executeExtended_withRefresh`). So a step of the processor that is not
such a load cannot tell two refresh registers apart (`Processor.step_sameButRefresh`).
-/

namespace BankedZ80

open BusProgram

/-- The core with another refresh register. -/
def Core.withRefresh (r : UInt8) (c : Core) : Core := { c with r := r }

/-- The core after a step with another refresh register. -/
def Stepped.withRefresh (r : UInt8) (s : Stepped) : Stepped := { s with core := s.core.withRefresh r }

namespace Core

/-- The same program, which leaves another refresh register. -/
def leaving (r : UInt8) (p : BusProgram Stepped) : BusProgram Stepped :=
  p.bind fun s => .done (s.withRefresh r)

theorem run_leaving {σ : Type} (r : UInt8) (p : BusProgram Stepped) (bus : Bus σ) (s : σ) :
    (leaving r p).run bus s = ((p.run bus s).1.withRefresh r, (p.run bus s).2) :=
  run_bind bus p _ s

/-! ### Parts of instructions -/

variable (r : UInt8) (c : Core)

theorem modifyOperand_withRefresh (ctx : StepContext) (operand : Operand)
    (f : UInt8 → UInt8 → Flagged UInt8) :
    modifyOperand ctx (c.withRefresh r) operand f = leaving r (modifyOperand ctx c operand f) := by
  obtain ⟨flavour, index, fresh⟩ := ctx
  cases operand with
  | register name => cases name <;> cases index <;> rfl
  | memory => cases index <;> rfl

theorem executeLoad_withRefresh (ctx : StepContext) (target source : Operand) :
    executeLoad ctx (c.withRefresh r) target source =
      leaving r (executeLoad ctx c target source) := by
  obtain ⟨flavour, index, fresh⟩ := ctx
  cases target with
  | memory =>
      cases source with
      | memory => rfl
      | register s => cases index <;> cases s <;> rfl
  | register t =>
      cases source with
      | memory => cases index <;> cases t <;> rfl
      | register s => cases index <;> cases t <;> cases s <;> rfl

theorem executeBit_withRefresh (instr : BitInstruction) :
    (c.withRefresh r).executeBit instr = leaving r (c.executeBit instr) := by
  obtain ⟨op, operand⟩ := instr
  cases operand with
  | memory => cases op <;> rfl
  | register name => cases op <;> cases name <;> rfl

theorem executeDisplacedBit_withRefresh (instr : BitInstruction) (address : UInt16) :
    (c.withRefresh r).executeDisplacedBit instr address =
      leaving r (c.executeDisplacedBit instr address) := by
  obtain ⟨op, operand⟩ := instr
  cases operand with
  | memory => cases op <;> rfl
  | register name => cases op <;> cases name <;> rfl

theorem finishBlock_withRefresh {c c' : Core} (same : c' = c.withRefresh r) (again : Bool) :
    c'.finishBlock again = (c.finishBlock again).withRefresh r := by
  subst same
  cases again <;> rfl

theorem finishLatchedBlock_withRefresh {c c' : Core} (same : c' = c.withRefresh r) (again : Bool) :
    c'.finishLatchedBlock again = (c.finishLatchedBlock again).withRefresh r := by
  subst same
  cases again <;> rfl

/-! ### Instructions -/

/-- Of the extended page, one instruction reads the refresh register and one replaces it. -/
theorem executeExtended_withRefresh (flavour : Flavour) {instr : ExtendedInstruction}
    (other : instr ≠ .loadAFromR) :
    ∃ r', (c.withRefresh r).executeExtended flavour instr =
      leaving r' (c.executeExtended flavour instr) := by
  cases instr with
  | loadAFromR => exact absurd rfl other
  | loadRFromA => exact ⟨c.a, rfl⟩
  | inputRegister target =>
      cases target with
      | memory => exact ⟨r, rfl⟩
      | register name => cases name <;> exact ⟨r, rfl⟩
  | outputRegister source =>
      cases source with
      | memory => exact ⟨r, rfl⟩
      | register name => cases name <;> exact ⟨r, rfl⟩
  | subCarryPair pair => cases pair <;> exact ⟨r, rfl⟩
  | addCarryPair pair => cases pair <;> exact ⟨r, rfl⟩
  | storePair pair => cases pair <;> exact ⟨r, rfl⟩
  | loadPair pair => cases pair <;> exact ⟨r, rfl⟩
  | block op forward repeats =>
      refine ⟨r, ?_⟩
      cases op with
      | copy =>
          refine congrArg (read c.hl) (funext fun v => congrArg (write c.de v) (funext fun _ => ?_))
          refine congrArg done (finishLatchedBlock_withRefresh r ?_ _)
          rfl
      | search =>
          refine congrArg (read c.hl) (funext fun v => ?_)
          refine congrArg done (finishLatchedBlock_withRefresh r ?_ _)
          rfl
      | input =>
          refine congrArg (input c.bc) (funext fun v => congrArg (write c.hl v) (funext fun _ => ?_))
          refine congrArg done (finishBlock_withRefresh r ?_ _)
          rfl
      | output =>
          refine congrArg (read c.hl) (funext fun v => congrArg (output _ v) (funext fun _ => ?_))
          refine congrArg done (finishBlock_withRefresh r ?_ _)
          rfl
  | _ => exact ⟨r, rfl⟩

theorem execute_withRefresh (ctx : StepContext) {instr : Instruction}
    (plain : instr ≠ .extendedPage) (bit : instr ≠ .bitPage) :
    execute ctx (c.withRefresh r) instr = leaving r (execute ctx c instr) := by
  have modify := modifyOperand_withRefresh r c ctx
  have load := executeLoad_withRefresh r c ctx
  obtain ⟨flavour, index, fresh⟩ := ctx
  cases instr with
  | extendedPage => exact absurd rfl plain
  | bitPage => exact absurd rfl bit
  | increment operand => exact modify operand Arithmetic.increment
  | decrement operand => exact modify operand Arithmetic.decrement
  | load target source => exact load target source
  | loadPair pair | incrementPair pair | decrementPair pair => cases pair <;> cases index <;> rfl
  | addPair | loadIndexed | exchangeStack => cases index <;> rfl
  | pop pair => cases pair <;> cases index <;> rfl
  | flags op => cases op <;> rfl
  | accumulatorByte op => cases op <;> rfl
  | accumulator op operand =>
      cases operand with
      | register name => cases op <;> rfl
      | memory => cases index <;> cases op <;> rfl
  | loadByte operand =>
      cases operand with
      | register name => cases name <;> cases index <;> rfl
      | memory => cases index <;> rfl
  | decrementJump =>
      refine congrArg (read c.pc) (funext fun d => ?_)
      show done (if c.b - 1 == 0 then _ else _) = leaving r (done (if c.b - 1 == 0 then _ else _))
      split <;> rfl
  | jumpRelativeIf cond =>
      refine congrArg (read c.pc) (funext fun d => ?_)
      show done (if c.satisfies cond then _ else _) =
        leaving r (done (if c.satisfies cond then _ else _))
      split <;> rfl
  | jumpIf cond =>
      refine congrArg (read c.pc) (funext fun low => congrArg (read (c.pc + 1)) (funext fun high => ?_))
      show done ⟨if c.satisfies cond then _ else _, 10⟩ =
        leaving r (done ⟨if c.satisfies cond then _ else _, 10⟩)
      split <;> rfl
  | returnIf cond =>
      show (if c.satisfies cond then _ else _) = leaving r (if c.satisfies cond then _ else _)
      split <;> rfl
  | callIf cond =>
      refine congrArg (read c.pc) (funext fun low => congrArg (read (c.pc + 1)) (funext fun high => ?_))
      show (if c.satisfies cond then _ else _) = leaving r (if c.satisfies cond then _ else _)
      split <;> rfl
  | _ => rfl

/-- The refresh register after an opcode fetch. -/
def refreshed (r : UInt8) : UInt8 := (r &&& 0x80) ||| ((r + 1) &&& 0x7F)

/-- An instruction of the bit page fetches a second opcode, unless it has a displacement. -/
theorem executeBitPage_withRefresh (ctx : StepContext) :
    ∃ r', execute ctx (c.withRefresh r) .bitPage = leaving r' (execute ctx c .bitPage) := by
  obtain ⟨flavour, index, fresh⟩ := ctx
  let fetched : Core := { c with pc := c.pc + 1, r := refreshed c.r }
  let displaced (address : UInt16) : Core := { c with pc := c.pc + 1 + 1, wz := address }
  cases index with
  | hl =>
      refine ⟨refreshed r, congrArg (read c.pc) (funext fun opcode => ?_)⟩
      exact executeBit_withRefresh (refreshed r) fetched (.ofOpcode opcode)
  | ix =>
      refine ⟨r, congrArg (read c.pc) (funext fun d => ?_)⟩
      refine congrArg (read (c.pc + 1)) (funext fun opcode => ?_)
      exact executeDisplacedBit_withRefresh r (displaced (c.ix + signExtend d)) (.ofOpcode opcode) _
  | iy =>
      refine ⟨r, congrArg (read c.pc) (funext fun d => ?_)⟩
      refine congrArg (read (c.pc + 1)) (funext fun opcode => ?_)
      exact executeDisplacedBit_withRefresh r (displaced (c.iy + signExtend d)) (.ofOpcode opcode) _

/-! ### Steps -/

/-- Do these two bytes load A from the refresh register? -/
def ReadsRefresh (first second : UInt8) : Prop :=
  Instruction.ofOpcode first = .extendedPage ∧ ExtendedInstruction.ofOpcode second = .loadAFromR

instance (first second : UInt8) : Decidable (ReadsRefresh first second) :=
  inferInstanceAs (Decidable (_ ∧ _))

/-- **A step that does not load A from the refresh register** makes the same accesses whatever this
holds, and leaves the same core but for it. -/
theorem run_step_withRefresh {σ : Type} (flavour : Flavour) (bus : Bus σ) (s : σ)
    (spares : ¬ReadsRefresh (bus.read c.pc s) (bus.read (c.pc + 1) s)) :
    ∃ r', ((c.withRefresh r).step flavour).run bus s =
      (((c.step flavour).run bus s).1.withRefresh r', ((c.step flavour).run bus s).2) := by
  let ctx : StepContext := ⟨flavour, c.index, c.flagsFresh⟩
  let start : Core :=
    { c with pc := c.pc + 1, r := refreshed c.r, index := .hl, flagsFresh := false }
  let instr := Instruction.ofOpcode (bus.read c.pc s)
  show ∃ r', (execute ctx (start.withRefresh (refreshed r)) instr).run bus s =
    (((execute ctx start instr).run bus s).1.withRefresh r', ((execute ctx start instr).run bus s).2)
  by_cases extended : instr = .extendedPage
  · let second : Core := { start with pc := start.pc + 1, r := refreshed start.r }
    obtain ⟨r', same⟩ := executeExtended_withRefresh (refreshed (refreshed r)) second flavour
      fun load => spares ⟨extended, load⟩
    rw [extended]
    refine ⟨r', ?_⟩
    rw [← run_leaving]
    exact congrArg (·.run bus s) same
  · by_cases bit : instr = .bitPage
    · obtain ⟨r', same⟩ := executeBitPage_withRefresh (refreshed r) start ctx
      rw [bit, same]
      exact ⟨r', run_leaving r' _ bus s⟩
    · rw [execute_withRefresh (refreshed r) start ctx extended bit]
      exact ⟨refreshed r, run_leaving _ _ bus s⟩

end Core

namespace Processor

/-- Is the next instruction a load of A from the refresh register? -/
def readsRefresh (p : Processor) (board : Board) : Bool :=
  !p.core.halted &&
    decide (Core.ReadsRefresh (board.memory.read p.core.pc) (board.memory.read (p.core.pc + 1)))

/-- Two processors differ at most in the refresh register and the clock. -/
def SameButRefresh (p p' : Processor) : Prop :=
  p'.flavour = p.flavour ∧ ∃ r, p'.core = p.core.withRefresh r

variable {p p' : Processor}

theorem SameButRefresh.refl (p : Processor) : p.SameButRefresh p := ⟨rfl, p.core.r, rfl⟩

theorem SameButRefresh.halted (same : p.SameButRefresh p') : p'.core.halted = p.core.halted := by
  obtain ⟨-, r, core⟩ := same
  rw [core]
  rfl

/-- A step of the processor cannot tell them apart, unless it loads A from the refresh register. -/
theorem step_sameButRefresh (same : p.SameButRefresh p') {board : Board}
    (spares : p.readsRefresh board = false) :
    (p'.step board).1 = (p.step board).1 ∧ (p'.step board).2.2 = (p.step board).2.2 ∧
      (p.step board).2.1.SameButRefresh (p'.step board).2.1 := by
  have halted := same.halted
  obtain ⟨flavour, r, core⟩ := same
  cases running : p.core.halted with
  | true =>
      rw [step_of_halted p board running, step_of_halted p' board (halted.trans running)]
      exact ⟨rfl, rfl, flavour, r, core⟩
  | false =>
      rw [readsRefresh, running, Bool.not_false, Bool.true_and, decide_eq_false_iff_not] at spares
      obtain ⟨r', run⟩ := p.core.run_step_withRefresh r p.flavour Board.bus { board } spares
      unfold step
      rw [halted, running, flavour, core, if_neg Bool.false_ne_true, if_neg Bool.false_ne_true, run]
      exact ⟨rfl, rfl, rfl, r', rfl⟩

end Processor

end BankedZ80
