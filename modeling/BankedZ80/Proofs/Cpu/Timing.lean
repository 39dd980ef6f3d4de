import BankedZ80.Cpu.Processor

/-!
# How long a step takes

Every instruction takes at least four T-states, whatever the bus answers (`step_lasting`). So a step
of the processor takes no time only on a halted core, and then it reports the halt
(`Processor.event_of_cycles_eq_zero`).
-/

namespace BankedZ80

open BusProgram

namespace Core

/-- However the bus answers, the program takes at least four T-states. -/
def Lasting (p : BusProgram Stepped) : Prop := p.Ends fun s => 4 ≤ s.cycles

theorem lasting_done {c : Core} {n : Nat} : Lasting (.done ⟨c, n⟩) ↔ 4 ≤ n := Iff.rfl

/-- Only the last part of a program decides. -/
theorem Lasting.bind {α : Type} {f : α → BusProgram Stepped} (p : BusProgram α)
    (h : ∀ a, Lasting (f a)) : Lasting (p.bind f) :=
  ends_bind.mpr (ends_true h p)

/-! ### Parts of instructions -/

theorem modifyOperand_lasting (ctx : StepContext) (c : Core) (operand : Operand)
    (f : UInt8 → UInt8 → Flagged UInt8) : Lasting (modifyOperand ctx c operand f) := by
  cases operand with
  | register r => exact lasting_done.mpr (Nat.le_refl 4)
  | memory =>
      refine .bind _ fun _ => .bind _ fun _ => .bind _ fun _ => lasting_done.mpr ?_
      omega

theorem executeLoad_lasting (ctx : StepContext) (c : Core) (target source : Operand) :
    Lasting (executeLoad ctx c target source) := by
  cases target <;> cases source
  case register.register => exact lasting_done.mpr (Nat.le_refl 4)
  case register.memory =>
      refine .bind _ fun _ => .bind _ fun _ => lasting_done.mpr ?_
      omega
  case memory.register =>
      refine .bind _ fun _ => .bind _ fun _ => lasting_done.mpr ?_
      omega
  case memory.memory => exact lasting_done.mpr (Nat.le_refl 4)

theorem executeBit_lasting (c : Core) (instr : BitInstruction) :
    Lasting (c.executeBit instr) := by
  obtain ⟨op, operand⟩ := instr
  cases op <;> cases operand <;> simp only [executeBit, bind_eq, pure_eq]
  all_goals repeat first | exact lasting_done.mpr (by decide) | refine .bind _ fun _ => ?_

theorem executeDisplacedBit_lasting (c : Core) (instr : BitInstruction) (address : UInt16) :
    Lasting (c.executeDisplacedBit instr address) := by
  obtain ⟨op, operand⟩ := instr
  cases op <;> cases operand <;> simp only [executeDisplacedBit, bind_eq, pure_eq]
  all_goals repeat first | exact lasting_done.mpr (by decide) | refine .bind _ fun _ => ?_

theorem finishBlock_lasting (c : Core) (again : Bool) : Lasting (.done (c.finishBlock again)) := by
  cases again <;> exact lasting_done.mpr (by decide)

theorem finishLatchedBlock_lasting (c : Core) (again : Bool) :
    Lasting (.done (c.finishLatchedBlock again)) := by
  cases again <;> exact lasting_done.mpr (by decide)

theorem executeExtended_lasting (flavour : Flavour) (c : Core) (instr : ExtendedInstruction) :
    Lasting (c.executeExtended flavour instr) := by
  cases instr with
  | inputRegister target =>
      refine .bind _ fun v => ?_
      cases target <;> exact lasting_done.mpr (by decide)
  | block op forward repeats =>
      cases op with
      | copy => exact .bind _ fun _ => .bind _ fun _ => finishLatchedBlock_lasting _ _
      | search => exact .bind _ fun _ => finishLatchedBlock_lasting _ _
      | input => exact .bind _ fun _ => .bind _ fun _ => finishBlock_lasting _ _
      | output => exact .bind _ fun _ => .bind _ fun _ => finishBlock_lasting _ _
  | _ =>
      simp only [executeExtended, bind_eq, pure_eq]
      repeat first | exact lasting_done.mpr (by decide) | refine .bind _ fun _ => ?_

/-! ### Instructions -/

theorem execute_lasting (ctx : StepContext) (c : Core) (instr : Instruction) :
    Lasting (execute ctx c instr) := by
  cases instr with
  | increment operand => exact modifyOperand_lasting ctx c operand Arithmetic.increment
  | decrement operand => exact modifyOperand_lasting ctx c operand Arithmetic.decrement
  | load target source => exact executeLoad_lasting ctx c target source
  | accumulator op operand => exact .bind _ fun r => lasting_done.mpr (Nat.le_add_right 4 r.2.2)
  | extendedPage => exact .bind _ fun _ => executeExtended_lasting ctx.flavour _ _
  | bitPage =>
      simp only [execute, bind_eq]
      split
      · exact .bind _ fun _ => executeBit_lasting _ _
      · exact .bind _ fun _ => .bind _ fun _ => executeDisplacedBit_lasting _ _ _
  | loadByte operand =>
      cases operand with
      | register r => exact .bind _ fun _ => lasting_done.mpr (by decide)
      | memory =>
          refine .bind _ fun _ => .bind _ fun _ => .bind _ fun _ => lasting_done.mpr ?_
          split <;> decide
  | _ =>
      simp only [execute, bind_eq, pure_eq]
      repeat' first
        | exact lasting_done.mpr (by decide)
        | refine .bind _ fun _ => ?_
        | split

/-- **Every instruction takes at least four T-states**, whatever the bus answers. -/
theorem step_lasting (flavour : Flavour) (c : Core) : Lasting (c.step flavour) :=
  .bind _ fun _ => execute_lasting _ _ _

end Core

namespace Processor

variable (p : Processor) (board : Board)

theorem step_of_halted (h : p.core.halted = true) : p.step board = (⟨0, some .halted⟩, p, board) :=
  if_pos h

theorem four_le_cycles (h : p.core.halted = false) : 4 ≤ (p.step board).1.cycles := by
  have hs := (Core.step_lasting p.flavour p.core).run Board.bus { board }
  simpa [step, h] using hs

/-- A step takes no time only on a halted core, and it reports the halt. -/
theorem event_of_cycles_eq_zero (h : (p.step board).1.cycles = 0) :
    (p.step board).1.event = some .halted := by
  cases hc : p.core.halted with
  | true => rw [p.step_of_halted board hc]
  | false =>
      have := p.four_le_cycles board hc
      omega

/-- A halt is reported by a halted core. -/
theorem halted_of_event (h : (p.step board).1.event = some .halted) :
    (p.step board).2.1.core.halted = true := by
  cases hc : p.core.halted with
  | true => rw [p.step_of_halted board hc]; exact hc
  | false =>
      simp only [step, hc, Bool.false_eq_true, if_false, eventOf] at h ⊢
      split at h
      · cases h
      · split at h
        · assumption
        · cases h

end Processor

end BankedZ80
