import BankedZ80.Cpu.Execute
import BankedZ80.Devices

/-!
# The processor on its board

A `Processor` is a core of some flavour with a clock that counts T-states since the last reset, in
32 bits. `Processor.step` runs one instruction on a board and reports what happened besides; a halted
core does nothing. `Processor.run` repeats steps until an event or a budget ends them.
-/

namespace BankedZ80

/-- A core, its flavour and its clock. -/
structure Processor where
  flavour : Flavour := .nmos
  core : Core := {}
  /-- T-states since the last reset. -/
  clock : Int32 := 0
deriving DecidableEq

/-- What can happen in a step besides plain execution. -/
inductive StepEvent where
  /-- The core executed a halt, or was halted already. -/
  | halted
  /-- The instruction wrote this value to the trap port. -/
  | trap (value : UInt8)
deriving DecidableEq, Repr

/-- What a step did: T-states taken, and its event. -/
structure StepReport where
  cycles : Nat
  event : Option StepEvent
deriving DecidableEq, Repr

/-- What a sequence of steps did: instructions executed, T-states taken, and the event that ended it
early. -/
structure RunReport where
  executed : Nat
  cycles : Nat
  event : Option StepEvent
deriving DecidableEq, Repr

namespace Processor

/-- The processor after a reset: registers and clock at their first values. -/
def reset (p : Processor) : Processor := { flavour := p.flavour }

/-- The event of an instruction that left this core and wrote this to the trap port. -/
def eventOf (core : Core) (trap : Option UInt8) : Option StepEvent :=
  match trap with
  | some v => some (.trap v)
  | none => if core.halted then some .halted else none

/-- Run one instruction. -/
def step (p : Processor) (board : Board) : StepReport × Processor × Board :=
  if p.core.halted then (⟨0, some .halted⟩, p, board)
  else
    let (done, access) := (p.core.step p.flavour).run Board.bus { board }
    (⟨done.cycles, eventOf done.core access.trap⟩,
      { p with core := done.core, clock := p.clock + Int32.ofNat done.cycles }, access.board)

/-- Continue a run that has a number of instructions and T-states behind it. -/
def runFrom (executed cycles : Nat) : Nat → Processor → Board → RunReport × Processor × Board
  | 0, p, board => (⟨executed, cycles, none⟩, p, board)
  | n + 1, p, board =>
    let (report, p, board) := p.step board
    let executed := if report.cycles = 0 then executed else executed + 1
    let cycles := cycles + report.cycles
    match report.event with
    | some event => (⟨executed, cycles, some event⟩, p, board)
    | none => runFrom executed cycles n p board

/-- Run at most `budget` instructions, up to the first event. -/
def run (p : Processor) (board : Board) (budget : Nat) : RunReport × Processor × Board :=
  runFrom 0 0 budget p board

end Processor

end BankedZ80
