import BankedZ80.Engine
import BankedZ80.Proofs.Cpu.Timing

/-!
# Turns and runs

A run of the machine is a sequence of turns. What a whole run keeps is shown by an induction with two
cases: a turn that ends the run (`runFrom_of_some`), and one after which it goes on with one more
instruction behind it (`runFrom_of_none`). A turn that does not find or leave the processor halted
takes time (`turn_cycles_pos`).

A batch on a ready engine is such a run and then `Engine.endBatch` (`Engine.runFor_of_ready`), which
leaves what the run has left, but for the output that it hands over.
-/

namespace BankedZ80

namespace Machine

variable {m : Machine}

/-! ### One turn -/

/-- A turn that does not end in a halt takes time, so its instruction is counted. -/
theorem turn_cycles_pos {now : UInt64} (h : (m.turn now).outcome ≠ some .halted) :
    0 < (m.turn now).cycles := by
  have idle := m.cpu.event_of_cycles_eq_zero m.board
  unfold turn at h ⊢
  generalize m.cpu.step m.board = s at h idle ⊢
  obtain ⟨⟨cycles, event⟩, cpu, board⟩ := s
  refine Nat.pos_of_ne_zero fun hc => h ?_
  cases event with
  | none => exact nomatch idle hc
  | some event =>
      cases event with
      | halted => rfl
      | trap v => exact nomatch idle hc

/-! ### Runs -/

variable {clock : Clock} {executed cycles budget : Nat}

/-- A turn that does not end the run leaves the rest of it to the next ones. -/
theorem runFrom_of_none (h : (m.turn (clock.time (executed + 1))).outcome = none) :
    m.runFrom clock executed cycles (budget + 1) =
      (m.turn (clock.time (executed + 1))).machine.runFrom clock (executed + 1)
        (cycles + (m.turn (clock.time (executed + 1))).cycles) budget := by
  have hc : (m.turn (clock.time (executed + 1))).cycles ≠ 0 :=
    Nat.ne_of_gt (turn_cycles_pos (by rw [h]; exact nofun))
  simp only [runFrom, h, if_neg hc]

/-- A turn that ends the run. -/
theorem runFrom_of_some {outcome : BatchOutcome}
    (h : (m.turn (clock.time (executed + 1))).outcome = some outcome) :
    m.runFrom clock executed cycles (budget + 1) =
      (⟨if (m.turn (clock.time (executed + 1))).cycles = 0 then executed else executed + 1,
        cycles + (m.turn (clock.time (executed + 1))).cycles, outcome⟩,
        (m.turn (clock.time (executed + 1))).machine) := by
  simp only [runFrom, h]

end Machine

/-! ### Batches -/

namespace Engine

variable (e : Engine) (report : BatchReport) (machine : Machine)

@[simp] theorem endBatch_report : (e.endBatch report machine).1.report = report := by
  unfold endBatch
  dsimp only
  split <;> rfl

@[simp] theorem endBatch_lifecycle :
    (e.endBatch report machine).2.lifecycle =
      if report.outcome = .halted then .halted else .ready := by
  unfold endBatch
  dsimp only
  split <;> rfl

@[simp] theorem endBatch_stats :
    (e.endBatch report machine).2.stats =
      { batches := e.stats.batches + 1
        instructions := e.stats.instructions + report.executed
        cycles := e.stats.cycles + report.cycles } := by
  unfold endBatch
  dsimp only
  split <;> rfl

@[simp] theorem endBatch_core : (e.endBatch report machine).2.core = machine.cpu.core := by
  unfold endBatch
  dsimp only
  split <;> rfl

/-- The end of a batch may empty the output, and leaves the devices alone otherwise. -/
theorem endBatch_devices :
    (e.endBatch report machine).2.devices =
      { machine.board.devices with
        uart :=
          if e.hasSink then { machine.board.devices.uart with output := .empty }
          else machine.board.devices.uart } := by
  unfold endBatch
  dsimp only
  split
  · rw [← Uart.flushOutput_snd]
    rfl
  · rfl

@[simp] theorem endBatch_input :
    (e.endBatch report machine).2.devices.uart.input = machine.board.devices.uart.input := by
  rw [endBatch_devices]
  dsimp only
  split <;> rfl

@[simp] theorem endBatch_cpu : (e.endBatch report machine).2.machine.cpu = machine.cpu := by
  unfold endBatch
  dsimp only
  split <;> rfl

@[simp] theorem endBatch_config : (e.endBatch report machine).2.config = e.config := by
  unfold endBatch
  dsimp only
  split <;> rfl

@[simp] theorem endBatch_memory : (e.endBatch report machine).2.memory = machine.board.memory := by
  unfold endBatch
  dsimp only
  split <;> rfl

@[simp] theorem endBatch_disks :
    (e.endBatch report machine).2.devices.disks = machine.board.devices.disks := by
  rw [endBatch_devices]

variable {e}

theorem isReady_iff : e.isReady = true ↔ e.lifecycle = .ready := beq_iff_eq

/-- A batch on a ready engine is the run of its machine, brought to an end. -/
theorem runFor_of_ready (ready : e.lifecycle = .ready) (clock : Clock) (budget : Nat) :
    e.runFor clock budget =
      e.endBatch (e.machine.runFrom clock 0 0 budget).1 (e.machine.runFrom clock 0 0 budget).2 :=
  if_neg (not_not_intro ready)

theorem runFor_of_not_ready (h : e.lifecycle ≠ .ready) (clock : Clock) (budget : Nat) :
    e.runFor clock budget = ({ report := ⟨0, 0, .notRunning⟩ }, e) :=
  if_pos h

end Engine

end BankedZ80
