import BankedZ80.Proofs.Batch.EarlierOutput
import BankedZ80.Proofs.Batch.Report
import BankedZ80.Proofs.Config

/-!
# Splitting a batch

A batch that uses up its budget can be continued by a second one, and the guest does not notice: what
the two leave and report together is what one batch with both budgets leaves and reports.

* `Machine.runFrom_add` cuts a run of the machine in two, wherever the cut falls, and
  `Machine.runFrom_following` starts the second part anew, with its counts and its clock.
* Between two batches the output may be handed over. The second run starts without it, which the guest
  cannot tell (`Board.prependOutput_indistinguishable`).
* `Engine.runFor_splits` puts these together.
-/

namespace BankedZ80

/-- The report of two batches in a row as that of one. -/
def BatchReport.following (first second : BatchReport) : BatchReport :=
  ⟨first.executed + second.executed, first.cycles + second.cycles, second.outcome⟩

/-- What a batch has handed to the host. -/
def BatchResult.handedOver (r : BatchResult) : ByteArray := r.delivered.getD .empty

/-- The devices with the console's output set aside. -/
def Devices.withoutOutput (d : Devices) : Devices := { d with uart := { d.uart with output := .empty } }

/-! ### Runs of the machine -/

namespace Machine

variable {m : Machine} {clock : Clock}

/-- A run that uses up its budget can be continued. -/
theorem runFrom_add {executed cycles a : Nat} (b : Nat)
    (h : (m.runFrom clock executed cycles a).1.outcome = .budgetExhausted) :
    m.runFrom clock executed cycles (a + b) =
      (m.runFrom clock executed cycles a).2.runFrom clock (m.runFrom clock executed cycles a).1.executed
        (m.runFrom clock executed cycles a).1.cycles b := by
  induction a generalizing executed cycles m with
  | zero => rw [Nat.zero_add]; rfl
  | succ a ih =>
      rw [Nat.succ_add]
      cases hm : (m.turn (clock.time (executed + 1))).outcome with
      | some outcome =>
          have ended := turn_endedBy hm
          rw [runFrom_of_some hm] at h
          cases h
          exact ended.elim
      | none =>
          rw [runFrom_of_none hm] at h
          rw [runFrom_of_none hm, runFrom_of_none hm]
          exact ih h

/-- A run with counts behind it is one that counts from nothing, by the clock from there on. -/
theorem runFrom_following (m : Machine) (clock : Clock) (first : BatchReport)
    (executed cycles budget : Nat) :
    m.runFrom clock (first.executed + executed) (first.cycles + cycles) budget =
      (first.following (m.runFrom (clock.after first.executed) executed cycles budget).1,
        (m.runFrom (clock.after first.executed) executed cycles budget).2) := by
  induction budget generalizing executed cycles m with
  | zero => rfl
  | succ budget ih =>
      have time : clock.time (first.executed + executed + 1) =
        (clock.after first.executed).time (executed + 1) := rfl
      cases h : (m.turn (clock.time (first.executed + executed + 1))).outcome with
      | some outcome =>
          rw [runFrom_of_some h]
          rw [time] at h ⊢
          rw [runFrom_of_some h, BatchReport.following]
          split
          · rw [Nat.add_assoc]
          · rw [Nat.add_assoc, Nat.add_assoc]
      | none =>
          rw [runFrom_of_none h]
          rw [time] at h ⊢
          rw [runFrom_of_none h, Nat.add_assoc, Nat.add_assoc]
          exact ih _ _ _

end Machine

/-! ### Batches -/

namespace Engine

variable (e : Engine) (report : BatchReport) (machine : Machine)

/-- What the end of a batch hands over was the first part of the output. -/
theorem endBatch_board :
    (e.endBatch report machine).2.machine.board.prependOutput
      (e.endBatch report machine).1.handedOver = machine.board := by
  obtain ⟨cpu, memory, devices⟩ := machine
  unfold endBatch
  dsimp only
  split
  · show Board.mk memory ({ devices with uart := devices.uart.flushOutput.2 }.prependOutput
      (devices.uart.flushOutput.1.getD .empty)) = Board.mk memory devices
    rw [Uart.flushOutput_snd, Uart.getD_flushOutput, Devices.prependOutput, Uart.prependOutput]
    dsimp only
    rw [ByteArray.append_empty]
  · show Board.mk memory (devices.prependOutput .empty) = Board.mk memory devices
    rw [Devices.prependOutput, Uart.prependOutput, ByteArray.empty_append]

/-- The run of a whole batch is that of the first part, followed by a run on the machine that the first
batch leaves, with what it handed over put back. -/
theorem runFrom_of_exhausted {e : Engine} {clock : Clock} {a : Nat} (b : Nat)
    (ready : e.lifecycle = .ready)
    (h : (e.runFor clock a).1.report.outcome = .budgetExhausted) :
    let first := e.runFor clock a
    let second := first.2.machine.runFrom (clock.after a) 0 0 b
    e.machine.runFrom clock 0 0 (a + b) =
      (first.1.report.following second.1,
        ⟨second.2.cpu, second.2.board.prependOutput first.1.handedOver⟩) := by
  intro first second
  have exhausted : (e.machine.runFrom clock 0 0 a).1.outcome = .budgetExhausted := by
    rw [runFor_of_ready ready, endBatch_report] at h
    exact h
  have all : (e.machine.runFrom clock 0 0 a).1.executed = a := by
    obtain ⟨-, ⟨-, all⟩ | ended⟩ := e.machine.runFrom_reported clock 0 0 a
    · rw [all, Nat.zero_add]
    · rw [exhausted] at ended
      exact ended.elim
  have report : first.1.report = (e.machine.runFrom clock 0 0 a).1 := by
    rw [show first = _ from runFor_of_ready ready clock a, endBatch_report]
  have cpu : first.2.machine.cpu = (e.machine.runFrom clock 0 0 a).2.cpu := by
    rw [show first = _ from runFor_of_ready ready clock a, endBatch_cpu]
  have board : first.2.machine.board.prependOutput first.1.handedOver =
      (e.machine.runFrom clock 0 0 a).2.board := by
    rw [show first = _ from runFor_of_ready ready clock a, endBatch_board]
  obtain ⟨same, same_cpu, same_board⟩ :=
    Machine.runFrom_alike (Board.prependOutput_indistinguishable first.1.handedOver)
      (m := first.2.machine) ⟨cpu, board.symm⟩ (clock.after a) 0 0 b
  have continued :=
    (e.machine.runFrom clock 0 0 a).2.runFrom_following clock first.1.report 0 0 b
  rw [Machine.runFrom_add b exhausted, ← report]
  rw [Nat.add_zero, Nat.add_zero] at continued
  rw [continued, report, all, ← same]
  exact Prod.ext rfl (Machine.ext same_cpu.symm same_board)

/-- Two batches in a row leave and report what one batch does. -/
structure Splits (whole first second : BatchResult × Engine) : Prop where
  cpu : second.2.machine.cpu = whole.2.machine.cpu
  memory : second.2.memory = whole.2.memory
  devices : second.2.devices.withoutOutput = whole.2.devices.withoutOutput
  lifecycle : second.2.lifecycle = whole.2.lifecycle
  config : second.2.config = whole.2.config
  executed : first.1.report.executed + second.1.report.executed = whole.1.report.executed
  cycles : first.1.report.cycles + second.1.report.cycles = whole.1.report.cycles
  outcome : second.1.report.outcome = whole.1.report.outcome
  /-- What was handed over in order, then what is still there. -/
  output : first.1.handedOver ++ second.1.handedOver ++ second.2.devices.uart.output =
    whole.1.handedOver ++ whole.2.devices.uart.output

/-- **Splitting a batch is invisible.** If a batch uses up its budget, another one after it gives
together with it what a single batch with both budgets gives, whatever the cut falls on. -/
theorem runFor_splits (e : Engine) (clock : Clock) (a b : Nat)
    (h : (e.runFor clock a).1.report.outcome = .budgetExhausted) :
    Splits (e.runFor clock (a + b)) (e.runFor clock a)
      ((e.runFor clock a).2.runFor (clock.after a) b) := by
  by_cases ready : e.lifecycle = .ready
  · have run := runFrom_of_exhausted b ready h
    have ready' : (e.runFor clock a).2.lifecycle = .ready := by
      rw [runFor_of_ready ready, endBatch_report] at h
      rw [runFor_of_ready ready, endBatch_lifecycle, h]
      rfl
    have config : (e.runFor clock a).2.config = e.config := by
      rw [runFor_of_ready ready, endBatch_config]
    rw [runFor_of_ready ready clock (a + b), runFor_of_ready ready' (clock.after a) b, run]
    generalize e.runFor clock a = first at config ⊢
    generalize first.2.machine.runFrom (clock.after a) 0 0 b = second
    generalize hw : e.endBatch _ _ = whole
    generalize hs : first.2.endBatch second.1 second.2 = last
    have board : (last.2.machine.board.prependOutput last.1.handedOver).prependOutput
        first.1.handedOver = whole.2.machine.board.prependOutput whole.1.handedOver := by
      rw [← hw, ← hs, endBatch_board, endBatch_board]
    have memory := congrArg Board.memory board
    have devices := congrArg (fun b : Board => b.devices.withoutOutput) board
    have output := congrArg (fun b : Board => b.devices.uart.output) board
    subst hw hs
    constructor
    case cpu => rw [endBatch_cpu, endBatch_cpu]
    case memory => exact memory
    case devices => exact devices
    case lifecycle => rw [endBatch_lifecycle, endBatch_lifecycle]; rfl
    case config => rw [endBatch_config, endBatch_config, config]
    case executed => rw [endBatch_report, endBatch_report]; rfl
    case cycles => rw [endBatch_report, endBatch_report]; rfl
    case outcome => rw [endBatch_report, endBatch_report]; rfl
    case output =>
        rw [ByteArray.append_assoc]
        exact output
  · rw [runFor_of_not_ready ready] at h
    cases h

/-- A guest that asks the firmware to transmit a letter, and then halts. -/
def letterGuest : List UInt8 := [0x06, 0x01, 0x1E, 0x41, 0xD3, 0xEF, 0x76]

/-- A cut right behind the firmware call. -/
theorem letterGuest_splits :
    ∃ e, setUp { ramSize := 65536 } letterGuest = .ok e ∧
      (e.runFor (Clock.still 0) 3).1.report.outcome = .budgetExhausted ∧
      Splits (e.runFor (Clock.still 0) (3 + 4)) (e.runFor (Clock.still 0) 3)
        ((e.runFor (Clock.still 0) 3).2.runFor ((Clock.still 0).after 3) 4) := by
  have used_up : (setUp { ramSize := 65536 } letterGuest).toOption.any
      (fun e => (e.runFor (Clock.still 0) 3).1.report.outcome = .budgetExhausted) = true := by
    decide +kernel
  obtain ⟨e, ready, cut⟩ := exists_of_toOption_any used_up
  exact ⟨e, ready, cut, runFor_splits e (Clock.still 0) 3 4 cut⟩

end Engine

end BankedZ80
