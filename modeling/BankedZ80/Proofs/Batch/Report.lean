import BankedZ80.Proofs.Batch.Loops
import BankedZ80.Proofs.Hbios.Effect

/-!
# What a batch reports

The report of a batch and the engine that it leaves agree: the outcome tells what the lifecycle has
become, and the statistics count exactly what was executed.

* `Machine.Reported` relates the report of a run to the machine that it leaves; `runFrom_reported`
  shows it by induction on the budget.
* `Engine.Truthful` is the same for a batch, and `Engine.runFor_ends_truthfully` puts it together with
  the end of the two loops.
-/

namespace BankedZ80

/-! ### Runs of the machine -/

namespace Machine

/-- What a turn that ends a batch with an outcome has left. -/
def EndedBy (m : Machine) : BatchOutcome → Prop
  | .halted => m.cpu.core.halted = true
  | .waitingForInput => m.board.devices.uart.input = []
  | .budgetExhausted | .notRunning => False

variable {m : Machine}

/-- A firmware call waits for input only where there is none. -/
theorem input_eq_nil_of_serve (now : UInt64) (h : (m.serve now).1 = true) :
    (m.serve now).2.board.devices.uart.input = [] := by
  have wait := Hbios.input_eq_nil_of_wait ⟨m.cpu.core, m.board⟩ now
  unfold serve at h ⊢
  generalize Hbios.call now ⟨m.cpu.core, m.board⟩ = r at h wait ⊢
  obtain ⟨s, action⟩ := r
  cases action with
  | proceed => cases h
  | waitForInput => exact wait rfl
  | restart cold => cases h

theorem turn_endedBy {now : UInt64} {outcome : BatchOutcome}
    (h : (m.turn now).outcome = some outcome) : (m.turn now).machine.EndedBy outcome := by
  have halt := m.cpu.halted_of_event m.board
  unfold turn at h ⊢
  generalize m.cpu.step m.board = s at h halt ⊢
  obtain ⟨⟨cycles, event⟩, cpu, board⟩ := s
  cases event with
  | none => cases h
  | some event =>
      cases event with
      | halted =>
          cases h
          exact halt rfl
      | trap v =>
          have wait := input_eq_nil_of_serve (m := ⟨cpu, board⟩) now
          dsimp only at h ⊢
          generalize Machine.serve now ⟨cpu, board⟩ = served at h wait ⊢
          obtain ⟨waiting, m'⟩ := served
          cases waiting with
          | true =>
              cases h
              exact wait rfl
          | false => cases h

/-- What a run with so many instructions behind it may return. -/
structure Reported (executed budget : Nat) (r : BatchReport × Machine) : Prop where
  executed_le : r.1.executed ≤ executed + budget
  ending : r.1.outcome = .budgetExhausted ∧ r.1.executed = executed + budget ∨
    r.2.EndedBy r.1.outcome

theorem runFrom_reported (clock : Clock) (executed cycles budget : Nat) :
    Reported executed budget (m.runFrom clock executed cycles budget) := by
  induction budget generalizing executed cycles m with
  | zero => exact ⟨Nat.le_refl executed, .inl ⟨rfl, rfl⟩⟩
  | succ budget ih =>
      cases h : (m.turn (clock.time (executed + 1))).outcome with
      | some outcome =>
          rw [runFrom_of_some h]
          refine ⟨?_, .inr (turn_endedBy h)⟩
          dsimp only
          split <;> omega
      | none =>
          rw [runFrom_of_none h]
          obtain ⟨le, ending⟩ := ih (m := (m.turn (clock.time (executed + 1))).machine)
            (executed + 1) (cycles + (m.turn (clock.time (executed + 1))).cycles)
          have eq : executed + 1 + budget = executed + (budget + 1) := by omega
          rw [eq] at le ending
          exact ⟨le, ending⟩

end Machine

/-! ### Batches -/

namespace Engine

/-- The report of a batch is true of the engine that the batch leaves. -/
structure Truthful (before : Engine) (budget : Nat) (result : BatchResult) (after : Engine) :
    Prop where
  executed_le : result.report.executed ≤ budget
  /-- Nothing runs exactly when the engine was not ready. -/
  notRunning_iff : result.report.outcome = .notRunning ↔ before.lifecycle ≠ .ready
  /-- Then nothing is counted, handed over or changed. -/
  unchanged : before.lifecycle ≠ .ready →
    result = { report := ⟨0, 0, .notRunning⟩ } ∧ after = before
  exhausted : result.report.outcome = .budgetExhausted →
    result.report.executed = budget ∧ after.lifecycle = .ready
  halted : result.report.outcome = .halted →
    after.core.halted = true ∧ after.lifecycle = .halted
  waiting : result.report.outcome = .waitingForInput →
    after.lifecycle = .ready ∧ after.devices.uart.input = []
  /-- A batch that ran counts as one, with what it reports. -/
  counted : before.lifecycle = .ready →
    after.stats =
      { batches := before.stats.batches + 1
        instructions := before.stats.instructions + result.report.executed
        cycles := before.stats.cycles + result.report.cycles }

variable {e : Engine} {report : BatchReport} {machine : Machine}

/-- The end of a batch passes the truth of the run's report on. -/
theorem endBatch_truthful {budget : Nat} (ready : e.lifecycle = .ready)
    (h : Machine.Reported 0 budget (report, machine)) :
    e.Truthful budget (e.endBatch report machine).1 (e.endBatch report machine).2 := by
  obtain ⟨le, ending⟩ := h
  rw [Nat.zero_add] at le ending
  have not_notRunning : report.outcome ≠ .notRunning := by
    rintro h
    rcases ending with ⟨out, -⟩ | out
    · rw [h] at out
      cases out
    · rw [h] at out
      exact out
  constructor
  case executed_le => rw [endBatch_report]; exact le
  case notRunning_iff =>
      rw [endBatch_report]
      exact ⟨fun h => absurd h not_notRunning, fun h => absurd ready h⟩
  case unchanged => exact fun h => absurd ready h
  case exhausted =>
      rw [endBatch_report, endBatch_lifecycle]
      intro h
      rcases ending with ⟨-, all⟩ | out
      · exact ⟨all, by rw [h]; rfl⟩
      · rw [h] at out
        exact out.elim
  case halted =>
      rw [endBatch_report, endBatch_lifecycle, endBatch_core]
      intro h
      rcases ending with ⟨out, -⟩ | out
      · rw [h] at out
        cases out
      · rw [h] at out
        exact ⟨out, if_pos h⟩
  case waiting =>
      rw [endBatch_report, endBatch_lifecycle, endBatch_input]
      intro h
      rcases ending with ⟨out, -⟩ | out
      · rw [h] at out
        cases out
      · rw [h] at out
        exact ⟨by rw [h]; rfl, out⟩
  case counted => rw [endBatch_report]; exact fun _ => endBatch_stats _ _ _

/-- **Every batch ends, and its report is true.** On a ready engine the two loops of a batch end after
at most `2 * budget + 2` turns, and the batch is what they end with; on any other engine nothing
runs. -/
theorem runFor_ends_truthfully (e : Engine) (clock : Clock) (budget : Nat) :
    (e.lifecycle = .ready → ∃ report machine,
      (∃ n ≤ 2 * budget + 2, (BatchLoops.next clock budget)^[n] (.outer 0 0 e.machine) =
        .finished report machine) ∧
      e.runFor clock budget = e.endBatch report machine) ∧
    e.Truthful budget (e.runFor clock budget).1 (e.runFor clock budget).2 := by
  by_cases ready : e.lifecycle = .ready
  · have run := runFor_of_ready ready clock budget
    refine ⟨fun _ => ⟨_, _, BatchLoops.outer_endsWithin clock budget e.machine, run⟩, ?_⟩
    rw [run]
    exact endBatch_truthful ready (Machine.runFrom_reported clock 0 0 budget)
  · have run := runFor_of_not_ready ready clock budget
    refine ⟨fun h => absurd h ready, ?_⟩
    rw [run]
    constructor
    case executed_le => exact Nat.zero_le budget
    case notRunning_iff => exact ⟨fun _ => ready, fun _ => rfl⟩
    case unchanged => exact fun _ => ⟨rfl, rfl⟩
    case counted => exact fun h => absurd h ready
    all_goals exact nofun

end Engine

end BankedZ80
