import BankedZ80.Proofs.Batch.Turn
import Mathlib.Logic.Function.Iterate

/-!
# The two loops of a batch

A batch is written as two nested loops. The outer one asks the processor for as many instructions as
are left of the budget, and serves the firmware call that ended its run; the inner one lets the
processor step until an event, and counts a step only if it took time. Neither loop is bounded by
anything but these counts.

* `BatchLoops` is where the two loops stand, `BatchLoops.next` a single turn of them.
* `BatchLoops.outer_endsWithin`: after at most `2 * budget + 2` turns the loops end, and they end as
  `Machine.runFrom` does, which counts a budget down step by step.
-/

namespace BankedZ80

/-- Where the two loops of a batch stand. -/
inductive BatchLoops where
  /-- Before the test of the outer loop, with what the batch has executed. -/
  | outer (executed cycles : Nat) (machine : Machine)
  /-- Before the test of the inner loop; `ran` and `took` count this run of the processor alone. -/
  | inner (executed cycles ran took : Nat) (machine : Machine)
  /-- Both loops have ended. -/
  | finished (report : BatchReport) (machine : Machine)

namespace BatchLoops

variable (clock : Clock) (budget : Nat)

/-- One turn: a test, and the body behind it. -/
def next : BatchLoops → BatchLoops
  | outer executed cycles m =>
    if executed ≥ budget then finished ⟨executed, cycles, .budgetExhausted⟩ m
    else inner executed cycles 0 0 m
  | inner executed cycles ran took m =>
    if ran < budget - executed then
      let (report, cpu, board) := m.cpu.step m.board
      let m : Machine := { cpu, board }
      let ran := if report.cycles > 0 then ran + 1 else ran
      let took := took + report.cycles
      match report.event with
      | none => inner executed cycles ran took m
      | some .halted => finished ⟨executed + ran, cycles + took, .halted⟩ m
      | some (.trap _) =>
        let (waiting, m) := m.serve (clock.time (executed + ran))
        if waiting then finished ⟨executed + ran, cycles + took, .waitingForInput⟩ m
        else outer (executed + ran) (cycles + took) m
    else finished ⟨executed + ran, cycles + took, .budgetExhausted⟩ m
  | finished report m => finished report m

/-- Both loops have ended with what a run of the machine returned. -/
def ofRun (r : BatchReport × Machine) : BatchLoops := finished r.1 r.2

/-- After at most so many turns both loops have ended, with what a run of the machine returned. -/
def EndsWithin (turns : Nat) (loops : BatchLoops) (r : BatchReport × Machine) : Prop :=
  ∃ n ≤ turns, (next clock budget)^[n] loops = ofRun r

variable {clock budget} {turns executed cycles ran took : Nat} {m : Machine}

theorem EndsWithin.mono {more : Nat} {loops : BatchLoops} {r : BatchReport × Machine}
    (h : EndsWithin clock budget turns loops r) (le : turns ≤ more) :
    EndsWithin clock budget more loops r := by
  obtain ⟨n, hn, eq⟩ := h
  exact ⟨n, Nat.le_trans hn le, eq⟩

theorem EndsWithin.of_next {loops : BatchLoops} {r : BatchReport × Machine}
    (h : EndsWithin clock budget turns (next clock budget loops) r) :
    EndsWithin clock budget (turns + 1) loops r := by
  obtain ⟨n, hn, eq⟩ := h
  refine ⟨n + 1, Nat.succ_le_succ hn, ?_⟩
  rw [Function.iterate_succ_apply]
  exact eq

theorem endsWithin_ofRun (r : BatchReport × Machine) : EndsWithin clock budget 0 (ofRun r) r :=
  ⟨0, Nat.le_refl 0, rfl⟩

/-! ### One turn of the inner loop is one turn of the machine -/

/-- A turn of the machine that ends the batch ends both loops. -/
theorem next_inner_of_some {outcome : BatchOutcome} (room : ran < budget - executed)
    (h : (m.turn (clock.time (executed + ran + 1))).outcome = some outcome) :
    next clock budget (inner executed cycles ran took m) =
      ofRun (m.runFrom clock (executed + ran) (cycles + took) 1) := by
  have idle := m.cpu.event_of_cycles_eq_zero m.board
  rw [Machine.runFrom_of_some h]
  unfold Machine.turn at h ⊢
  simp only [next, ofRun, if_pos room]
  generalize m.cpu.step m.board = s at idle h ⊢
  obtain ⟨⟨taken, event⟩, cpu, board⟩ := s
  cases event with
  | none => cases h
  | some event =>
      cases event with
      | halted =>
          cases h
          dsimp only
          congr 2
          · split <;> split <;> omega
          · omega
      | trap v =>
          have pos : 0 < taken := by
            refine Nat.pos_of_ne_zero fun h0 => ?_
            cases idle h0
          simp only [if_pos pos, if_neg (Nat.ne_of_gt pos), Nat.add_assoc] at h ⊢
          generalize Machine.serve _ _ = served at h ⊢
          obtain ⟨waiting, m'⟩ := served
          cases waiting with
          | true => cases h; rfl
          | false => cases h

/-- After any other turn of the machine one of the two loops goes on, with an instruction more. -/
theorem next_inner_of_none (cycles took : Nat) (room : ran < budget - executed)
    (h : (m.turn (clock.time (executed + ran + 1))).outcome = none) :
    let turn := m.turn (clock.time (executed + ran + 1))
    let loops := next clock budget (inner executed cycles ran took m)
    loops = inner executed cycles (ran + 1) (took + turn.cycles) turn.machine ∨
      loops = outer (executed + (ran + 1)) (cycles + (took + turn.cycles)) turn.machine := by
  have pos := Machine.turn_cycles_pos (by rw [h]; exact nofun)
  unfold Machine.turn at h pos ⊢
  simp only [next, if_pos room]
  generalize m.cpu.step m.board = s at h pos ⊢
  obtain ⟨⟨taken, event⟩, cpu, board⟩ := s
  cases event with
  | none => exact .inl (by simp only [if_pos pos])
  | some event =>
      cases event with
      | halted => cases h
      | trap v =>
          simp only [if_pos pos, Nat.add_assoc] at h ⊢
          generalize Machine.serve _ _ = served at h ⊢
          obtain ⟨waiting, m'⟩ := served
          cases waiting with
          | true => cases h
          | false => exact .inr rfl

/-! ### The loops end -/

/-- The outer loop ends a turn after the inner one, or at once when nothing is left. -/
theorem outer_ends {left : Nat} (hleft : executed + left = budget)
    (inside : EndsWithin clock budget turns (inner executed cycles 0 0 m)
      (m.runFrom clock executed cycles left)) :
    EndsWithin clock budget (turns + 1) (outer executed cycles m)
      (m.runFrom clock executed cycles left) := by
  refine .of_next ?_
  cases left with
  | zero =>
      rw [next, if_pos (by omega)]
      exact .mono (endsWithin_ofRun (m.runFrom clock executed cycles 0)) (Nat.zero_le turns)
  | succ left =>
      rw [next, if_neg (by omega)]
      exact inside

/-- From inside the inner loop, by induction on what is left of the budget. -/
theorem inner_ends (left : Nat) (hleft : executed + ran + left = budget) :
    EndsWithin clock budget (2 * left + 1) (inner executed cycles ran took m)
      (m.runFrom clock (executed + ran) (cycles + took) left) := by
  induction left generalizing executed cycles ran took m with
  | zero =>
      refine .of_next ?_
      rw [next, if_neg (by omega)]
      exact endsWithin_ofRun (m.runFrom clock (executed + ran) (cycles + took) 0)
  | succ left ih =>
      have room : ran < budget - executed := by omega
      cases h : (m.turn (clock.time (executed + ran + 1))).outcome with
      | some outcome =>
          refine .of_next (.mono ?_ (Nat.zero_le _))
          rw [next_inner_of_some room h, Machine.runFrom_of_some h, Machine.runFrom_of_some h]
          exact endsWithin_ofRun _
      | none =>
          rw [Machine.runFrom_of_none h]
          rcases next_inner_of_none cycles took room h with inside | outside
          · refine .of_next (.mono ?_ (by omega : 2 * left + 1 ≤ 2 * left + 2))
            rw [inside, Nat.add_assoc, Nat.add_assoc]
            exact ih (by omega)
          · refine .of_next ?_
            rw [outside, Nat.add_assoc, Nat.add_assoc]
            exact outer_ends (by omega) (ih (by omega))

/-- The two loops end, and as a run of the machine does. -/
theorem outer_endsWithin (clock : Clock) (budget : Nat) (m : Machine) :
    EndsWithin clock budget (2 * budget + 2) (outer 0 0 m) (m.runFrom clock 0 0 budget) :=
  outer_ends (Nat.zero_add budget) (inner_ends budget (by omega))

end BatchLoops

end BankedZ80
