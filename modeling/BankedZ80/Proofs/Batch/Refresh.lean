import BankedZ80.Proofs.Batch.Turn
import BankedZ80.Proofs.Cpu.Refresh

/-!
# Runs that spare the refresh register

The firmware does not look at the refresh register (`Hbios.call_withRefresh`), nor does any part of a
turn but a load of A from it. So a run in which no such load comes up is the same run whatever the
refresh register and the clock of the processor hold (`Machine.runFrom_sameButRefresh`).
-/

namespace BankedZ80

/-! ### Firmware calls -/

/-- A call with another refresh register. -/
def HbiosState.withRefresh (r : UInt8) (s : HbiosState) : HbiosState :=
  { s with core := s.core.withRefresh r }

namespace Hbios

variable (r : UInt8) (s : HbiosState)

theorem consoleCall_withRefresh (f : HbiosFunction) :
    consoleCall (s.withRefresh r) f = ((consoleCall s f).1.withRefresh r, (consoleCall s f).2) := by
  show (if !isConsole s.core.c then _ else _) = _
  unfold consoleCall
  dsimp only
  split
  · rfl
  · split
    · rw [show (s.withRefresh r).board = s.board from rfl]
      cases s.board.devices.uart.takeInput <;> rfl
    all_goals rfl

theorem transfer_withRefresh (write : Bool) :
    transfer (s.withRefresh r) write = ((transfer s write).1.withRefresh r, (transfer s write).2) :=
  rfl

theorem diskCall_withRefresh (f : HbiosFunction) :
    diskCall (s.withRefresh r) f = ((diskCall s f).1.withRefresh r, (diskCall s f).2) := by
  unfold diskCall
  rw [show (s.withRefresh r).board = s.board from rfl,
    show (s.withRefresh r).core.c = s.core.c from rfl]
  dsimp only
  cases s.board.devices.disks.unit s.core.c.toNat with
  | ok d => cases f <;> rfl
  | error e => cases f <;> rfl

theorem systemCall_withRefresh (f : HbiosFunction) :
    systemCall (s.withRefresh r) f = ((systemCall s f).1.withRefresh r, (systemCall s f).2) := by
  unfold systemCall
  rw [show (s.withRefresh r).board = s.board from rfl,
    show (s.withRefresh r).core.c = s.core.c from rfl]
  split
  · split
    · rfl
    · split <;> rfl
  · rfl
  · rfl
  · rfl
  · cases systemCount? s.board.devices.disks s.core.c <;> rfl

/-- **The firmware neither reads nor changes the refresh register.** -/
theorem call_withRefresh (now : UInt64) :
    call now (s.withRefresh r) = ((call now s).1.withRefresh r, (call now s).2) := by
  unfold call
  rw [show (s.withRefresh r).core.b = s.core.b from rfl]
  cases HbiosFunction.ofCode? s.core.b with
  | none => rfl
  | some f =>
      cases f with
      | charInput | charOutput | charInputStatus | charOutputStatus =>
          exact consoleCall_withRefresh r s _
      | diskRead => exact transfer_withRefresh r s false
      | diskWrite => exact transfer_withRefresh r s true
      | diskStatus | diskSeek | diskMedia | diskCapacity => exact diskCall_withRefresh r s _
      | clockRead => rfl
      | systemReset | systemVersion | systemSetBank | systemGetBank | systemGet =>
          exact systemCall_withRefresh r s _

end Hbios

/-! ### Runs -/

namespace Machine

/-- Two machines differ at most in the refresh register and the clock of the processor. -/
def SameButRefresh (m m' : Machine) : Prop := m.cpu.SameButRefresh m'.cpu ∧ m'.board = m.board

variable {m m' : Machine}

theorem serve_sameButRefresh (same : m.SameButRefresh m') (now : UInt64) :
    (m'.serve now).1 = (m.serve now).1 ∧ (m.serve now).2.SameButRefresh (m'.serve now).2 := by
  obtain ⟨⟨flavour, core, clock⟩, board⟩ := m
  obtain ⟨⟨flavour', core', clock'⟩, board'⟩ := m'
  obtain ⟨⟨same_flavour, r, same_core⟩, same_board⟩ := same
  dsimp only at same_flavour same_core same_board
  subst same_flavour same_core same_board
  have call := Hbios.call_withRefresh r ⟨core, board'⟩ now
  unfold serve
  dsimp only
  rw [show (⟨core.withRefresh r, board'⟩ : HbiosState) = HbiosState.withRefresh r ⟨core, board'⟩
    from rfl, call]
  generalize Hbios.call now ⟨core, board'⟩ = result
  obtain ⟨left, action⟩ := result
  cases action with
  | proceed => exact ⟨rfl, ⟨rfl, r, rfl⟩, rfl⟩
  | waitForInput => exact ⟨rfl, ⟨rfl, r, rfl⟩, rfl⟩
  | restart cold => exact ⟨rfl, .refl _, rfl⟩

/-- Is the next instruction of the machine a load of A from the refresh register? -/
def readsRefresh (m : Machine) : Bool := m.cpu.readsRefresh m.board

theorem turn_sameButRefresh (same : m.SameButRefresh m') (spares : m.readsRefresh = false)
    (now : UInt64) :
    (m'.turn now).cycles = (m.turn now).cycles ∧ (m'.turn now).outcome = (m.turn now).outcome ∧
      (m.turn now).machine.SameButRefresh (m'.turn now).machine := by
  obtain ⟨cpu, board⟩ := m
  obtain ⟨cpu', board'⟩ := m'
  obtain ⟨same_cpu, same_board⟩ := same
  dsimp only at same_cpu same_board
  subst same_board
  obtain ⟨report, left, stepped⟩ := Processor.step_sameButRefresh same_cpu spares
  unfold turn
  dsimp only at report left stepped ⊢
  generalize cpu.step board' = step at report left stepped ⊢
  generalize cpu'.step board' = step' at report left stepped ⊢
  obtain ⟨⟨cycles, event⟩, next, board⟩ := step
  obtain ⟨_, next', _⟩ := step'
  cases report
  cases left
  cases event with
  | none => exact ⟨rfl, rfl, stepped, rfl⟩
  | some event =>
      cases event with
      | halted => exact ⟨rfl, rfl, stepped, rfl⟩
      | trap v =>
          have machines : SameButRefresh ⟨next, board⟩ ⟨next', board⟩ := ⟨stepped, rfl⟩
          obtain ⟨waiting, served⟩ := serve_sameButRefresh machines now
          dsimp only at waiting served ⊢
          rw [waiting]
          exact ⟨rfl, rfl, served⟩

/-- No turn of a run loads A from the refresh register. -/
def sparesRefresh (clock : Clock) (executed : Nat) : Nat → Machine → Bool
  | 0, _ => true
  | budget + 1, m =>
    let turn := m.turn (clock.time (executed + 1))
    !m.readsRefresh &&
      (turn.outcome.isSome || turn.machine.sparesRefresh clock (executed + 1) budget)

/-- **A run that spares the refresh register** does not depend on it, nor on the processor's clock: it
reports the same and leaves the same machine but for these. By induction on the budget. -/
theorem runFrom_sameButRefresh (same : m.SameButRefresh m') {clock : Clock}
    {executed cycles budget : Nat} (spares : m.sparesRefresh clock executed budget = true) :
    (m'.runFrom clock executed cycles budget).1 = (m.runFrom clock executed cycles budget).1 ∧
      (m.runFrom clock executed cycles budget).2.SameButRefresh
        (m'.runFrom clock executed cycles budget).2 := by
  induction budget generalizing executed cycles m m' with
  | zero => exact ⟨rfl, same⟩
  | succ budget ih =>
      rw [sparesRefresh, Bool.and_eq_true, Bool.not_eq_true', Bool.or_eq_true] at spares
      obtain ⟨taken, outcome, left⟩ := turn_sameButRefresh same spares.1 (clock.time (executed + 1))
      cases ended : (m.turn (clock.time (executed + 1))).outcome with
      | some o =>
          rw [runFrom_of_some ended, runFrom_of_some (outcome.trans ended), taken]
          exact ⟨rfl, left⟩
      | none =>
          rw [runFrom_of_none ended, runFrom_of_none (outcome.trans ended), taken]
          exact ih left (spares.2.resolve_left (by simp [ended]))

end Machine

end BankedZ80
