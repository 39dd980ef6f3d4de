import BankedZ80.Proofs.Batch.Loops
import BankedZ80.Proofs.Safety.Firmware

/-!
# Batches do not crash

Whatever a guest does, it leaves memory and disks well-formed (`Board.WellFormed.after`). So every
instruction and every firmware call is carried out, and the two loops of a batch count the
instructions without overflow: together they never count more than the budget
(`BatchLoops.Within`).
-/

namespace BankedZ80

open Checked
open Memory (SamePages)

/-! ### What guests leave -/

namespace DiskController

theorem samePages_command (c : DiskController) (command : UInt8) (m : Memory) :
    SamePages m (c.command command m).2 := by
  have run : SamePages m (c.runCommand command m).2 := by
    unfold runCommand
    split
    · exact .loadAt m c.address _
    · exact .refl m
    · exact .refl m
  unfold DiskController.command
  split
  · cases c.checkCommand command with
    | ok u => exact run
    | error e => exact .refl m
  · exact .refl m

theorem samePages_writeRegister (c : DiskController) (register v : UInt8) (m : Memory) :
    SamePages m (c.writeRegister register v m).2 := by
  unfold writeRegister
  split
  case h_8 => exact c.samePages_command v m
  all_goals exact .refl m

end DiskController

theorem Devices.samePages_output (d : Devices) (m : Memory) (port v : UInt8) :
    SamePages m (d.output m port v).1 := by
  unfold output
  split
  case h_2 => exact .selectBank m v
  case h_3 => exact d.disks.samePages_writeRegister _ v m
  all_goals exact .refl m

namespace Board

variable {b : Board}

theorem samePages_afterCall (b : Board) (now : UInt64) (core : Core) :
    SamePages b.memory (b.afterCall now core).memory := by
  have effect := Hbios.call_effect ⟨core, b⟩ now
  unfold afterCall
  generalize Hbios.call now ⟨core, b⟩ = r at effect ⊢
  cases effect with
  | move write => exact Hbios.Transfer.samePages_moveMany (.ofCall ⟨core, b⟩) write _ _
  | store core address bytes => exact .loadAt b.memory address bytes
  | selectBank core bank => exact .selectBank b.memory bank
  | restart cold => exact .reset b.memory cold
  | _ => exact .refl b.memory

/-- No action of the guest changes the number of pages. -/
theorem samePages_after (b : Board) (a : GuestAction) : SamePages b.memory (b.after a).memory := by
  cases a with
  | firmware now core => exact b.samePages_afterCall now core
  | access a =>
      cases a with
      | write address byte => exact .write b.memory address byte
      | input port => exact .refl b.memory
      | output port v => exact b.devices.samePages_output b.memory (lowByte port) v

theorem samePages_foldl (b : Board) (actions : List GuestAction) :
    SamePages b.memory (actions.foldl after b).memory := by
  induction actions generalizing b with
  | nil => exact .refl b.memory
  | cons a rest ih => exact (b.samePages_after a).trans (ih (b.after a))

/-- **An action of the guest** leaves memory and disks well-formed. -/
theorem WellFormed.after (h : b.WellFormed) (a : GuestAction) : (b.after a).WellFormed :=
  ⟨(b.samePages_after a).wellFormed h.memory, h.disks.evolves (b.evolves_after a)⟩

theorem WellFormed.foldl (h : b.WellFormed) (actions : List GuestAction) :
    (actions.foldl Board.after b).WellFormed :=
  ⟨(b.samePages_foldl actions).wellFormed h.memory, h.disks.evolves (b.evolves_foldl actions)⟩

/-! ### Instructions -/

/-- How the board answers the processor. -/
def busM : BusProgram.BusM BoardAccess where
  read address s := s.board.memory.readM address
  write address v s := do
    let memory ← s.board.memory.writeM address v
    return { s with board := { s.board with memory } }
  input port s := do
    let (v, devices) ← s.board.devices.inputM s.board.memory (lowByte port)
    return (v, { s with board := { s.board with devices } })
  output port v s := do
    let (memory, devices, trap) ← s.board.devices.outputM s.board.memory (lowByte port) v
    return { board := { memory, devices }, trap := trap.or s.trap }

theorem busM_computes : busM.Computes bus fun s => s.board.WellFormed where
  read h a := Memory.readM_eq h.memory a
  write h a v := by
    show (do let memory ← Memory.writeM _ a v; return _) = _
    rw [Memory.writeM_eq h.memory]
    rfl
  input h p := by
    show (do let r ← Devices.inputM _ _ (lowByte p); return _) = _
    rw [Devices.inputM_eq]
    rfl
  output h p v := by
    show (do let r ← Devices.outputM _ _ (lowByte p) v; return _) = _
    rw [Devices.outputM_eq h.disks h.memory]
    rfl
  kept {s} h a := by
    have after : (bus.after s a).board = s.board.after (.access a) := by cases a <;> rfl
    rw [after]
    exact h.after (.access a)

end Board

/-- Run one instruction. -/
def Processor.stepM (p : Processor) (board : Board) : Checked (StepReport × Processor × Board) :=
  if p.core.halted then return (⟨0, some .halted⟩, p, board)
  else do
    let (done, access) ← (p.core.step p.flavour).runM Board.busM { board }
    return (⟨done.cycles, eventOf done.core access.trap⟩,
      { p with core := done.core, clock := p.clock + Int32.ofNat done.cycles }, access.board)

theorem Processor.stepM_eq (p : Processor) {board : Board} (h : board.WellFormed) :
    p.stepM board = .ok (p.step board) := by
  unfold stepM step
  split
  · rfl
  · rw [BusProgram.runM_eq Board.busM_computes _ h]
    rfl

namespace Machine

variable {m : Machine}

/-- Serve a firmware call; true if the guest now waits for input. -/
def serveM (now : UInt64) (m : Machine) : Checked (Bool × Machine) := do
  let (s, action) ← Hbios.callM now { core := m.cpu.core, board := m.board }
  let served : Machine := { cpu := { m.cpu with core := s.core }, board := s.board }
  match action with
  | .proceed => return (false, served)
  | .waitForInput => return (true, served)
  | .restart cold => return (false, served.restart cold)

theorem serveM_eq (now : UInt64) (h : m.board.WellFormed) : m.serveM now = .ok (m.serve now) := by
  unfold serveM serve
  rw [Hbios.callM_eq h]
  generalize Hbios.call now { core := m.cpu.core, board := m.board } = r
  obtain ⟨s, action⟩ := r
  cases action <;> rfl

theorem wellFormed_step (h : m.board.WellFormed) : (m.cpu.step m.board).2.2.WellFormed := by
  rw [Processor.step_board]
  exact h.foldl _

theorem wellFormed_serve (now : UInt64) (h : m.board.WellFormed) :
    (m.serve now).2.board.WellFormed := by
  rw [serve_board]
  exact h.after (.firmware now m.cpu.core)

end Machine

/-! ### The two loops -/

namespace BatchLoops

/-- An instruction more, if the step took time. -/
def countM (cycles ran : Nat) : Checked Nat := if cycles > 0 then add 32 ran 1 else return ran

/-- One turn: a test, and the body behind it. -/
def nextM (clock : Clock) (budget : Nat) : BatchLoops → Checked BatchLoops
  | outer executed cycles m =>
    if executed ≥ budget then return finished ⟨executed, cycles, .budgetExhausted⟩ m
    else return inner executed cycles 0 0 m
  | inner executed cycles ran took m => do
    if ran < (← sub budget executed) then
      let (report, cpu, board) ← m.cpu.stepM m.board
      let m : Machine := { cpu, board }
      let ran ← countM report.cycles ran
      let took := took + report.cycles
      match report.event with
      | none => return inner executed cycles ran took m
      | some .halted => return finished ⟨← add 32 executed ran, cycles + took, .halted⟩ m
      | some (.trap _) =>
        let executed ← add 32 executed ran
        let (waiting, m) ← m.serveM (clock.time executed)
        if waiting then return finished ⟨executed, cycles + took, .waitingForInput⟩ m
        else return outer executed (cycles + took) m
    else return finished ⟨← add 32 executed ran, cycles + took, .budgetExhausted⟩ m
  | finished report m => return finished report m

/-- At most so many turns of the loops. -/
def runM (clock : Clock) (budget : Nat) : Nat → BatchLoops → Checked (BatchReport × Machine)
  | _, finished report m => return (report, m)
  | 0, _ => crash .endless
  | turns + 1, loops => do (← loops.nextM clock budget).runM clock budget turns

/-- The instructions that are counted stay within the budget, and the board is well-formed. -/
def Within (budget : Nat) : BatchLoops → Prop
  | outer executed _ m => executed ≤ budget ∧ m.board.WellFormed
  | inner executed _ ran _ m => executed + ran ≤ budget ∧ m.board.WellFormed
  | finished _ _ => True

variable {clock : Clock} {budget turns : Nat} {loops : BatchLoops}

/-- A turn of the inner loop counts an instruction more, or none. -/
theorem count_le {executed ran cycles : Nat} (within : executed + ran ≤ budget)
    (room : ran < budget - executed) :
    executed + (if cycles > 0 then ran + 1 else ran) ≤ budget := by
  split <;> omega

theorem countM_eq {executed ran cycles : Nat} (small : budget < 2 ^ 32)
    (within : executed + ran ≤ budget) (room : ran < budget - executed) :
    countM cycles ran = .ok (if cycles > 0 then ran + 1 else ran) := by
  unfold countM
  split
  · exact add_eq (by omega)
  · rfl

/-- A turn of the inner loop with room for an instruction: first the processor steps, then its event
decides. -/
theorem nextM_inner_eq (clock : Clock) (small : budget < 2 ^ 32) {executed ran : Nat}
    (cycles took : Nat) {m : Machine} (within : executed + ran ≤ budget)
    (board : m.board.WellFormed) (room : ran < budget - executed) :
    (inner executed cycles ran took m).nextM clock budget =
        .ok ((inner executed cycles ran took m).next clock budget) ∧
      ((inner executed cycles ran took m).next clock budget).Within budget := by
  have wellFormed := Machine.wellFormed_step board
  have count : executed + (if (m.cpu.step m.board).1.cycles > 0 then ran + 1 else ran) ≤ budget :=
    count_le within room
  rw [nextM, next, sub_eq (by omega), ok_bind, if_pos room, if_pos room, m.cpu.stepM_eq board,
    ok_bind]
  generalize m.cpu.step m.board = s at wellFormed count ⊢
  obtain ⟨⟨taken, event⟩, cpu, board'⟩ := s
  dsimp only at wellFormed count ⊢
  rw [countM_eq small within room, ok_bind]
  generalize (if taken > 0 then ran + 1 else ran) = ran' at count ⊢
  have total : add 32 executed ran' = .ok (executed + ran') := add_eq (by omega)
  cases event with
  | none => exact ⟨rfl, count, wellFormed⟩
  | some event =>
      cases event with
      | halted =>
          dsimp only
          rw [total]
          exact ⟨rfl, trivial⟩
      | trap v =>
          have served := Machine.wellFormed_serve (m := ⟨cpu, board'⟩)
            (clock.time (executed + ran')) wellFormed
          dsimp only
          rw [total, ok_bind, Machine.serveM_eq _ wellFormed, ok_bind]
          generalize Machine.serve _ _ = r at served ⊢
          obtain ⟨waiting, m'⟩ := r
          cases waiting with
          | true => exact ⟨rfl, trivial⟩
          | false => exact ⟨rfl, count, served⟩

/-- **A turn** does not crash, keeps the count within the budget and the board well-formed. -/
theorem nextM_eq (clock : Clock) (small : budget < 2 ^ 32) (h : loops.Within budget) :
    loops.nextM clock budget = .ok (loops.next clock budget) ∧
      (loops.next clock budget).Within budget := by
  cases loops with
  | outer executed cycles m =>
      rw [nextM, next]
      split
      · exact ⟨rfl, trivial⟩
      · exact ⟨rfl, h⟩
  | finished report m => exact ⟨rfl, trivial⟩
  | inner executed cycles ran took m =>
      obtain ⟨within, board⟩ := h
      by_cases room : ran < budget - executed
      · exact nextM_inner_eq clock small cycles took within board room
      · rw [nextM, next, sub_eq (by omega), ok_bind, if_neg room, if_neg room, add_eq (by omega)]
        exact ⟨rfl, trivial⟩

/-- Where the loops have ended they stay. -/
theorem iterate_next_finished (n : Nat) (r : BatchReport × Machine) :
    (next clock budget)^[n] (ofRun r) = ofRun r := Function.iterate_fixed rfl n

/-- Loops that have not ended take a turn, and go on from there. -/
theorem runM_succ (h : ∀ r, loops ≠ ofRun r) :
    loops.runM clock budget (turns + 1) =
      loops.nextM clock budget >>= fun next => next.runM clock budget turns := by
  cases loops with
  | finished report m => exact absurd rfl (h (report, m))
  | _ => rfl

theorem runM_ofRun (turns : Nat) (r : BatchReport × Machine) :
    (ofRun r).runM clock budget turns = .ok r := by
  cases turns <;> rfl

/-- **The loops do not crash.** When they end within so many turns, the checked loops end so, too. By
induction on the turns. -/
theorem runM_eq (small : budget < 2 ^ 32) (h : loops.Within budget) {r : BatchReport × Machine}
    (ends : EndsWithin clock budget turns loops r) : loops.runM clock budget turns = .ok r := by
  obtain ⟨n, le, eq⟩ := ends
  induction turns generalizing loops n with
  | zero =>
      have none : n = 0 := by omega
      rw [none, Function.iterate_zero, id] at eq
      rw [eq]
      exact runM_ofRun 0 r
  | succ turns ih =>
      by_cases ended : ∃ r', loops = ofRun r'
      · obtain ⟨r', rfl⟩ := ended
        rw [iterate_next_finished] at eq
        rw [eq]
        exact runM_ofRun (turns + 1) r
      · have goes_on (r' : BatchReport × Machine) : loops ≠ ofRun r' := fun same =>
          ended ⟨r', same⟩
        cases n with
        | zero => exact absurd eq (goes_on r)
        | succ n =>
            obtain ⟨turn, within⟩ := nextM_eq clock small h
            rw [Function.iterate_succ_apply] at eq
            rw [runM_succ goes_on, turn, ok_bind]
            exact ih within n (Nat.le_of_succ_le_succ le) eq

end BatchLoops

end BankedZ80
