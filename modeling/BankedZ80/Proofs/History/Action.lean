import BankedZ80.Engine

/-!
# What a guest does

Whatever program a guest runs, it acts on the board in one of two ways: an access of the processor, or a
firmware call with some registers. `Board.after` is the effect of a single action.

A run records its actions: `Machine.actionsFrom` lists them in order, and the run leaves the board as
they do, one after another (`Machine.runFrom_board`). So what every action keeps every run keeps,
whatever the guest.
-/

namespace BankedZ80

/-- An action of a guest on its board. -/
inductive GuestAction where
  | access (a : BusProgram.Access)
  /-- A firmware call with these registers, at this time. -/
  | firmware (now : UInt64) (core : Core)

namespace Board

/-- The board after a firmware call, and after the restart that it asked for. -/
def afterCall (b : Board) (now : UInt64) (core : Core) : Board :=
  let (s, action) := Hbios.call now { core, board := b }
  match action with
  | .restart cold => { s.board with memory := s.board.memory.reset cold }
  | _ => s.board

/-- The board after an action. -/
def after (b : Board) : GuestAction → Board
  | .access a => (bus.after { board := b } a).board
  | .firmware now core => b.afterCall now core

/-- A restart leaves the devices to the call that asked for it. -/
theorem afterCall_devices (b : Board) (now : UInt64) (core : Core) :
    (b.afterCall now core).devices = (Hbios.call now { core, board := b }).1.board.devices := by
  unfold afterCall
  generalize Hbios.call now { core, board := b } = r
  obtain ⟨s, action⟩ := r
  cases action <;> rfl

/-- What the accesses do to the board does not depend on what was written to the trap port. -/
theorem foldl_after_access (accesses : List BusProgram.Access) (s : BoardAccess) :
    (accesses.foldl bus.after s).board =
      (accesses.map GuestAction.access).foldl after s.board := by
  induction accesses generalizing s with
  | nil => rfl
  | cons a rest ih =>
      have first : (bus.after s a).board = after s.board (.access a) := by
        cases a <;> rfl
      rw [List.foldl_cons, List.map_cons, List.foldl_cons, ih, first]

end Board

/-! ### Recording -/

namespace Processor

/-- The actions of an instruction. -/
def actions (p : Processor) (board : Board) : List GuestAction :=
  if p.core.halted then []
  else ((p.core.step p.flavour).accesses Board.bus { board }).map .access

theorem step_board (p : Processor) (board : Board) :
    (p.step board).2.2 = (p.actions board).foldl Board.after board := by
  unfold step actions
  split
  · rfl
  · show ((p.core.step p.flavour).run Board.bus { board }).2.board = _
    rw [BusProgram.run_eq_foldl_accesses, Board.foldl_after_access]

end Processor

namespace Machine

/-- The actions of a turn: those of its instruction, then the firmware call that it makes. -/
def turnActions (now : UInt64) (m : Machine) : List GuestAction :=
  let (report, cpu, _) := m.cpu.step m.board
  m.cpu.actions m.board ++
    match report.event with
    | some (.trap _) => [.firmware now cpu.core]
    | _ => []

/-- The actions of a run. -/
def actionsFrom (clock : Clock) (executed : Nat) : Nat → Machine → List GuestAction
  | 0, _ => []
  | budget + 1, m =>
    let now := clock.time (executed + 1)
    let turn := m.turn now
    m.turnActions now ++
      match turn.outcome with
      | some _ => []
      | none =>
        turn.machine.actionsFrom clock (if turn.cycles = 0 then executed else executed + 1) budget

variable (m : Machine)

theorem serve_board (now : UInt64) : (m.serve now).2.board = m.board.afterCall now m.cpu.core := by
  unfold serve Board.afterCall
  generalize Hbios.call now { core := m.cpu.core, board := m.board } = r
  obtain ⟨s, action⟩ := r
  cases action <;> rfl

theorem turn_board (now : UInt64) :
    (m.turn now).machine.board = (m.turnActions now).foldl Board.after m.board := by
  have step := m.cpu.step_board m.board
  unfold turn turnActions
  generalize m.cpu.step m.board = s at step ⊢
  obtain ⟨⟨cycles, event⟩, cpu, board⟩ := s
  dsimp only at step ⊢
  rw [List.foldl_append, ← step]
  cases event with
  | none => rfl
  | some event =>
      cases event with
      | halted => rfl
      | trap v => exact serve_board ⟨cpu, board⟩ now

/-- **A run leaves the board as its actions do.** -/
theorem runFrom_board (clock : Clock) (executed cycles budget : Nat) :
    (m.runFrom clock executed cycles budget).2.board =
      (m.actionsFrom clock executed budget).foldl Board.after m.board := by
  induction budget generalizing executed cycles m with
  | zero => rfl
  | succ budget ih =>
      have turn := m.turn_board (clock.time (executed + 1))
      rw [runFrom, actionsFrom, List.foldl_append, ← turn]
      cases h : (m.turn (clock.time (executed + 1))).outcome with
      | some outcome => rfl
      | none => exact ih _ _ _

end Machine

end BankedZ80
