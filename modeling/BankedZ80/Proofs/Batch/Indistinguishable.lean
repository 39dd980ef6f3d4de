import BankedZ80.Engine

/-!
# Boards that the guest cannot tell apart

A relation between boards is one of indistinguishability when whatever the guest does on one board it
does on the other: every access of the processor is answered alike, every firmware call returns the
same, and the boards stay related. What single accesses and calls keep, whole runs keep
(`Machine.runFrom_alike`): same report, same processor, related boards.
-/

namespace BankedZ80

/-- The guest cannot tell related boards apart. -/
structure Board.Indistinguishable (R : Board → Board → Prop) : Prop where
  bus : Board.bus.Related Board.bus fun s t => s.trap = t.trap ∧ R s.board t.board
  /-- A firmware call asks for the same and leaves the same registers. -/
  call {board board' : Board} : R board board' → ∀ (now : UInt64) (core : Core),
    (Hbios.call now ⟨core, board⟩).2 = (Hbios.call now ⟨core, board'⟩).2 ∧
      (Hbios.call now ⟨core, board⟩).1.core = (Hbios.call now ⟨core, board'⟩).1.core ∧
      R (Hbios.call now ⟨core, board⟩).1.board (Hbios.call now ⟨core, board'⟩).1.board
  restart {board board' : Board} : R board board' → ∀ cold : Bool,
    R { board with memory := board.memory.reset cold }
      { board' with memory := board'.memory.reset cold }

/-- The same processor on related boards. -/
def Machine.Alike (R : Board → Board → Prop) (m m' : Machine) : Prop :=
  m.cpu = m'.cpu ∧ R m.board m'.board

variable {R : Board → Board → Prop}

theorem Processor.step_alike (hR : Board.Indistinguishable R) (p : Processor)
    {board board' : Board} (h : R board board') :
    (p.step board).1 = (p.step board').1 ∧
      Machine.Alike R ⟨(p.step board).2.1, (p.step board).2.2⟩
        ⟨(p.step board').2.1, (p.step board').2.2⟩ := by
  cases hc : p.core.halted with
  | true =>
      simp only [step, hc, if_pos]
      exact ⟨trivial, rfl, h⟩
  | false =>
      obtain ⟨same, trap, related⟩ := hR.bus.run (p.core.step p.flavour) (s := { board })
        (t := { board := board' }) ⟨rfl, h⟩
      simp only [step, hc, Bool.false_eq_true, if_false, same, trap]
      exact ⟨trivial, rfl, related⟩

namespace Machine

variable {m m' : Machine}

theorem serve_alike (hR : Board.Indistinguishable R) (h : Alike R m m') (now : UInt64) :
    (m.serve now).1 = (m'.serve now).1 ∧ Alike R (m.serve now).2 (m'.serve now).2 := by
  obtain ⟨⟨flavour, core, clock⟩, board⟩ := m
  obtain ⟨cpu', board'⟩ := m'
  obtain ⟨hcpu, hboard⟩ := h
  cases hcpu
  obtain ⟨action, core, related⟩ := hR.call hboard now core
  unfold serve
  dsimp only at action core related ⊢
  generalize Hbios.call now _ = r at action core related ⊢
  generalize Hbios.call now _ = r' at action core related ⊢
  obtain ⟨⟨c, b⟩, a⟩ := r
  obtain ⟨⟨c', b'⟩, a'⟩ := r'
  cases action
  cases core
  cases a with
  | proceed => exact ⟨rfl, rfl, related⟩
  | waitForInput => exact ⟨rfl, rfl, related⟩
  | restart cold => exact ⟨rfl, rfl, hR.restart related cold⟩

theorem turn_alike (hR : Board.Indistinguishable R) (h : Alike R m m') (now : UInt64) :
    (m.turn now).cycles = (m'.turn now).cycles ∧ (m.turn now).outcome = (m'.turn now).outcome ∧
      Alike R (m.turn now).machine (m'.turn now).machine := by
  obtain ⟨cpu, board⟩ := m
  obtain ⟨cpu', board'⟩ := m'
  obtain ⟨hcpu, hboard⟩ := h
  cases hcpu
  obtain ⟨report, alike⟩ := cpu.step_alike hR hboard
  unfold turn
  dsimp only at report alike ⊢
  generalize cpu.step board = s at report alike ⊢
  generalize cpu.step board' = s' at report alike ⊢
  obtain ⟨r, p, b⟩ := s
  obtain ⟨r', p', b'⟩ := s'
  cases report
  obtain ⟨cycles, event⟩ := r
  cases event with
  | none => exact ⟨rfl, rfl, alike⟩
  | some event =>
      cases event with
      | halted => exact ⟨rfl, rfl, alike⟩
      | trap v =>
          obtain ⟨waiting, served⟩ := serve_alike hR alike now
          dsimp only at waiting served ⊢
          rw [waiting]
          exact ⟨rfl, rfl, served⟩

/-- **Runs of machines that the guest cannot tell apart** report the same and leave such machines. -/
theorem runFrom_alike (hR : Board.Indistinguishable R) (h : Alike R m m') (clock : Clock)
    (executed cycles budget : Nat) :
    (m.runFrom clock executed cycles budget).1 = (m'.runFrom clock executed cycles budget).1 ∧
      Alike R (m.runFrom clock executed cycles budget).2
        (m'.runFrom clock executed cycles budget).2 := by
  induction budget generalizing executed cycles m m' with
  | zero => exact ⟨rfl, h⟩
  | succ budget ih =>
      obtain ⟨taken, outcome, alike⟩ := turn_alike hR h (clock.time (executed + 1))
      simp only [runFrom, taken, outcome]
      split
      · exact ⟨rfl, alike⟩
      · exact ih alike _ _

end Machine

end BankedZ80
