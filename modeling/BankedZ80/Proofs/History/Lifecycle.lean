import BankedZ80.Proofs.Batch.Report
import BankedZ80.Proofs.Bundle.Install
import BankedZ80.Proofs.Cpu.Halting
import BankedZ80.Proofs.Hbios.Frame
import BankedZ80.Proofs.Safety.Engine

/-!
# Lifecycle and halted core

The lifecycle is kept by the engine, and whether the processor is halted by its core.

* `Machine.turn_halted_iff` and `runFrom_halted_iff`: a turn and a run leave the core halted exactly when
  they report it.
* `StageMove` lists what a step can do to lifecycle, halt and ROM, and `stage_after` is the inversion.
* `Staged` ties the three together. It holds of a new engine and is kept by every step
  (`Staged.after`, `Staged.foldl`); `MovesLifecycle` says which steps change the lifecycle, and to what.
-/

namespace BankedZ80

/-! ### Runs of the machine -/

namespace Hbios

/-- A firmware call halts nothing. -/
theorem halted_call (now : UInt64) (s : HbiosState) :
    (call now s).1.core.halted = s.core.halted := by
  rw [call_registers now s]
  rfl

end Hbios

namespace Machine

variable {m : Machine}

/-- Serving a firmware call leaves a running core running. -/
theorem running_of_serve (now : UInt64) (running : m.cpu.core.halted = false) :
    (m.serve now).2.cpu.core.halted = false := by
  have same := Hbios.halted_call now ⟨m.cpu.core, m.board⟩
  unfold serve
  generalize Hbios.call now ⟨m.cpu.core, m.board⟩ = r at same ⊢
  obtain ⟨s, action⟩ := r
  cases action with
  | proceed | waitForInput => exact same.trans running
  | restart cold => rfl

/-- **A turn** leaves the core halted exactly when it reports a halt. -/
theorem turn_halted_iff (m : Machine) (now : UInt64) :
    (m.turn now).machine.cpu.core.halted = true ↔ (m.turn now).outcome = some .halted := by
  have halt := m.cpu.halted_of_event m.board
  have plain := m.cpu.running_of_no_event m.board
  have called {v : UInt8} := m.cpu.running_of_trap (v := v) m.board
  unfold turn
  generalize m.cpu.step m.board = s at halt plain called ⊢
  obtain ⟨⟨cycles, event⟩, cpu, board⟩ := s
  cases event with
  | none => exact iff_of_false (Bool.eq_false_iff.1 (plain rfl)) nofun
  | some event =>
      cases event with
      | halted => exact iff_of_true (halt rfl) rfl
      | trap v =>
          have running := running_of_serve (m := ⟨cpu, board⟩) now (called rfl)
          dsimp only
          generalize Machine.serve now ⟨cpu, board⟩ = served at running ⊢
          obtain ⟨waiting, m'⟩ := served
          refine iff_of_false (Bool.eq_false_iff.1 running) ?_
          cases waiting <;> nofun

/-- **A run** of a core that was running leaves it halted exactly when it reports a halt. By induction on
the budget. -/
theorem runFrom_halted_iff (running : m.cpu.core.halted = false) (clock : Clock)
    (executed cycles budget : Nat) :
    (m.runFrom clock executed cycles budget).2.cpu.core.halted = true ↔
      (m.runFrom clock executed cycles budget).1.outcome = .halted := by
  induction budget generalizing executed cycles m with
  | zero => exact iff_of_false (Bool.eq_false_iff.1 running) nofun
  | succ budget ih =>
      have halts := m.turn_halted_iff (clock.time (executed + 1))
      cases h : (m.turn (clock.time (executed + 1))).outcome with
      | some outcome =>
          rw [h, Option.some.injEq] at halts
          rw [runFrom_of_some h]
          exact halts
      | none =>
          rw [h] at halts
          rw [runFrom_of_none h]
          exact ih (Bool.eq_false_iff.2 fun halted => nomatch halts.1 halted) _ _

end Machine

namespace Engine

/-! ### What a step can do -/

/-- The lifecycle, whether the core is halted, and the ROM. -/
def stage (e : Engine) : Lifecycle × Bool × ByteArray := (e.lifecycle, e.core.halted, e.memory.rom)

/-- What a step can make of the stage of an engine. -/
inductive StageMove (e : Engine) (s : Step) : Lifecycle × Bool × ByteArray → Prop where
  | stay : StageMove e s e.stage
  | rom {image : ByteArray} {e' : Engine} (step : s = .host (.loadRom image))
      (accepted : e.loadRom image = .ok e') (some_bytes : image.size ≠ 0) :
      StageMove e s (.romLoaded, e.core.halted, image)
  | init (step : s = .host .completeInit) (rom : e.lifecycle ≠ .created) :
      StageMove e s (.ready, false, e.memory.rom)
  | reset (step : s = .host .reset) :
      StageMove e s (if e.lifecycle = .halted then .ready else e.lifecycle, false, e.memory.rom)
  | batch {clock : Clock} {budget : Nat} (step : s = .host (.runFor clock budget))
      (ready : e.lifecycle = .ready) {halted : Bool}
      (halts : e.core.halted = false →
        (halted = true ↔ (e.runFor clock budget).1.report.outcome = .halted)) :
      StageMove e s
        (if (e.runFor clock budget).1.report.outcome = .halted then .halted else .ready, halted,
          e.memory.rom)

variable {e : Engine}

theorem stage_loadRom (image : ByteArray) :
    StageMove e (.host (.loadRom image)) (e.call (.loadRom image)).stage := by
  rw [call]
  cases loaded : e.loadRom image with
  | error error => exact .stay
  | ok e' =>
      obtain ⟨memory, accepted, h⟩ := bind_eq_ok.1 loaded
      obtain ⟨u, legal, changed⟩ := bind_eq_ok.1 accepted
      cases h
      cases changed
      exact .rom rfl loaded (Memory.checkRomSize_eq_ok.1 legal).1

theorem stage_completeInit :
    StageMove e (.host .completeInit) (e.call .completeInit).stage := by
  rw [call, completeInit]
  by_cases created : e.lifecycle = .created
  · rw [if_pos created]
    exact .stay
  · rw [if_neg created]
    exact .init rfl created

theorem stage_reset : StageMove e (.host .reset) (e.call .reset).stage := by
  have after : (e.call .reset).stage =
      (if e.lifecycle = .halted then .ready else e.lifecycle, false, e.memory.rom) := by
    have memory : e.powerOn.memory.rom = e.memory.rom := (Memory.SamePages.reset e.memory true).rom
    have lifecycle : e.powerOn.lifecycle = e.lifecycle := rfl
    rw [call, Engine.reset, ← memory, ← lifecycle]
    by_cases halted : e.powerOn.lifecycle = .halted
    · rw [if_pos halted, if_pos halted]
      rfl
    · rw [if_neg halted, if_neg halted]
      rfl
  rw [after]
  exact .reset rfl

theorem stage_runFor (clock : Clock) (budget : Nat) :
    StageMove e (.host (.runFor clock budget)) (e.call (.runFor clock budget)).stage := by
  rw [call]
  by_cases ready : e.lifecycle = .ready
  · have rom : (e.runFor clock budget).2.memory.rom = e.memory.rom := by
      rw [runFor_of_ready ready, endBatch_memory, Machine.runFrom_board]
      exact (e.machine.board.samePages_foldl _).rom
    have lifecycle : (e.runFor clock budget).2.lifecycle =
        if (e.runFor clock budget).1.report.outcome = .halted then .halted else .ready := by
      rw [runFor_of_ready ready, endBatch_lifecycle, endBatch_report]
    have halts (running : e.core.halted = false) :
        (e.runFor clock budget).2.core.halted = true ↔
          (e.runFor clock budget).1.report.outcome = .halted := by
      rw [runFor_of_ready ready, endBatch_core, endBatch_report]
      exact Machine.runFrom_halted_iff running clock 0 0 budget
    rw [stage, rom, lifecycle]
    exact .batch rfl ready halts
  · rw [runFor_of_not_ready ready]
    exact .stay

/-- What concerns none of the three leaves them. -/
theorem stage_orSame_map {s : Step} {α : Type} {r : Except MachineError α} {f : α → Engine}
    (same : ∀ a, (f a).stage = e.stage) : StageMove e s (e.orSame (r.map f)).stage := by
  cases r with
  | error error => exact .stay
  | ok a =>
      show StageMove e s (f a).stage
      rw [same]
      exact .stay

theorem stage_getD {s : Step} (r : Option HostFile) :
    StageMove e s ((r.map e.withHostFile).getD e).stage := by
  rw [e.part_getD_withHostFile stage fun _ => rfl]
  exact .stay

/-- **What a step can do** to lifecycle, halt and ROM. -/
theorem stage_after (s : Step) : StageMove e s (e.after s).stage := by
  cases s with
  | guest action =>
      have rom : (e.after (.guest action)).memory.rom = e.memory.rom :=
        (e.machine.board.samePages_after action).rom
      rw [stage, rom]
      exact .stay
  | writeSector n lba bytes => exact stage_orSame_map fun _ => rfl
  | host call =>
      cases call with
      | loadRom image => exact stage_loadRom image
      | completeInit => exact stage_completeInit
      | reset => exact stage_reset
      | runFor clock budget => exact stage_runFor clock budget
      | unloadDisk n =>
          rw [after, call, unloadDisk_map_snd]
          exact stage_orSame_map fun _ => rfl
      | loadDisk | setSliceCount | setManifest | setSilenced | setSetting =>
          exact stage_orSame_map fun _ => rfl
      | provideFile | cancelFile | acknowledgeFile => exact stage_getD _
      | _ => exact .stay

/-! ### What ties them together -/

/-- What the lifecycle says of the ROM and the core. -/
structure Staged (e : Engine) : Prop where
  created_iff : e.lifecycle = .created ↔ e.memory.hasRom = false
  running : e.lifecycle = .ready → e.core.halted = false
  halted : e.lifecycle = .halted → e.core.halted = true

/-- Which steps change the lifecycle, and to what. -/
structure MovesLifecycle (e : Engine) (s : Step) : Prop where
  to_ready : e.lifecycle ≠ .ready → (e.after s).lifecycle = .ready →
    (s = .host .completeInit ∧ e.memory.hasRom = true) ∨
      (s = .host .reset ∧ e.lifecycle = .halted)
  to_halted : e.lifecycle ≠ .halted → (e.after s).lifecycle = .halted →
    ∃ clock budget, s = .host (.runFor clock budget) ∧
      (e.runFor clock budget).1.report.outcome = .halted
  to_romLoaded : e.lifecycle ≠ .romLoaded → (e.after s).lifecycle = .romLoaded →
    ∃ image e', s = .host (.loadRom image) ∧ e.loadRom image = .ok e'
  not_to_created : e.lifecycle ≠ .created → (e.after s).lifecycle ≠ .created

theorem hasRom_eq_false_iff {m : Memory} : m.hasRom = false ↔ m.rom.size = 0 := by
  rw [Memory.hasRom, bne_eq_false_iff_eq]

/-- The stage alone decides. -/
theorem staged_of_stage {lifecycle : Lifecycle} {halted : Bool} {rom : ByteArray}
    (h : e.stage = (lifecycle, halted, rom)) (created_iff : lifecycle = .created ↔ rom.size = 0)
    (running : lifecycle = .ready → halted = false) (halts : lifecycle = .halted → halted = true) :
    Staged e := by
  cases h
  exact ⟨created_iff.trans hasRom_eq_false_iff.symm, running, halts⟩

theorem staged_of_new {config : Config} (built : new config = .ok e) : Staged e := by
  obtain ⟨_, -, h⟩ := bind_eq_ok.1 built
  obtain ⟨ports, -, h⟩ := bind_eq_ok.1 h
  cases h
  exact staged_of_stage rfl (iff_of_true rfl rfl) nofun nofun

namespace Staged

theorem rom_size_ne_zero (h : Staged e) (loaded : e.lifecycle ≠ .created) : e.memory.rom.size ≠ 0 :=
  fun empty => loaded (h.created_iff.2 (hasRom_eq_false_iff.2 empty))

theorem created_iff_size (h : Staged e) : e.lifecycle = .created ↔ e.memory.rom.size = 0 :=
  h.created_iff.trans hasRom_eq_false_iff

/-- **A step** keeps lifecycle, halt and ROM tied together. By cases on what it does. -/
theorem after (h : Staged e) (s : Step) : Staged (e.after s) := by
  have move := stage_after (e := e) s
  generalize left : (e.after s).stage = stage at move
  cases move with
  | stay => exact staged_of_stage left h.created_iff_size h.running h.halted
  | rom step accepted some_bytes =>
      exact staged_of_stage left (iff_of_false nofun some_bytes) nofun nofun
  | init step rom =>
      exact staged_of_stage left (iff_of_false nofun (h.rom_size_ne_zero rom)) (fun _ => rfl) nofun
  | reset step =>
      refine staged_of_stage left ?_ (fun _ => rfl) ?_
      · split
        · next halted =>
            have loaded : e.lifecycle ≠ .created := by
              rw [halted]
              nofun
            exact iff_of_false nofun (h.rom_size_ne_zero loaded)
        · exact h.created_iff_size
      · split
        · nofun
        · next other => exact fun halted => absurd halted other
  | batch step ready halts =>
      have running := halts (h.running ready)
      have loaded : e.lifecycle ≠ .created := by
        rw [ready]
        nofun
      refine staged_of_stage left ?_ ?_ ?_
      · refine iff_of_false ?_ (h.rom_size_ne_zero loaded)
        split <;> nofun
      · split
        · nofun
        · next other => exact fun _ => Bool.eq_false_iff.2 fun halted => other (running.1 halted)
      · split
        · next ended => exact fun _ => running.2 ended
        · nofun

/-- **Every history** keeps them tied. By induction on the steps. -/
theorem foldl (h : Staged e) (steps : List Step) : Staged (steps.foldl Engine.after e) := by
  induction steps generalizing e with
  | nil => exact h
  | cons s rest ih => exact ih (h.after s)

end Staged

/-- A step that leaves the lifecycle is none of those that change it. -/
theorem movesLifecycle_of_same {s : Step} (same : (e.after s).lifecycle = e.lifecycle) :
    MovesLifecycle e s := by
  refine ⟨?_, ?_, ?_, ?_⟩ <;> rw [same]
  · exact fun other ready => absurd ready other
  · exact fun other halted => absurd halted other
  · exact fun other loaded => absurd loaded other
  · exact id

/-- **The lifecycle changes** by certain steps alone. -/
theorem Staged.moves (h : Staged e) (s : Step) : MovesLifecycle e s := by
  have move := stage_after (e := e) s
  have lifecycle : (e.after s).lifecycle = (e.after s).stage.1 := rfl
  generalize (e.after s).stage = stage at move lifecycle
  cases move with
  | stay => exact movesLifecycle_of_same lifecycle
  | rom step accepted some_bytes =>
      have loaded : (e.after s).lifecycle = .romLoaded := lifecycle
      refine ⟨?_, ?_, ?_, ?_⟩ <;> rw [loaded]
      · nofun
      · nofun
      · exact fun _ _ => ⟨_, _, step, accepted⟩
      · nofun
  | init step rom =>
      have ready : (e.after s).lifecycle = .ready := lifecycle
      have hasRom : e.memory.hasRom = true := by
        rw [← Bool.not_eq_false, hasRom_eq_false_iff]
        exact h.rom_size_ne_zero rom
      refine ⟨?_, ?_, ?_, ?_⟩ <;> rw [ready]
      · exact fun _ _ => .inl ⟨step, hasRom⟩
      · nofun
      · nofun
      · nofun
  | reset step =>
      by_cases halted : e.lifecycle = .halted
      · have ready : (e.after s).lifecycle = .ready := lifecycle.trans (if_pos halted)
        refine ⟨?_, ?_, ?_, ?_⟩ <;> rw [ready]
        · exact fun _ _ => .inr ⟨step, halted⟩
        · nofun
        · nofun
        · nofun
      · exact movesLifecycle_of_same (lifecycle.trans (if_neg halted))
  | @batch clock budget step ready halted halts =>
      by_cases ended : (e.runFor clock budget).1.report.outcome = .halted
      · have halted : (e.after s).lifecycle = .halted := lifecycle.trans (if_pos ended)
        refine ⟨?_, ?_, ?_, ?_⟩ <;> rw [halted]
        · nofun
        · exact fun _ _ => ⟨clock, budget, step, ended⟩
        · nofun
        · nofun
      · have still : (e.after s).lifecycle = .ready := lifecycle.trans (if_neg ended)
        exact movesLifecycle_of_same (still.trans ready.symm)

/-- **Lifecycle invariant.** After any history the engine is new exactly if it has no ROM, ready only with
a running core and halted only with a halted one; and no further step changes the lifecycle in another way
than the setup, a reset, the end of a batch and a new ROM do. -/
theorem lifecycle_tied {config : Config} {e₀ : Engine} (built : new config = .ok e₀)
    (steps : List Step) :
    Staged (steps.foldl after e₀) ∧ ∀ s, MovesLifecycle (steps.foldl after e₀) s := by
  have staged := (staged_of_new built).foldl steps
  exact ⟨staged, staged.moves⟩

/-- A ROM page that starts with a halt. -/
def haltingRom : ByteArray := Bytes.put (Bytes.zeros pageSize) 0 0x76

/-- The setup is to be finished before there is a ROM, and then again; the guest halts on the last
instruction of its batch. -/
def setupAndHalt : List Step :=
  [.host .completeInit, .host (.loadRom haltingRom), .host .completeInit,
    .host (.runFor (Clock.still 0) 1)]

theorem setupAndHalt_tied :
    ∃ e₀, new { ramSize := 65536 } = .ok e₀ ∧ (setupAndHalt.foldl after e₀).lifecycle = .halted ∧
      Staged (setupAndHalt.foldl after e₀) ∧ ∀ s, MovesLifecycle (setupAndHalt.foldl after e₀) s := by
  have ends : (new { ramSize := 65536 }).toOption.any
      (fun e => (setupAndHalt.foldl after e).lifecycle = .halted) = true := by
    decide +kernel
  obtain ⟨e₀, built, halted⟩ := exists_of_toOption_any ends
  exact ⟨e₀, built, halted, lifecycle_tied built setupAndHalt⟩

end Engine

end BankedZ80
