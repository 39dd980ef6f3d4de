import BankedZ80.Proofs.History.DriveLetters
import BankedZ80.Proofs.Safety.Batch

/-!
# No misuse crashes an engine

The checked programs of the steps of a history. What they rely on is `Engine.Sound`: whole pages of
memory, as much RAM as is configured, and well-formed units of the configured sector size. A new
engine is sound (`Engine.sound_of_new`), every step keeps it so (`Engine.Sound.after`), and a step of
a sound engine is carried out (`Engine.afterM_eq`). So no history crashes (`Engine.never_crashes`).

What a call of the host does to the console, the file transfer and the flags looks nothing up and
calculates nothing. The statistics, which count in 64 bits, are not among the checked sums.
-/

namespace BankedZ80

open Checked

/-! ### Building an engine -/

/-- Check a configuration, its ports last. -/
def Config.validateM (c : Config) : Checked Unit :=
  match c.fault? with
  | some fault => refusable (.error (.invalidConfig fault))
  | none => do
    let _ ← PortTable.ofLayoutM c.ports
    return ()

theorem Config.validateM_eq (c : Config) : c.validateM = refusable c.validate := by
  unfold validateM validate
  cases c.fault? with
  | some fault => rfl
  | none =>
      dsimp only
      rw [PortTable.ofLayoutM_eq]
      cases PortTable.ofLayout c.ports <;> rfl

/-! ### Actions of the guest -/

/-- The board after an action of the guest. -/
def Board.afterM (b : Board) : GuestAction → Checked Board
  | .access a => return (← busM.after { board := b } a).board
  | .firmware now core => do
    let (s, action) ← Hbios.callM now { core, board := b }
    match action with
    | .restart cold => return { s.board with memory := s.board.memory.reset cold }
    | _ => return s.board

theorem Board.afterM_eq {b : Board} (h : b.WellFormed) (a : GuestAction) :
    b.afterM a = .ok (b.after a) := by
  cases a with
  | access a =>
      rw [afterM, busM_computes.after_eq h]
      rfl
  | firmware now core =>
      rw [afterM, Hbios.callM_eq h, ok_bind, after, afterCall]
      generalize Hbios.call now { core, board := b } = r
      obtain ⟨s, action⟩ := r
      cases action <;> rfl

/-! ### Steps -/

/-- The budget of a batch is a number of 32 bits. -/
def Step.inRange : Step → Bool
  | .host (.runFor _ budget) => budget < 2 ^ 32
  | _ => true

namespace Engine

/-- Build an engine; a configuration that does not hold together is refused. Apart from the port
table its parts are new, and nothing is looked up in them. -/
def newM (config : Config) : Checked Engine := do
  config.validateM
  let _ ← PortTable.ofLayoutM config.ports
  refusable (new config)

/-- Run at most `budget` instructions under the host's clock. -/
def runForM (e : Engine) (clock : Clock) (budget : Nat) : Checked (BatchResult × Engine) := do
  if e.lifecycle ≠ .ready then return ({ report := ⟨0, 0, .notRunning⟩ }, e)
  else
    let (report, machine) ← (BatchLoops.outer 0 0 e.machine).runM clock budget (2 * budget + 2)
    return e.endBatch report machine

/-- The engine after a call that may be refused. -/
def orSameM (e : Engine) (call : Checked Engine) : Checked Engine := do
  match ← attempt call with
  | .ok e' => return e'
  | .error _ => return e

/-- The engine after a call of its host. -/
def callM (e : Engine) : HostCall → Checked Engine
  | .runFor clock budget => return (← e.runForM clock budget).2
  | .loadDisk n image => e.orSameM do return e.withDisks (← e.devices.disks.loadM n image)
  | .unloadDisk n => e.orSameM do return e.withDisks (← e.devices.disks.unloadM n).2
  | .setSliceCount n count =>
    e.orSameM do return e.withDisks (← e.devices.disks.setSliceCountM n count)
  | .setManifest n manifest =>
    e.orSameM do return e.withDisks (← e.devices.disks.setManifestM n manifest)
  | .setSilenced n silenced =>
    e.orSameM do return e.withDisks (← e.devices.disks.setSilencedM n silenced)
  | .clearDirty n => return e.withDisks (← e.devices.disks.clearDirtyM n)
  | .setSetting s => e.orSameM do return e.withNvram (← e.devices.nvram.setSettingM s)
  | call => return e.call call

/-- The engine after a step. -/
def afterM (e : Engine) : Step → Checked Engine
  | .host call => e.callM call
  | .guest action => do
    let board ← e.machine.board.afterM action
    return { e with machine := { e.machine with board } }
  | .writeSector n lba bytes =>
    e.orSameM do return e.withDisks (← e.devices.disks.writeSectorM n lba bytes)

/-! ### What is true of an engine at any time -/

/-- Well-formed memory and disks, as they are configured. -/
structure Sound (config : Config) (e : Engine) : Prop where
  board : e.machine.board.WellFormed
  ram_size : e.memory.ram.size = config.ramSize
  sectorSize : e.devices.disks.sectorSize = config.sectorSize

variable {config : Config} {e : Engine}

theorem newM_eq (config : Config) : newM config = refusable (new config) := by
  rw [newM, Config.validateM_eq, PortTable.ofLayoutM_eq, new]
  cases config.validate with
  | error e => rfl
  | ok u => cases PortTable.ofLayout config.ports <;> rfl

/-- **A new engine** is sound. -/
theorem sound_of_new (h : new config = .ok e) : e.Sound config := by
  obtain ⟨valid, memory, disks, -, -⟩ := fresh_of_new h
  obtain ⟨wellFormed, size⟩ :=
    Memory.wellFormed_new valid.ram_pages valid.two_pages_le_ram valid.ram_le
  rw [← memory] at wellFormed size
  exact ⟨⟨wellFormed, disks_wellFormed_of_new h⟩, size, by rw [disks]⟩

/-- A step leaves as many pages, or puts another ROM image of whole pages in place. -/
theorem memory_after (e : Engine) (s : Step) :
    Memory.SamePages e.memory (e.after s).memory ∨
      ∃ image limit, Memory.checkRomSize image.size limit = .ok () ∧
        (e.after s).memory = { e.memory with rom := image } := by
  cases s with
  | guest action => exact .inl (e.machine.board.samePages_after action)
  | writeSector n lba bytes =>
      refine .inl ?_
      rw [after]
      cases e.devices.disks.writeSector n lba bytes <;> exact .refl e.memory
  | host call =>
      show Memory.SamePages e.memory (e.call call).memory ∨
        ∃ image limit, _ ∧ (e.call call).memory = _
      have effect := e.call_effect call
      generalize e.call call = e' at effect ⊢
      cases effect with
      | @rom image ok => exact .inr ⟨image, e.config.maxRomSize, ok, rfl⟩
      | powerOn lifecycle => exact .inl (.reset e.memory true)
      | batch clock budget =>
          refine .inl ?_
          by_cases ready : e.lifecycle = .ready
          · rw [runFor_of_ready ready, endBatch_memory, Machine.runFrom_board]
            exact e.machine.board.samePages_foldl _
          · rw [runFor_of_not_ready ready]
            exact .refl e.memory
      | _ => exact .inl (.refl e.memory)

namespace Sound

/-- **A step** leaves a sound engine. -/
theorem after (h : e.Sound config) (s : Step) : (e.after s).Sound config := by
  have disks := e.evolves_after s
  have memory : (e.after s).memory.WellFormed ∧ (e.after s).memory.ram.size = config.ramSize := by
    rcases e.memory_after s with same | ⟨image, limit, legal, changed⟩
    · exact ⟨same.wellFormed h.board.memory, same.ram.trans h.ram_size⟩
    · rw [changed]
      exact ⟨h.board.memory.setRom legal, h.ram_size⟩
  exact ⟨⟨memory.1, h.board.disks.evolves disks⟩, memory.2, disks.sectorSize.trans h.sectorSize⟩

theorem foldl (h : e.Sound config) (steps : List Step) :
    (steps.foldl Engine.after e).Sound config := by
  induction steps generalizing e with
  | nil => exact h
  | cons s rest ih => exact ih (h.after s)

end Sound

/-! ### No step crashes -/

theorem orSameM_eq (e : Engine) (r : Except MachineError Engine) :
    e.orSameM (refusable r) = .ok (e.orSame r) := by
  rw [orSameM, attempt_refusable, ok_bind]
  cases r <;> rfl

/-- A call that changes a part of the engine, unless the part refuses it. -/
theorem orSameM_map {α : Type} (e : Engine) {part : Checked α} {r : Except MachineError α}
    (h : part = refusable r) (f : α → Engine) :
    e.orSameM (do return f (← part)) = .ok (e.orSame (r.map f)) := by
  rw [← orSameM_eq, h]
  cases r <;> rfl

theorem runForM_eq (h : e.machine.board.WellFormed) (clock : Clock) {budget : Nat}
    (small : budget < 2 ^ 32) : e.runForM clock budget = .ok (e.runFor clock budget) := by
  unfold runForM runFor
  split
  · rfl
  · have start : (BatchLoops.outer 0 0 e.machine).Within budget := ⟨Nat.zero_le budget, h⟩
    rw [BatchLoops.runM_eq small start (BatchLoops.outer_endsWithin clock budget e.machine)]
    rfl

theorem afterM_eq (h : e.machine.board.WellFormed) {s : Step} (inRange : s.inRange = true) :
    e.afterM s = .ok (e.after s) := by
  cases s with
  | guest action =>
      rw [afterM, Board.afterM_eq h]
      rfl
  | writeSector n lba bytes =>
      exact e.orSameM_map (DiskController.writeSectorM_eq h.disks n lba bytes) e.withDisks
  | host call =>
      cases call with
      | runFor clock budget =>
          rw [afterM, callM, runForM_eq h clock (of_decide_eq_true inRange)]
          rfl
      | loadDisk n image =>
          exact e.orSameM_map (DiskController.loadM_eq h.disks n image) e.withDisks
      | unloadDisk n =>
          rw [after, call, unloadDisk_map_snd]
          exact e.orSameM_map (DiskController.unloadM_eq n) _
      | setSliceCount n count =>
          exact e.orSameM_map (DiskController.setSliceCountM_eq n count) e.withDisks
      | setManifest n manifest =>
          exact e.orSameM_map (DiskController.setManifestM_eq n manifest) e.withDisks
      | setSilenced n silenced =>
          exact e.orSameM_map (DiskController.setSilencedM_eq n silenced) e.withDisks
      | clearDirty n =>
          rw [afterM, callM, DiskController.clearDirtyM_eq]
          rfl
      | setSetting s => exact e.orSameM_map (Nvram.setSettingM_eq _ s) e.withNvram
      | _ => rfl

/-- **No history crashes** a sound engine. By induction on the steps. -/
theorem foldlM_afterM_eq (h : e.Sound config) {steps : List Step}
    (inRange : ∀ s ∈ steps, s.inRange = true) : steps.foldlM afterM e = .ok (steps.foldl after e) := by
  induction steps generalizing e with
  | nil => rfl
  | cons s rest ih =>
      obtain ⟨first, others⟩ := List.forall_mem_cons.1 inRange
      rw [List.foldlM_cons, afterM_eq h.board first]
      exact ih (h.after s) others

/-! ### Questions of the host -/

/-- Whatever a host asks is answered, or refused. -/
structure Answers (e : Engine) : Prop where
  peek : ∀ address, e.memory.readM address = .ok (e.memory.read address)
  /-- Slice counts, flags and images are all asked of a unit. -/
  unit : ∀ n, e.devices.disks.unitM n = refusable (e.devices.disks.unit n)
  sector : ∀ n lba, e.devices.disks.readSectorM n lba = refusable (e.devices.disks.readSector n lba)
  sliceLba : ∀ n slice lba,
    e.devices.disks.sliceLbaM n slice lba = refusable (e.devices.disks.sliceLba n slice lba)
  driveMap : e.devices.disks.driveMapM = .ok e.devices.disks.driveMap
  setting : e.devices.nvram.settingM = .ok e.setting

theorem Sound.answers (h : e.Sound config) : e.Answers where
  peek := Memory.readM_eq h.board.memory
  unit _ := DiskController.unitM_eq
  sector := DiskController.readSectorM_eq h.board.disks
  sliceLba := DiskController.sliceLbaM_eq h.board.disks
  driveMap := DiskController.driveMapM_eq h.board.disks
  setting := e.devices.nvram.settingM_eq

/-- **No misuse crashes an engine.** It is built from every configuration that is accepted. Whatever
hosts and guests do to it then, every step is carried out, memory and disks stay as well-formed as
they were, and every question is answered. -/
theorem never_crashes (accepted : config.validate = .ok ()) :
    ∃ e, new config = .ok e ∧ newM config = .ok e ∧
      ∀ steps : List Step, (∀ s ∈ steps, s.inRange = true) →
        steps.foldlM afterM e = .ok (steps.foldl after e) ∧
          (steps.foldl after e).Sound config ∧ (steps.foldl after e).Answers := by
  obtain ⟨e, built⟩ := new_of_validate accepted
  refine ⟨e, built, by rw [newM_eq, built, refusable_ok], fun steps inRange => ?_⟩
  have start := sound_of_new built
  have stays := start.foldl steps
  exact ⟨foldlM_afterM_eq start inRange, stays, stays.answers⟩

/-- Slots and slices that do not exist, an image of half a sector, a transfer past the end of a disk,
and the longest batch there is. -/
def misuse : List Step :=
  [.host (.loadRom (Bytes.zeros pageSize)), .host (.loadDisk 2 (Bytes.zeros 1024)),
    .host (.loadDisk 3 (Bytes.zeros 256)), .host (.unloadDisk 99), .host (.setSliceCount 2 255),
    .host (.setSetting "99.200"), .host .completeInit,
    .guest (.firmware 0 { b := 0x14, c := 2, e := 255 }),
    .guest (.access (.output 0x97 2)), .writeSector 2 2 (Bytes.zeros 512),
    .host (.runFor (Clock.still 0) (2 ^ 32 - 1))]

theorem misuse_never_crashes :
    Config.validate {} = .ok () ∧ (∀ s ∈ misuse, s.inRange = true) ∧
      ∃ e, new {} = .ok e ∧ misuse.foldlM afterM e = .ok (misuse.foldl after e) ∧
        (misuse.foldl after e).Sound {} ∧ (misuse.foldl after e).Answers := by
  have accepted : Config.validate {} = .ok () := by decide +kernel
  have inRange : ∀ s ∈ misuse, s.inRange = true := by decide
  obtain ⟨e, built, -, safe⟩ := never_crashes accepted
  exact ⟨accepted, inRange, e, built, safe misuse inRange⟩

end Engine

end BankedZ80
