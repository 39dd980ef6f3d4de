import BankedZ80.Proofs.Console.Input
import BankedZ80.Proofs.History.Confinement
import BankedZ80.Proofs.History.Lifecycle

/-!
# A reset restarts the machine and keeps the media

* `Fixed` is what never changes after an engine is built: its configuration, and the parts that were made
  by it. It holds after any history (`Fixed.foldl`).
* `Kept` is what a reset keeps, and `firstState` the engine that is brought to its first state with it.
  `powerOn_eq` says that a reset leaves nothing else.
* So a reset restarts every part of the machine (`Restarted`), two engines with the same kept parts cannot
  be told apart after it, and a second reset changes nothing.
-/

namespace BankedZ80

/-! ### Silicon variant -/

theorem Processor.flavour_step (p : Processor) (board : Board) :
    (p.step board).2.1.flavour = p.flavour := by
  unfold step
  split <;> rfl

namespace Machine

variable (m : Machine)

theorem flavour_serve (now : UInt64) : (m.serve now).2.cpu.flavour = m.cpu.flavour := by
  unfold serve
  generalize Hbios.call now ⟨m.cpu.core, m.board⟩ = r
  obtain ⟨s, action⟩ := r
  cases action <;> rfl

theorem flavour_turn (now : UInt64) : (m.turn now).machine.cpu.flavour = m.cpu.flavour := by
  have same := m.cpu.flavour_step m.board
  unfold turn
  generalize m.cpu.step m.board = s at same ⊢
  obtain ⟨⟨cycles, event⟩, cpu, board⟩ := s
  cases event with
  | none => exact same
  | some event =>
      cases event with
      | halted => exact same
      | trap v => exact (flavour_serve ⟨cpu, board⟩ now).trans same

theorem flavour_runFrom (clock : Clock) (executed cycles budget : Nat) :
    (m.runFrom clock executed cycles budget).2.cpu.flavour = m.cpu.flavour := by
  induction budget generalizing executed cycles m with
  | zero => rfl
  | succ budget ih =>
      have first := m.flavour_turn (clock.time (executed + 1))
      cases h : (m.turn (clock.time (executed + 1))).outcome with
      | some outcome =>
          rw [runFrom_of_some h]
          exact first
      | none =>
          rw [runFrom_of_none h]
          exact (ih _ _ _).trans first

end Machine

namespace Engine

variable {config : Config} {e e' : Engine}

/-! ### What never changes -/

/-- What is fixed when an engine is built from a configuration. -/
structure Fixed (config : Config) (e : Engine) : Prop where
  configured : e.config = config
  flavour : e.machine.cpu.flavour = config.flavour
  ports : PortTable.ofLayout config.ports = .ok e.devices.ports
  settings : e.devices.uart.settings = (config.lfToCr, config.stripHighBit)
  choices : e.devices.disks.choices = (config.sectorSize, config.sectorsPerSlice, config.autoSlices)
  sound : e.Sound config

theorem fixed_of_new (built : new config = .ok e) : Fixed config e := by
  have sound := sound_of_new built
  obtain ⟨_, -, h⟩ := bind_eq_ok.1 built
  obtain ⟨ports, made, h⟩ := bind_eq_ok.1 h
  cases h
  exact ⟨rfl, rfl, made, rfl, rfl, sound⟩

/-- No step changes the silicon variant or the port table. -/
theorem hardware_after (e : Engine) (s : Step) :
    (e.after s).machine.cpu.flavour = e.machine.cpu.flavour ∧
      (e.after s).devices.ports = e.devices.ports := by
  cases s with
  | guest action => exact ⟨rfl, e.machine.board.ports_after action⟩
  | writeSector n lba bytes =>
      rw [after]
      cases e.devices.disks.writeSector n lba bytes <;> exact ⟨rfl, rfl⟩
  | host call =>
      show (e.call call).machine.cpu.flavour = _ ∧ (e.call call).devices.ports = _
      have effect := e.call_effect call
      generalize e.call call = e' at effect ⊢
      cases effect with
      | batch clock budget =>
          by_cases ready : e.lifecycle = .ready
          · rw [runFor_of_ready ready, endBatch_cpu, endBatch_devices]
            refine ⟨e.machine.flavour_runFrom clock 0 0 budget, ?_⟩
            rw [Machine.runFrom_board]
            exact (e.machine.board.framed_foldl _).ports
          · rw [runFor_of_not_ready ready]
            exact ⟨rfl, rfl⟩
      | _ => exact ⟨rfl, rfl⟩

theorem Fixed.after (h : Fixed config e) (s : Step) : Fixed config (e.after s) where
  configured := (e.config_after s).trans h.configured
  flavour := (e.hardware_after s).1.trans h.flavour
  ports := by
    rw [(e.hardware_after s).2]
    exact h.ports
  settings := (e.inputAccounted_after s).settings.trans h.settings
  choices := (e.evolves_after s).choices.trans h.choices
  sound := h.sound.after s

/-- **Every history** leaves it. By induction on the steps. -/
theorem Fixed.foldl (h : Fixed config e) (steps : List Step) :
    Fixed config (steps.foldl Engine.after e) := by
  induction steps generalizing e with
  | nil => exact h
  | cons s rest ih => exact ih (h.after s)

end Engine

/-! ### What a reset keeps -/

/-- What is in a slot, the seek position aside. -/
structure Medium where
  image : ByteArray
  slices : UInt8
  manifest : Bool
  dirty : Bool
deriving DecidableEq

/-- The medium in a unit. -/
def DiskUnit.medium (d : DiskUnit) : Medium := ⟨d.image, d.slices, d.manifest, d.dirty⟩

/-- A unit at the start of this medium. -/
def Medium.atStart (sectorSize : Nat) (m : Medium) : DiskUnit where
  image := m.image
  sectorSize
  slices := m.slices
  manifest := m.manifest
  dirty := m.dirty

/-- The parts of an engine that a reset keeps. -/
@[ext] structure Kept where
  config : Config
  hasSink : Bool
  rom : ByteArray
  media : Vector (Option Medium) maxUnits
  silenced : Vector Bool maxUnits
  pendingWarning : Option Nat
  record : Vector UInt8 5
  recordChanged : Bool
deriving DecidableEq

namespace Engine

variable {config : Config} {e e' : Engine}

/-- What a reset of this engine keeps. -/
def kept (e : Engine) : Kept where
  config := e.config
  hasSink := e.hasSink
  rom := e.memory.rom
  media := e.devices.disks.units.map (Option.map DiskUnit.medium)
  silenced := e.devices.disks.silenced
  pendingWarning := e.devices.disks.pendingWarning
  record := e.devices.nvram.bytes
  recordChanged := e.devices.nvram.changed

/-- The first state of an engine with these parts; every other part is new. -/
def firstState (k : Kept) (ports : PortTable) (latch : UInt8) (lifecycle : Lifecycle) : Engine where
  config := k.config
  machine :=
    { cpu := { flavour := k.config.flavour }
      board :=
        { memory := { rom := k.rom, ram := Bytes.zeros k.config.ramSize }
          devices :=
            { ports
              uart := { lfToCr := k.config.lfToCr, stripHighBit := k.config.stripHighBit }
              disks :=
                { units := k.media.map (Option.map (Medium.atStart k.config.sectorSize))
                  silenced := k.silenced
                  pendingWarning := k.pendingWarning
                  sectorSize := k.config.sectorSize
                  sectorsPerSlice := k.config.sectorsPerSlice
                  autoSlices := k.config.autoSlices }
              nvram := { bytes := k.record, changed := k.recordChanged, latch } } } }
  lifecycle
  hasSink := k.hasSink

/-- At the start of its image a unit is made of its medium alone. -/
theorem units_resetRegisters (h : Fixed config e) :
    e.devices.disks.resetRegisters.units =
      e.kept.media.map (Option.map (Medium.atStart e.config.sectorSize)) := by
  ext i hi : 1
  show (e.devices.disks.units.map _)[i] = ((e.devices.disks.units.map _).map _)[i]
  rw [Vector.getElem_map, Vector.getElem_map, Vector.getElem_map]
  cases slot : e.devices.disks.units[i] with
  | none => rfl
  | some d =>
      have there : e.devices.disks.unit? i = some d := by
        rw [DiskController.unit?, Vector.getElem?_eq_getElem hi, slot, Option.join_some]
      have ofDisks : d.sectorSize = e.devices.disks.sectorSize :=
        (h.sound.board.disks.units i d there).sectorSize_eq
      have size : d.sectorSize = e.config.sectorSize := by
        rw [ofDisks, h.sound.sectorSize, h.configured]
      rw [Option.map_some, Option.map_some, Option.map_some, ← size]
      rfl

/-- **Nothing else is left** when the machine is brought to its first state. -/
theorem powerOn_eq (h : Fixed config e) :
    e.powerOn = firstState e.kept e.devices.ports e.devices.nvram.latch e.lifecycle := by
  have cpu : e.machine.cpu.reset = { flavour := e.config.flavour } := by
    rw [Processor.reset, h.flavour, h.configured]
  have memory : e.memory.reset true =
      { rom := e.memory.rom, ram := Bytes.zeros e.config.ramSize } := by
    rw [Memory.reset, if_pos rfl, h.sound.ram_size, h.configured]
  have uart : e.devices.uart.reset =
      { lfToCr := e.config.lfToCr, stripHighBit := e.config.stripHighBit } := by
    rw [h.configured]
    obtain ⟨lfToCr, stripHighBit⟩ := Prod.mk.inj h.settings
    rw [Uart.reset, lfToCr, stripHighBit]
  have disks : e.devices.disks.resetRegisters =
      { units := e.devices.disks.resetRegisters.units
        silenced := e.devices.disks.silenced
        pendingWarning := e.devices.disks.pendingWarning
        sectorSize := e.config.sectorSize
        sectorsPerSlice := e.config.sectorsPerSlice
        autoSlices := e.config.autoSlices } := by
    rw [h.configured]
    obtain ⟨sectorSize, rest⟩ := Prod.mk.inj h.choices
    obtain ⟨sectorsPerSlice, autoSlices⟩ := Prod.mk.inj rest
    rw [← sectorSize, ← sectorsPerSlice, ← autoSlices]
    rfl
  rw [units_resetRegisters h] at disks
  rw [powerOn, cpu, memory, uart, disks]
  rfl

/-- The lifecycle after a reset. -/
def lifecycleAfterReset : Lifecycle → Lifecycle
  | .halted => .ready
  | lifecycle => lifecycle

theorem reset_eq (h : Fixed config e) :
    e.reset =
      firstState e.kept e.devices.ports e.devices.nvram.latch (lifecycleAfterReset e.lifecycle) := by
  rw [reset, powerOn_eq h]
  show (if e.lifecycle = .halted then _ else _) = _
  cases e.lifecycle <;> rfl

/-- With a ROM the setup can be finished at any time, and then does the same. -/
theorem completeInit_eq (h : Fixed config e) (loaded : e.lifecycle ≠ .created) :
    e.completeInit =
      .ok (firstState e.kept e.devices.ports e.devices.nvram.latch .ready) := by
  rw [completeInit, if_neg loaded, powerOn_eq h]
  rfl

@[simp] theorem kept_firstState (k : Kept) (ports : PortTable) (latch : UInt8)
    (lifecycle : Lifecycle) : (firstState k ports latch lifecycle).kept = k := by
  have media : (k.media.map (Option.map (Medium.atStart k.config.sectorSize))).map
      (Option.map DiskUnit.medium) = k.media := by
    ext i hi : 1
    rw [Vector.getElem_map, Vector.getElem_map, Option.map_map]
    exact congrFun Option.map_id _
  exact congrArg (fun media => { k with media }) media

theorem seek_firstState (k : Kept) (ports : PortTable) (latch : UInt8) (lifecycle : Lifecycle)
    {n : Nat} {d : DiskUnit}
    (there : (firstState k ports latch lifecycle).devices.disks.unit? n = some d) : d.seek = 0 := by
  rw [DiskController.unit?, Option.join_eq_some_iff] at there
  change (k.media.map _)[n]? = _ at there
  rw [Vector.getElem?_map, Option.map_eq_some_iff] at there
  obtain ⟨slot, -, filled⟩ := there
  obtain ⟨m, -, rfl⟩ := Option.map_eq_some_iff.1 filled
  rfl

/-! ### What a reset does -/

/-- A machine that starts anew, with what it keeps of another. -/
structure Restarted (e e' : Engine) : Prop where
  pc : e'.core.pc = 0
  sp : e'.core.sp = 0
  interrupts : e'.core.iff1 = false ∧ e'.core.iff2 = false
  running : e'.core.halted = false
  /-- No index byte waits for its instruction. -/
  index : e'.core.index = .hl
  clock : e'.machine.cpu.clock = 0
  stats : e'.stats = {}
  bank : e'.memory.bank = 0
  ram : e'.memory.ram = Bytes.zeros e.config.ramSize
  uart : e'.devices.uart = { lfToCr := e.config.lfToCr, stripHighBit := e.config.stripHighBit }
  hostFile : e'.devices.hostFile = {}
  registers : e'.devices.disks.selected = 0 ∧ e'.devices.disks.lba = 0 ∧
    e'.devices.disks.address = 0 ∧ e'.devices.disks.status = 0
  seek (n : Nat) (d : DiskUnit) : e'.devices.disks.unit? n = some d → d.seek = 0
  kept : e'.kept = e.kept
  latch : e'.devices.nvram.latch = e.devices.nvram.latch

theorem restarted_firstState (e : Engine) (ports : PortTable) (lifecycle : Lifecycle) :
    Restarted e (firstState e.kept ports e.devices.nvram.latch lifecycle) where
  pc := rfl
  sp := rfl
  interrupts := ⟨rfl, rfl⟩
  running := rfl
  index := rfl
  clock := rfl
  stats := rfl
  bank := rfl
  ram := rfl
  uart := rfl
  hostFile := rfl
  registers := ⟨rfl, rfl, rfl, rfl⟩
  seek _ _ there := seek_firstState e.kept ports e.devices.nvram.latch lifecycle there
  kept := kept_firstState e.kept ports e.devices.nvram.latch lifecycle
  latch := rfl

/-- A second reset changes nothing. -/
theorem reset_reset (h : Fixed config e) : e.reset.reset = e.reset := by
  have again : e.reset.reset = _ := reset_eq (h.after (.host .reset))
  have kept : e.reset.kept = e.kept := by
    rw [reset_eq h, kept_firstState]
  have ports : e.reset.devices.ports = e.devices.ports := by
    rw [reset_eq h]
    rfl
  have latch : e.reset.devices.nvram.latch = e.devices.nvram.latch := by
    rw [reset_eq h]
    rfl
  have lifecycle : lifecycleAfterReset e.reset.lifecycle = lifecycleAfterReset e.lifecycle := by
    rw [reset_eq h]
    show lifecycleAfterReset (lifecycleAfterReset e.lifecycle) = _
    cases e.lifecycle <;> rfl
  calc e.reset.reset
      = firstState e.reset.kept e.reset.devices.ports e.reset.devices.nvram.latch
          (lifecycleAfterReset e.reset.lifecycle) := again
    _ = e.reset := by rw [kept, ports, latch, lifecycle, ← reset_eq h]

/-- Two engines that agree on the kept parts, the lifecycle and the latch of the boot record are the same
after a reset. -/
theorem reset_eq_reset {config' : Config} (h : Fixed config e) (h' : Fixed config' e')
    (kept : e'.kept = e.kept) (lifecycle : e'.lifecycle = e.lifecycle)
    (latch : e'.devices.nvram.latch = e.devices.nvram.latch) : e'.reset = e.reset := by
  have configured : config' = config := by
    rw [← h.configured, ← h'.configured]
    exact congrArg Kept.config kept
  have ports : e'.devices.ports = e.devices.ports := by
    have made := h'.ports
    rw [configured, h.ports] at made
    exact (Except.ok.inj made).symm
  rw [reset_eq h, reset_eq h', kept, ports, latch, lifecycle]

/-- **A reset restarts the machine and keeps the media**, after any history, and so does the end of the
setup where there is a ROM. A second reset changes nothing, and no trace is left of what two engines have
gone through that agree on the kept parts, the lifecycle and the latch of the boot record: whatever was in
their registers, they are the same. -/
theorem reset_keeps_media {e₀ : Engine} (built : new config = .ok e₀) (steps : List Step) :
    let e := steps.foldl after e₀
    Restarted e e.reset ∧
      (e.memory.hasRom = true →
        ∃ e', e.completeInit = .ok e' ∧ e'.lifecycle = .ready ∧ Restarted e e') ∧
      e.reset.reset = e.reset ∧
      ∀ (config' : Config) (e₀' : Engine) (steps' : List Step), new config' = .ok e₀' →
        let e' := steps'.foldl after e₀'
        e'.kept = e.kept → e'.lifecycle = e.lifecycle →
          e'.devices.nvram.latch = e.devices.nvram.latch → e'.reset = e.reset := by
  intro e
  have fixed : Fixed config e := (fixed_of_new built).foldl steps
  have staged : Staged e := (staged_of_new built).foldl steps
  refine ⟨?_, fun hasRom => ?_, reset_reset fixed, ?_⟩
  · rw [reset_eq fixed]
    exact restarted_firstState e _ _
  · have loaded : e.lifecycle ≠ .created := fun created =>
      absurd (staged.created_iff.1 created) (by rw [hasRom]; nofun)
    exact ⟨_, completeInit_eq fixed loaded, rfl, restarted_firstState e _ _⟩
  · intro config' e₀' steps' built' e' kept lifecycle latch
    exact reset_eq_reset fixed ((fixed_of_new built').foldl steps') kept lifecycle latch

/-- A ROM, a disk in slot 2, and the setup done. -/
def oneDisk : List Step :=
  [.host (.loadRom haltingRom), .host (.loadDisk 2 (Bytes.zeros 128)), .host .completeInit]

/-- The guest moves to sector 1 of the disk, opens the divisor, selects a bank, stores a byte and types
the first letter of a file name. -/
def guestAtWork : List GuestAction :=
  [.firmware 0 { b := 0x12, c := 2, l := 1 }, .access (.output 0x6B 0x80),
    .access (.output 0x78 0x81), .access (.write 0x9000 0x55), .access (.output 0xB1 0x41)]

def oneDiskInUse : List Step := oneDisk ++ guestAtWork.map .guest

theorem rom_guests (e : Engine) (actions : List GuestAction) :
    ((actions.map Step.guest).foldl after e).memory.rom = e.memory.rom := by
  induction actions generalizing e with
  | nil => rfl
  | cons a rest ih => exact (ih _).trans (e.machine.board.samePages_after a).rom

/-- The ROM is compared apart: a page of it is too much to compare by evaluation. -/
theorem kept_eq_of_rom (rom : e'.memory.rom = e.memory.rom)
    (others : { e'.kept with rom := .empty } = { e.kept with rom := .empty }) : e'.kept = e.kept := by
  obtain ⟨config, hasSink, -, media, silenced, warning, record, changed⟩ := Kept.mk.inj others
  exact Kept.ext config hasSink rom media silenced warning record changed

theorem oneDiskInUse_restarted :
    ∃ e₀, new { ramSize := 65536, sectorSize := 128 } = .ok e₀ ∧
      (oneDiskInUse.foldl after e₀).devices.disks.seek 2 = 1 ∧
      Restarted (oneDiskInUse.foldl after e₀) (oneDiskInUse.foldl after e₀).reset ∧
      (oneDiskInUse.foldl after e₀).reset = (oneDisk.foldl after e₀).reset := by
  have accepted : Config.validate { ramSize := 65536, sectorSize := 128 } = .ok () := by rfl
  have agree : ∀ e₀ ∈ (new { ramSize := 65536, sectorSize := 128 }).toOption,
      (oneDiskInUse.foldl after e₀).devices.disks.seek 2 = 1 ∧
        { (oneDiskInUse.foldl after e₀).kept with rom := .empty } =
          { (oneDisk.foldl after e₀).kept with rom := .empty } ∧
        (oneDiskInUse.foldl after e₀).lifecycle = (oneDisk.foldl after e₀).lifecycle ∧
        (oneDiskInUse.foldl after e₀).devices.nvram.latch =
          (oneDisk.foldl after e₀).devices.nvram.latch := by
    decide +kernel
  obtain ⟨e₀, built⟩ := new_of_validate accepted
  obtain ⟨seek, others, lifecycle, latch⟩ := agree e₀ (by rw [built]; rfl)
  have rom : (oneDiskInUse.foldl after e₀).memory.rom = (oneDisk.foldl after e₀).memory.rom := by
    rw [oneDiskInUse, List.foldl_append]
    exact rom_guests _ guestAtWork
  have kept := kept_eq_of_rom rom others
  obtain ⟨restarted, -, -, -⟩ := reset_keeps_media built oneDiskInUse
  obtain ⟨-, -, -, same⟩ := reset_keeps_media built oneDisk
  exact ⟨e₀, built, seek, restarted, same _ e₀ oneDiskInUse built kept lifecycle latch⟩

end Engine

end BankedZ80
