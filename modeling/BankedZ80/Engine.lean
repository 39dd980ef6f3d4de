import BankedZ80.Config
import BankedZ80.Hbios.Call
import BankedZ80.Host.Clock

/-!
# The engine

An `Engine` is a whole machine with its configuration and its place in the setup sequence: build it,
load a ROM, load disks, complete the setup, then run batches.

* `Engine.runFor` runs a batch of at most so many instructions. It serves firmware calls in between
  and ends early when the guest waits for input or halts the processor.
* Everything else is a call of the host. A call that is refused changes nothing.
-/

namespace BankedZ80

/-- Where an engine is in its setup sequence. -/
inductive Lifecycle where
  /-- No ROM yet. -/
  | created
  /-- A ROM is there, and the setup has not been completed since. -/
  | romLoaded
  /-- Batches run. -/
  | ready
  /-- The guest has halted the processor. -/
  | halted
deriving DecidableEq, Repr

/-- Why a batch ended. -/
inductive BatchOutcome where
  | budgetExhausted
  | waitingForInput
  | halted
  /-- The engine was not ready, and nothing ran. -/
  | notRunning
deriving DecidableEq, Repr

/-- Should the host run another batch after one that ended so? -/
def BatchOutcome.shouldContinue : BatchOutcome → Bool
  | budgetExhausted | waitingForInput => true
  | halted | notRunning => false

/-- What a batch did. -/
structure BatchReport where
  executed : Nat
  cycles : Nat
  outcome : BatchOutcome
deriving DecidableEq, Repr

/-- Batches, instructions and T-states since the last reset. -/
structure Statistics where
  batches : Nat := 0
  instructions : Nat := 0
  cycles : Nat := 0
deriving DecidableEq, Repr

/-- A processor and its board. -/
@[ext] structure Machine where
  cpu : Processor
  board : Board
deriving DecidableEq

/-! ### Running the machine -/

namespace Machine

/-- Restart the processor as the guest asked, and clear the memory on a cold start. -/
def restart (m : Machine) (cold : Bool) : Machine where
  cpu := m.cpu.reset
  board := { m.board with memory := m.board.memory.reset cold }

/-- Serve a firmware call; true if the guest now waits for input. -/
def serve (now : UInt64) (m : Machine) : Bool × Machine :=
  let (s, action) := Hbios.call now { core := m.cpu.core, board := m.board }
  let served : Machine := { cpu := { m.cpu with core := s.core }, board := s.board }
  match action with
  | .proceed => (false, served)
  | .waitForInput => (true, served)
  | .restart cold => (false, served.restart cold)

/-- What one turn did: the T-states it took, how it ended the batch if it did, and what it left. -/
structure Turn where
  cycles : Nat
  outcome : Option BatchOutcome
  machine : Machine
deriving DecidableEq

/-- One instruction, and the firmware call that it makes, served at the given time. -/
def turn (now : UInt64) (m : Machine) : Turn :=
  let (report, cpu, board) := m.cpu.step m.board
  let m : Machine := { cpu, board }
  match report.event with
  | none => ⟨report.cycles, none, m⟩
  | some .halted => ⟨report.cycles, some .halted, m⟩
  | some (.trap _) =>
    let (waiting, m) := m.serve now
    ⟨report.cycles, if waiting then some .waitingForInput else none, m⟩

/-- Run on, with a number of instructions and T-states done: at most `budget` more turns. A turn
without T-states is none of an instruction, and counts as none. -/
def runFrom (clock : Clock) (executed cycles : Nat) : Nat → Machine → BatchReport × Machine
  | 0, m => (⟨executed, cycles, .budgetExhausted⟩, m)
  | budget + 1, m =>
    let turn := m.turn (clock.time (executed + 1))
    let executed := if turn.cycles = 0 then executed else executed + 1
    let cycles := cycles + turn.cycles
    match turn.outcome with
    | some outcome => (⟨executed, cycles, outcome⟩, turn.machine)
    | none => turn.machine.runFrom clock executed cycles budget

end Machine

/-- A machine with its configuration and its place in the setup sequence. -/
@[ext] structure Engine where
  config : Config
  machine : Machine
  lifecycle : Lifecycle := .created
  /-- Is the output handed to the host after every batch? -/
  hasSink : Bool := false
  stats : Statistics := {}
deriving DecidableEq

/-- What a batch returns: its report, and the output handed to the host, if any. -/
structure BatchResult where
  report : BatchReport
  delivered : Option ByteArray := none
deriving DecidableEq

namespace Engine

/-- Build an engine; a configuration that does not hold together is refused. -/
def new (config : Config) : Except MachineError Engine := do
  config.validate
  let ports ← PortTable.ofLayout config.ports
  let devices : Devices :=
    { ports
      uart := { lfToCr := config.lfToCr, stripHighBit := config.stripHighBit }
      disks :=
        { sectorSize := config.sectorSize
          sectorsPerSlice := config.sectorsPerSlice
          autoSlices := config.autoSlices } }
  return {
    config
    machine :=
      { cpu := { flavour := config.flavour }
        board := { memory := Memory.new config.ramSize, devices } } }

/-! ### Parts -/

/-- The memory. -/
def memory (e : Engine) : Memory := e.machine.board.memory

/-- The devices. -/
def devices (e : Engine) : Devices := e.machine.board.devices

/-- The registers. -/
def core (e : Engine) : Core := e.machine.cpu.core

/-- Are batches run? -/
def isReady (e : Engine) : Bool := e.lifecycle == .ready

/-- Change the memory. -/
def withMemory (e : Engine) (memory : Memory) : Engine :=
  { e with machine := { e.machine with board := { e.machine.board with memory } } }

/-- Change the devices. -/
def withDevices (e : Engine) (devices : Devices) : Engine :=
  { e with machine := { e.machine with board := { e.machine.board with devices } } }

/-- Change the serial port. -/
def withUart (e : Engine) (uart : Uart) : Engine := e.withDevices { e.devices with uart }

/-- Change the disks. -/
def withDisks (e : Engine) (disks : DiskController) : Engine :=
  e.withDevices { e.devices with disks }

/-- Change the boot record. -/
def withNvram (e : Engine) (nvram : Nvram) : Engine := e.withDevices { e.devices with nvram }

/-- Change the host file device. -/
def withHostFile (e : Engine) (hostFile : HostFile) : Engine :=
  e.withDevices { e.devices with hostFile }

/-! ### Setup -/

/-- Load a ROM image; one of a wrong length is refused. -/
def loadRom (e : Engine) (image : ByteArray) : Except MachineError Engine := do
  let memory ← e.memory.loadRom image e.config.maxRomSize
  return { e.withMemory memory with lifecycle := .romLoaded }

/-- Bring the machine to its first state; the ROM, the images and the boot record stay. -/
def powerOn (e : Engine) : Engine :=
  { e with
    machine :=
      { cpu := e.machine.cpu.reset
        board :=
          { memory := e.memory.reset true
            devices :=
              { e.devices with
                uart := e.devices.uart.reset
                hostFile := {}
                disks := e.devices.disks.resetRegisters } } }
    stats := {} }

/-- Finish the setup, with the processor at address 0; refused without a ROM. -/
def completeInit (e : Engine) : Except MachineError Engine :=
  if e.lifecycle = .created then .error (.notReady .noRom)
  else .ok { e.powerOn with lifecycle := .ready }

/-- Restart the machine. -/
def reset (e : Engine) : Engine :=
  let e := e.powerOn
  if e.lifecycle = .halted then { e with lifecycle := .ready } else e

/-! ### Batches -/

/-- Take over what a batch reports and leaves: count it, then hand over the output if there is a sink
and there is any. -/
def endBatch (e : Engine) (report : BatchReport) (machine : Machine) : BatchResult × Engine :=
  let e : Engine :=
    { e with
      machine
      lifecycle := if report.outcome = .halted then .halted else .ready
      stats :=
        { batches := e.stats.batches + 1
          instructions := e.stats.instructions + report.executed
          cycles := e.stats.cycles + report.cycles } }
  if e.hasSink then
    let (delivered, uart) := e.devices.uart.flushOutput
    ({ report, delivered }, e.withUart uart)
  else ({ report }, e)

/-- Run at most `budget` instructions under the host's clock. -/
def runFor (e : Engine) (clock : Clock) (budget : Nat) : BatchResult × Engine :=
  if e.lifecycle ≠ .ready then ({ report := ⟨0, 0, .notRunning⟩ }, e)
  else
    let (report, machine) := e.machine.runFrom clock 0 0 budget
    e.endBatch report machine

/-- Run a batch of the configured size. -/
def runBatch (e : Engine) (clock : Clock) : BatchResult × Engine :=
  e.runFor clock e.config.batchInstructions.toNat

/-! ### Console -/

/-- Queue a byte of keyboard input. -/
def queueInput (e : Engine) (v : UInt8) : Engine := e.withUart (e.devices.uart.queueInput v)

/-- Queue the ASCII characters of a text. -/
def queueText (e : Engine) (s : String) : Engine := e.withUart (e.devices.uart.queueText s)

/-- The output since the last drain, and the engine without it. -/
def drainOutput (e : Engine) : ByteArray × Engine :=
  let (out, uart) := e.devices.uart.drainOutput
  (out, e.withUart uart)

/-- Hand the output over after every batch, or collect it. -/
def setSink (e : Engine) (hasSink : Bool) : Engine := { e with hasSink }

/-! ### Disks -/

/-- Load a disk image. -/
def loadDisk (e : Engine) (n : Nat) (image : ByteArray) : Except MachineError Engine := do
  return e.withDisks (← e.devices.disks.load n image)

/-- Remove a disk image and hand it back. -/
def unloadDisk (e : Engine) (n : Nat) : Except MachineError (Option ByteArray × Engine) := do
  let (image, disks) ← e.devices.disks.unload n
  return (image, e.withDisks disks)

/-- Set the slice count of a disk. -/
def setSliceCount (e : Engine) (n : Nat) (count : UInt8) : Except MachineError Engine := do
  return e.withDisks (← e.devices.disks.setSliceCount n count)

/-- Mark a disk as a catalog image, or not. -/
def setManifest (e : Engine) (n : Nat) (manifest : Bool) : Except MachineError Engine := do
  return e.withDisks (← e.devices.disks.setManifest n manifest)

/-- Silence the write warning of a slot, or not. -/
def setSilenced (e : Engine) (n : Nat) (silenced : Bool) : Except MachineError Engine := do
  return e.withDisks (← e.devices.disks.setSilenced n silenced)

/-- Silence all write warnings, or none. -/
def setAllSilenced (e : Engine) (silenced : Bool) : Engine :=
  e.withDisks (e.devices.disks.setAllSilenced silenced)

/-- Take a disk's contents as saved. -/
def clearDirty (e : Engine) (n : Nat) : Engine := e.withDisks (e.devices.disks.clearDirty n)

/-- The pending write warning, and the engine without it. -/
def takeWarning (e : Engine) : Option Nat × Engine :=
  let (warning, disks) := e.devices.disks.takeWarning
  (warning, e.withDisks disks)

/-! ### Boot record -/

/-- The text of the stored boot option. -/
def setting (e : Engine) : String := e.devices.nvram.setting

/-- Store the boot option that a text names. -/
def setSetting (e : Engine) (s : String) : Except MachineError Engine := do
  return e.withNvram (← e.devices.nvram.setSetting s)

/-- Has the boot record changed since the last time this was asked? -/
def takeSettingChange (e : Engine) : Bool × Engine :=
  let (changed, nvram) := e.devices.nvram.takeChange
  (changed, e.withNvram nvram)

/-- Clear the boot record. -/
def clearNvram (e : Engine) : Engine := e.withNvram e.devices.nvram.clear

/-! ### Host files -/

/-- Deliver the file that the guest asked for; refused unless it waits for one. -/
def provideFile (e : Engine) (bytes : List UInt8) : Option Engine :=
  (e.devices.hostFile.provide bytes).map e.withHostFile

/-- Refuse the file that the guest asked for; refused itself unless it waits for one. -/
def cancelFile (e : Engine) : Option Engine := e.devices.hostFile.cancel.map e.withHostFile

/-- Acknowledge the file that the guest has written; refused unless there is one. -/
def acknowledgeFile (e : Engine) : Option Engine :=
  e.devices.hostFile.acknowledge.map e.withHostFile

end Engine

/-! ### Sequences of calls -/

/-- A sequence of host calls on an engine that may end early with an error. What was changed before
the error stays changed. -/
abbrev EngineCalls (α : Type) := ExceptT MachineError (StateM Engine) α

namespace EngineCalls

/-- A single call that may be refused. -/
def attempt (call : Engine → Except MachineError Engine) : EngineCalls Unit := do
  let e ← get
  match call e with
  | .ok e => set e
  | .error error => throw error

/-- Carry the calls out on an engine. -/
def runOn {α : Type} (calls : EngineCalls α) (e : Engine) : Except MachineError α × Engine :=
  StateT.run (ExceptT.run calls) e

variable {α β : Type} (e : Engine)

theorem runOn_pure (a : α) : (pure a : EngineCalls α).runOn e = (.ok a, e) := rfl

theorem runOn_get : (get : EngineCalls Engine).runOn e = (.ok e, e) := rfl

theorem runOn_lift (r : Except MachineError α) : (liftM r : EngineCalls α).runOn e = (r, e) := rfl

/-- Calls in a row: an error ends them where they stand. -/
theorem runOn_bind (calls : EngineCalls α) (rest : α → EngineCalls β) :
    (calls >>= rest).runOn e =
      match calls.runOn e with
      | (.ok a, e') => (rest a).runOn e'
      | (.error error, e') => (.error error, e') := by
  show StateT.run (ExceptT.run (calls >>= rest)) e = _
  rw [ExceptT.run_bind, StateT.run_bind]
  unfold runOn
  generalize StateT.run (ExceptT.run calls) e = r
  obtain ⟨result, e'⟩ := r
  cases result <;> rfl

theorem runOn_attempt (call : Engine → Except MachineError Engine) :
    (attempt call).runOn e =
      match call e with
      | .ok e' => (.ok (), e')
      | .error error => (.error error, e) := by
  rw [attempt, runOn_bind, runOn_get]
  dsimp only
  split <;> rfl

end EngineCalls

end BankedZ80
