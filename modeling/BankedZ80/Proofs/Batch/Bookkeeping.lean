import BankedZ80.Proofs.Batch.Split
import BankedZ80.Proofs.Disk.Flags

/-!
# What the guest does not know

Some of what an engine holds is the host's own: the flags of the disks, the change flag of the boot
record, output that was not collected yet, the sink and the statistics.
`Engine.withoutBookkeeping` leaves all that out. Two engines that agree without it run the same guest,
and the guest cannot tell on which of them it runs (`Engine.runFor_unaware`).

The flags are forgotten by a change that the guest does not see (`DiskController.forgetFlags_unseen`,
`Nvram.forgetChange_unseen`). Output that is already there is set aside, and comes in front of what the
batch transmits (`Machine.runFrom_withoutBookkeeping`).
-/

namespace BankedZ80

/-! ### Flags -/

namespace Hbios.Transfer

variable (t : Transfer) (write : Bool) (n : Nat)

theorem check_forgetFlags :
    (t.onDisks DiskController.forgetFlags).check write n = t.check write n := by
  unfold check onDisks
  rw [DiskController.unit_forgetFlags]
  cases t.disks.unit n with
  | error e => rfl
  | ok d =>
      cases write with
      | false => exact DiskController.checkRead_forgetFlags t.disks n d.seek
      | true => exact DiskController.checkWrite_forgetFlags t.disks n d.seek t.disks.sectorSize

theorem move_forgetFlags :
    (t.onDisks DiskController.forgetFlags).move write n =
      (t.move write n).onDisks DiskController.forgetFlags := by
  unfold move onDisks
  rw [DiskController.seek_forgetFlags]
  cases write with
  | false =>
      simp only [Bool.false_eq_true, if_false, DiskController.copyOut_forgetFlags,
        DiskController.setSeek_forgetFlags]
      rfl
  | true =>
      simp only [if_true, DiskController.copyIn_forgetFlags, DiskController.setSeek_forgetFlags]
      rfl

/-- By induction on the number of sectors: every round finds the same and does the same. -/
theorem moveMany_forgetFlags (count : Nat) :
    (t.onDisks DiskController.forgetFlags).moveMany write n count =
      ((t.moveMany write n count).1,
        (t.moveMany write n count).2.onDisks DiskController.forgetFlags) := by
  induction count generalizing t with
  | zero => rfl
  | succ count ih =>
      rw [moveMany, moveMany, check_forgetFlags]
      cases t.check write n with
      | error e => rfl
      | ok _ =>
          dsimp only
          rw [move_forgetFlags, ih]

end Hbios.Transfer

/-- The guest does not notice the flags of the disks. -/
theorem DiskController.forgetFlags_unseen : DiskController.Unseen DiskController.forgetFlags where
  readRegister := readRegister_forgetFlags
  writeRegister := writeRegister_forgetFlags
  capacity c n := by
    rw [unit_forgetFlags]
    cases c.unit n with
    | error e => rfl
    | ok d => rfl
  setSeek := setSeek_forgetFlags
  moveMany := Hbios.Transfer.moveMany_forgetFlags
  systemCount? c query := by
    unfold Hbios.systemCount?
    rw [loadedCount_forgetFlags, driveMap_forgetFlags]

/-- The boot record without its change flag. It counts as changed, as it does after a write. -/
def Nvram.forgetChange (n : Nvram) : Nvram := { n with changed := true }

/-- The guest does not notice the change flag of the boot record. -/
theorem Nvram.forgetChange_unseen : Nvram.Unseen Nvram.forgetChange where
  readRegister _ _ := rfl
  writeRegister n register v := by
    unfold writeRegister
    split
    · rfl
    · by_cases h : n.latch.toNat < 4
      · rw [dif_pos h, dif_pos (show n.forgetChange.latch.toNat < 4 from h)]
        rfl
      · rw [dif_neg h, dif_neg (show ¬n.forgetChange.latch.toNat < 4 from h)]

/-! ### Boards -/

namespace Board

/-- The flags are forgotten. -/
def flagChange : DeviceChange where
  disks := DiskController.forgetFlags
  nvram := Nvram.forgetChange

theorem flagChange_unseen : flagChange.Unseen where
  uart := .unchanged
  disks := DiskController.forgetFlags_unseen
  nvram := Nvram.forgetChange_unseen

/-- The board without flags and without output. -/
def withoutBookkeeping (b : Board) : Board :=
  { b with
    devices :=
      { b.devices with
        uart := { b.devices.uart with output := .empty }
        disks := b.devices.disks.forgetFlags
        nvram := b.devices.nvram.forgetChange } }

variable (b : Board)

/-- The board without its flags is that without bookkeeping, with the output in front. -/
theorem flagChange_onBoard :
    flagChange.onBoard b = b.withoutBookkeeping.prependOutput b.devices.uart.output := by
  have uart : b.devices.uart =
      Uart.prependOutput b.devices.uart.output { b.devices.uart with output := .empty } := by
    unfold Uart.prependOutput
    rw [ByteArray.append_empty]
  exact congrArg (fun uart => flagChange.onBoard { b with devices := { b.devices with uart } }) uart

theorem withoutBookkeeping_prependOutput (pre : ByteArray) :
    (b.prependOutput pre).withoutBookkeeping = b.withoutBookkeeping := rfl

theorem withoutBookkeeping_flagChange :
    (flagChange.onBoard b).withoutBookkeeping = b.withoutBookkeeping := by
  have again : b.devices.disks.forgetFlags.forgetFlags = b.devices.disks.forgetFlags := by
    unfold DiskController.forgetFlags
    dsimp only
    rw [Vector.map_map]
    congr 2
    funext slot
    cases slot <;> rfl
  show { b with devices := { b.devices with
    uart := { b.devices.uart with output := .empty }, disks := b.devices.disks.forgetFlags.forgetFlags,
    nvram := b.devices.nvram.forgetChange } } = _
  rw [again]
  rfl

end Board

/-! ### Runs and batches -/

/-- **A run without bookkeeping** is the run with it: same report and registers, and what it leaves is
the same board but for the flags, with the earlier output in front. -/
theorem Machine.runFrom_withoutBookkeeping (m : Machine) (clock : Clock)
    (executed cycles budget : Nat) :
    let run := m.runFrom clock executed cycles budget
    let bare := runFrom clock executed cycles budget ⟨m.cpu, m.board.withoutBookkeeping⟩
    run.1 = bare.1 ∧ run.2.cpu = bare.2.cpu ∧
      Board.flagChange.onBoard run.2.board =
        bare.2.board.prependOutput m.board.devices.uart.output := by
  intro run bare
  have forgotten : Alike (fun b b' => b' = Board.flagChange.onBoard b) m
      ⟨m.cpu, Board.flagChange.onBoard m.board⟩ :=
    ⟨rfl, rfl⟩
  have setAside : Alike (fun b b' => b' = b.prependOutput m.board.devices.uart.output)
      ⟨m.cpu, m.board.withoutBookkeeping⟩ ⟨m.cpu, Board.flagChange.onBoard m.board⟩ :=
    ⟨rfl, m.board.flagChange_onBoard⟩
  obtain ⟨report, cpu, board⟩ := runFrom_alike Board.flagChange_unseen.indistinguishable forgotten
    clock executed cycles budget
  obtain ⟨report', cpu', board'⟩ := runFrom_alike
    (Board.prependOutput_indistinguishable m.board.devices.uart.output) setAside
    clock executed cycles budget
  exact ⟨report.trans report'.symm, cpu.trans cpu'.symm, board.symm.trans board'⟩

namespace Engine

/-- The engine without what the host alone keeps: the flags of the disks and of the boot record, output,
sink and statistics. -/
def withoutBookkeeping (e : Engine) : Engine :=
  { e with
    machine := ⟨e.machine.cpu, e.machine.board.withoutBookkeeping⟩
    hasSink := false
    stats := {} }

/-- These are the bytes that a batch transmits: together with the output from before they are what it
hands over and what it leaves. -/
def Transmits (e : Engine) (clock : Clock) (budget : Nat) (sent : ByteArray) : Prop :=
  (e.runFor clock budget).1.handedOver ++ (e.runFor clock budget).2.devices.uart.output =
    e.devices.uart.output ++ sent

variable {e : Engine}

/-- A batch on a ready engine, told by the run of its machine without bookkeeping. -/
theorem runFor_withoutBookkeeping (ready : e.lifecycle = .ready) (clock : Clock) (budget : Nat) :
    let bare := e.withoutBookkeeping.machine.runFrom clock 0 0 budget
    (e.runFor clock budget).1.report = bare.1 ∧
      e.Transmits clock budget bare.2.board.devices.uart.output ∧
      (e.runFor clock budget).2.withoutBookkeeping =
        { e.withoutBookkeeping with
          machine := ⟨bare.2.cpu, bare.2.board.withoutBookkeeping⟩
          lifecycle := if bare.1.outcome = .halted then .halted else .ready } := by
  intro bare
  obtain ⟨report, cpu, board⟩ := e.machine.runFrom_withoutBookkeeping clock 0 0 budget
  have all := e.endBatch_board (e.machine.runFrom clock 0 0 budget).1
    (e.machine.runFrom clock 0 0 budget).2
  rw [Transmits, runFor_of_ready ready]
  refine ⟨?report, ?transmits, ?after⟩
  case report => rw [endBatch_report]; exact report
  case transmits =>
    have run := congrArg (fun b : Board => b.devices.uart.output) board
    have handed := congrArg (fun b : Board => b.devices.uart.output) all
    exact handed.trans run
  case after =>
    have left : (e.endBatch (e.machine.runFrom clock 0 0 budget).1
        (e.machine.runFrom clock 0 0 budget).2).2.machine.board.withoutBookkeeping =
          bare.2.board.withoutBookkeeping := by
      rw [← Board.withoutBookkeeping_prependOutput, all, ← Board.withoutBookkeeping_flagChange, board]
      rfl
    unfold withoutBookkeeping
    rw [left, endBatch_config, endBatch_cpu, endBatch_lifecycle, cpu, report]
    rfl

/-- **The guest does not know what the host keeps about it.** Two engines that agree but for the host's
bookkeeping return the same report, transmit the same bytes, and agree so again. -/
theorem runFor_unaware (e e' : Engine) (same : e.withoutBookkeeping = e'.withoutBookkeeping)
    (clock : Clock) (budget : Nat) :
    (e.runFor clock budget).1.report = (e'.runFor clock budget).1.report ∧
      (∃ sent, e.Transmits clock budget sent ∧ e'.Transmits clock budget sent) ∧
      (e.runFor clock budget).2.withoutBookkeeping =
        (e'.runFor clock budget).2.withoutBookkeeping := by
  have lifecycle := congrArg Engine.lifecycle same
  change e.lifecycle = e'.lifecycle at lifecycle
  by_cases ready : e.lifecycle = .ready
  · obtain ⟨report, transmits, after⟩ := runFor_withoutBookkeeping ready clock budget
    obtain ⟨report', transmits', after'⟩ :=
      runFor_withoutBookkeeping (lifecycle ▸ ready) clock budget
    rw [← same] at report' transmits' after'
    exact ⟨report.trans report'.symm, ⟨_, transmits, transmits'⟩, after.trans after'.symm⟩
  · unfold Transmits
    rw [runFor_of_not_ready ready, runFor_of_not_ready (lifecycle ▸ ready)]
    have nothing (out : ByteArray) : BatchResult.handedOver { report := ⟨0, 0, .notRunning⟩ } ++ out =
        out ++ .empty := by
      rw [ByteArray.append_empty]
      exact ByteArray.empty_append
    exact ⟨rfl, ⟨.empty, nothing _, nothing _⟩, same⟩

theorem withoutBookkeeping_setManifest {e' : Engine} {n : Nat} {manifest : Bool}
    (h : e.setManifest n manifest = .ok e') : e'.withoutBookkeeping = e.withoutBookkeeping := by
  obtain ⟨disks, marked, h⟩ := bind_eq_ok.1 h
  cases h
  have forgotten := DiskController.forgetFlags_setManifest marked
  simp only [withoutBookkeeping, Board.withoutBookkeeping, withDisks, withDevices, forgotten, devices]

/-- A guest that writes a sector of its disk, and then halts. -/
def writingGuest : List UInt8 := [0x3E, 0x02, 0xD3, 0x97, 0x76]

/-- A machine with this guest and a disk. -/
def writingSetup : Except MachineError Engine := do
  let ready ← setUp { ramSize := 65536, sectorSize := 128 } writingGuest
  ready.loadDisk 0 (Bytes.zeros 128)

/-- The host is warned when the disk is a catalog image, and the guest does not know that it is one. -/
theorem writingGuest_unaware :
    ∃ plain catalog, writingSetup = .ok plain ∧ plain.setManifest 0 true = .ok catalog ∧
      (catalog.runFor (Clock.still 0) 3).2.takeWarning.1 = some 0 ∧
      (plain.runFor (Clock.still 0) 3).2.takeWarning.1 = none ∧
      catalog.withoutBookkeeping = plain.withoutBookkeeping ∧
      (catalog.runFor (Clock.still 0) 3).2.withoutBookkeeping =
        (plain.runFor (Clock.still 0) 3).2.withoutBookkeeping := by
  have warned : writingSetup.toOption.any (fun plain =>
      (plain.setManifest 0 true).toOption.any
          (fun catalog => (catalog.runFor (Clock.still 0) 3).2.takeWarning.1 = some 0) = true ∧
        (plain.runFor (Clock.still 0) 3).2.takeWarning.1 = none) = true := by
    decide +kernel
  obtain ⟨plain, built, seen, silent⟩ := exists_of_toOption_any warned
  obtain ⟨catalog, marked, warning⟩ := exists_of_toOption_any seen
  have same := withoutBookkeeping_setManifest marked
  obtain ⟨-, -, after⟩ := runFor_unaware catalog plain same (Clock.still 0) 3
  exact ⟨plain, catalog, built, marked, warning, silent, same, after⟩

end Engine

end BankedZ80
