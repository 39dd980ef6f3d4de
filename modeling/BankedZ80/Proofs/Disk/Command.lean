import BankedZ80.Proofs.Disk.Registers
import BankedZ80.Proofs.Memory.Blocks

/-!
# Moving one sector

A read or write command of the register file, and every round of a firmware transfer, move one sector
between a disk and the memory: `checkSector` says whether it can be moved, `disksMoved` and
`memoryMoved` what is left when it was. All three depend on the contents of the controller alone, not on
its registers or seek positions.
-/

namespace BankedZ80

theorem DiskStatus.code_ofError_ne_zero (e : MachineError) : (DiskStatus.ofError e).code ≠ 0 := by
  unfold ofError
  split <;> decide

namespace DiskController

/-- The command that reads or writes a sector. -/
def sectorCommand (write : Bool) : UInt8 := if write then 2 else 1

/-- Check that a sector can be moved. -/
def checkSector (c : DiskController) (write : Bool) (n : Nat) (lba : UInt32) :
    Except MachineError Unit :=
  if write then c.checkWrite n lba c.sectorSize else c.checkRead n lba

/-- The disks after a sector was moved that can be. -/
def disksMoved (c : DiskController) (write : Bool) (n : Nat) (lba : UInt32) (m : Memory)
    (address : UInt16) : DiskController :=
  if write then c.copyIn n lba m address else c

/-- The memory after a sector was moved that can be. -/
def memoryMoved (c : DiskController) (write : Bool) (n : Nat) (lba : UInt32) (m : Memory)
    (address : UInt16) : Memory :=
  if write then m else c.copyOut n lba m address

/-- Every unit has the sector size of the controller. -/
def Matched (c : DiskController) (n : Nat) : Prop :=
  ∀ d, c.unit n = .ok d → d.sectorSize = c.sectorSize

variable (c : DiskController) (write : Bool) (m : Memory)

theorem size_readBlock (m : Memory) (address : UInt16) (size : Nat) :
    (Bytes.ofList (m.readBlock address size)).size = size := by
  rw [Bytes.size_ofList, Memory.length_readBlock]

theorem checkCommand_sectorCommand :
    c.checkCommand (sectorCommand write) = c.checkSector write c.selected.toNat c.lba := by
  cases write <;> rfl

theorem command_of_ok (h : c.checkSector write c.selected.toNat c.lba = .ok ()) :
    c.command (sectorCommand write) m =
      ({ (c.disksMoved write c.selected.toNat c.lba m c.address).advance with
          status := DiskStatus.ok.code },
        c.memoryMoved write c.selected.toNat c.lba m c.address) := by
  have known : 1 ≤ sectorCommand write ∧ sectorCommand write ≤ 3 := by cases write <;> decide
  rw [← checkCommand_sectorCommand] at h
  rw [command, if_pos known, h]
  cases write <;> rfl

theorem command_of_error {e : MachineError}
    (h : c.checkSector write c.selected.toNat c.lba = .error e) :
    c.command (sectorCommand write) m = ({ c with status := (DiskStatus.ofError e).code }, m) := by
  have known : 1 ≤ sectorCommand write ∧ sectorCommand write ≤ 3 := by cases write <;> decide
  rw [← checkCommand_sectorCommand] at h
  rw [command, if_pos known, h]

theorem checkSector_resetRegisters (n : Nat) (lba : UInt32) :
    c.resetRegisters.checkSector write n lba = c.checkSector write n lba := by
  cases write with
  | false => exact checkRead_resetRegisters c n lba
  | true => exact checkWrite_resetRegisters c n lba c.sectorSize

/-- Moving a sector leaves the registers and the sector size alone. -/
theorem disksMoved_registers (n : Nat) (lba : UInt32) (address : UInt16) :
    (c.disksMoved write n lba m address).selected = c.selected ∧
      (c.disksMoved write n lba m address).lba = c.lba ∧
      (c.disksMoved write n lba m address).address = c.address ∧
      (c.disksMoved write n lba m address).sectorSize = c.sectorSize := by
  cases write with
  | false => exact ⟨rfl, rfl, rfl, rfl⟩
  | true =>
      rw [show c.disksMoved true n lba m address = c.putSector n lba _ from rfl, putSector_eq]
      exact ⟨rfl, rfl, rfl, rfl⟩

theorem copyIn_resetRegisters (n : Nat) (lba : UInt32) (address : UInt16) :
    (c.copyIn n lba m address).resetRegisters = c.resetRegisters.copyIn n lba m address :=
  putSector_resetRegisters c n lba _

theorem disksMoved_resetRegisters (n : Nat) (lba : UInt32) (address : UInt16) :
    (c.disksMoved write n lba m address).resetRegisters =
      c.resetRegisters.disksMoved write n lba m address := by
  cases write with
  | false => rfl
  | true => exact copyIn_resetRegisters c m n lba address

theorem memoryMoved_resetRegisters (n : Nat) (lba : UInt32) (address : UInt16) :
    c.resetRegisters.memoryMoved write n lba m address =
      c.memoryMoved write n lba m address := by
  cases write with
  | false =>
      show c.resetRegisters.copyOut n lba m address = c.copyOut n lba m address
      rw [copyOut, copyOut, sectorBytes_resetRegisters]
  | true => rfl

theorem checkSector_of_error {n : Nat} {e : MachineError} (lba : UInt32)
    (h : c.unit n = .error e) : c.checkSector write n lba = .error e := by
  cases write with
  | false => exact checkRead_of_error c n lba h
  | true => exact checkWrite_of_error c n lba h c.sectorSize

theorem checkSector_of_matched {n : Nat} (lba : UInt32) (matched : c.Matched n) :
    c.checkSector write n lba = c.checkRead n lba := by
  cases write with
  | false => rfl
  | true =>
      cases h : c.unit n with
      | error e =>
          rw [checkSector_of_error c true lba h, checkRead_of_error c n lba h]
      | ok d =>
          show c.checkWrite n lba c.sectorSize = c.checkRead n lba
          rw [checkWrite_of_unit c n lba h, if_neg (not_not_intro (matched d h).symm)]

/-- A unit with the sector size of the controller is never refused for its sector size. -/
theorem ofError_ne_badCommand {n : Nat} {lba : UInt32} {e : MachineError} (matched : c.Matched n)
    (h : c.checkSector write n lba = .error e) : DiskStatus.ofError e ≠ .badCommand := by
  rw [checkSector_of_matched c write lba matched] at h
  cases hd : c.unit n with
  | error e' =>
      rw [checkRead_of_error c n lba hd] at h
      cases h
      obtain rfl | rfl := unit_eq_error c n hd
      · exact nofun
      · exact nofun
  | ok d =>
      rw [checkRead_of_unit c n lba hd] at h
      split at h
      · cases h
        exact nofun
      · cases h

/-- Moving a sector leaves the sector sizes alone. -/
theorem Matched.disksMoved {c : DiskController} {n : Nat} (h : c.Matched n) (write : Bool)
    (m : Memory) (lba : UInt32) (address : UInt16) :
    (c.disksMoved write n lba m address).Matched n := by
  cases write with
  | false => exact h
  | true =>
      intro d hd
      obtain ⟨-, -, -, size⟩ := c.disksMoved_registers true m n lba address
      rw [size]
      rw [show c.disksMoved true n lba m address = c.putSector n lba _ from rfl, putSector_eq] at hd
      obtain ⟨d', hd', rfl⟩ := unit_of_modifyUnit c n hd
      exact h d' hd'

end DiskController

end BankedZ80
