import BankedZ80.Proofs.Disk.Slices
import BankedZ80.Proofs.Safety.Sectors

/-!
# Drives and registers do not crash

The checked programs that give out drive letters and look up slices, and those of the register file,
in a well-formed controller. The four bytes of a block address are an array here, as a register write
sees them.
-/

namespace BankedZ80

open Checked

/-! ### Drive letters -/

/-- Slices that so many sectors can hold. -/
def sliceCapacityM (sectors perSlice : Nat) : Checked Nat :=
  return max 1 (← div sectors (max 1 perSlice))

/-- The drive letter with a given index. -/
def driveLetterM (index : Nat) : Checked Char := return Char.ofNat (← add 8 65 index)

/-- Assign letters when the first `used` ones are taken. -/
def assignDrivesFromM (perSlice used : Nat) : List DriveSource → Checked (List Drive)
  | [] => return []
  | s :: rest => do
    let usable := min s.sliceCount (← sliceCapacityM s.sectors perSlice)
    let count := min usable (maxDrives - used)
    let drives ← (List.range count).mapM fun slice =>
      return ⟨← driveLetterM (used + slice), s.unit, slice⟩
    return drives ++ (← assignDrivesFromM perSlice (used + count) rest)

theorem sliceCapacityM_eq (sectors perSlice : Nat) :
    sliceCapacityM sectors perSlice = .ok (sliceCapacity sectors perSlice) := by
  have pos : 0 < max 1 perSlice := Nat.le_max_left 1 perSlice
  rw [sliceCapacityM, div_eq pos]
  rfl

theorem assignDrivesFromM_eq (perSlice used : Nat) (sources : List DriveSource) :
    assignDrivesFromM perSlice used sources = .ok (assignDrivesFrom perSlice used sources) := by
  induction sources generalizing used with
  | nil => rfl
  | cons s rest ih =>
      have letters : ((List.range (min (s.usable perSlice) (maxDrives - used))).mapM fun slice =>
            (return ⟨← driveLetterM (used + slice), s.unit, slice⟩ : Checked Drive)) =
          .ok ((List.range (min (s.usable perSlice) (maxDrives - used))).map fun slice =>
            ⟨driveLetter (used + slice), s.unit, slice⟩) := by
        refine mapM_eq fun slice mem => ?_
        have below := List.mem_range.1 mem
        have index : 65 + (used + slice) < 2 ^ 8 := by
          unfold maxDrives at below
          omega
        rw [driveLetterM, add_eq index]
        rfl
      rw [assignDrivesFromM, sliceCapacityM_eq, ok_bind]
      dsimp only
      rw [← DriveSource.usable, letters, ok_bind, ih]
      rfl

namespace DiskController

/-- The unit in a slot with what decides its letters. -/
def driveSourceM (c : DiskController) (n : Nat) : Checked (Option DriveSource) :=
  match c.unit? n with
  | some d => return some ⟨n, d.slices.toNat, (← d.totalSectorsM).toNat⟩
  | none => return none

/-- The loaded units with what decides their letters. -/
def driveSourcesM (c : DiskController) : Checked (List DriveSource) :=
  return (← (List.range maxUnits).mapM c.driveSourceM).filterMap id

/-- The drive letters of the loaded units. -/
def driveMapM (c : DiskController) : Checked (List Drive) := do
  assignDrivesFromM c.sectorsPerSlice.toNat 0 (← c.driveSourcesM)

/-- The absolute block address of a block within a slice. -/
def sliceLbaM (c : DiskController) (n : Nat) (slice : UInt8) (lba : UInt32) : Checked UInt32 := do
  let d ← c.unitM n
  if d.slices ≤ slice ∨ c.sectorsPerSlice ≤ lba then refusable (.error (.sectorOutOfRange n lba))
  else
    let absolute := slice.toNat * c.sectorsPerSlice.toNat + lba.toNat
    if absolute < 2 ^ 32 then
      if absolute < (← d.totalSectorsM).toNat then return absolute.toUInt32
      else refusable (.error (.sectorOutOfRange n absolute.toUInt32))
    else refusable (.error (.sectorOutOfRange n lba))

section

variable {c : DiskController} (h : c.WellFormed)
include h

theorem driveSourceM_eq (n : Nat) :
    c.driveSourceM n =
      .ok ((c.unit? n).map fun d => ⟨n, d.slices.toNat, d.totalSectors.toNat⟩) := by
  rw [driveSourceM]
  cases there : c.unit? n with
  | none => rfl
  | some d =>
      dsimp only
      rw [DiskUnit.totalSectorsM_eq (h.units n d there) h.sectorSize_pos]
      rfl

theorem driveMapM_eq : c.driveMapM = .ok c.driveMap := by
  have sources : c.driveSourcesM = .ok c.driveSources := by
    rw [driveSourcesM, mapM_eq fun n _ => driveSourceM_eq h n, ok_bind, List.filterMap_map]
    rfl
  rw [driveMapM, sources]
  exact assignDrivesFromM_eq _ _ _

theorem sliceLbaM_eq (n : Nat) (slice : UInt8) (lba : UInt32) :
    c.sliceLbaM n slice lba = refusable (c.sliceLba n slice lba) := by
  rw [sliceLbaM, unitM_eq]
  cases there : c.unit n with
  | error e =>
      rw [sliceLba, there]
      rfl
  | ok d =>
      have unit := h.units n d (unit?_of_unit c n there)
      rw [refusable_ok, ok_bind, sliceLba_of_unit there,
        DiskUnit.totalSectorsM_eq unit h.sectorSize_pos]
      split
      · rfl
      · dsimp only
        split
        · rw [ok_bind]
          split <;> rfl
        · rfl

end

/-! ### The register file -/

/-- The bytes of a block address, the lowest first. -/
def lbaBytes (lba : UInt32) : Vector UInt8 4 := Vector.ofFn fun i => lbaByte lba i.val

/-- The block address of four bytes. -/
def lbaOfBytes (bytes : Vector UInt8 4) : UInt32 :=
  (bytes[0].toNat + 256 * bytes[1].toNat + 65536 * bytes[2].toNat +
    16777216 * bytes[3].toNat).toUInt32

/-- Guest read of a register. -/
def readRegisterM (c : DiskController) (register : UInt8) : Checked UInt8 := do
  match register.toNat with
  | 0 => return c.selected
  | 1 | 2 | 3 | 4 => slot (lbaBytes c.lba) (← sub register.toNat 1)
  | 5 => return lowByte c.address
  | 6 => return highByte c.address
  | 7 => return c.status
  | 8 =>
    match ← attempt (c.unitM c.selected.toNat) with
    | .ok d => return d.slices
    | .error _ => return 0
  | 9 => return if c.isLoaded c.selected.toNat then 1 else 0
  | _ => return 0xFF

/-- Move the sector that the registers name, and show the outcome in the status register. -/
def sectorCommandM (c : DiskController) (write : Bool) (m : Memory) :
    Checked (DiskController × Memory) := do
  match ← attempt (c.moveSectorM c.selected.toNat c.lba m c.address write) with
  | .ok (c, m) => return ({ c.advance with status := DiskStatus.ok.code }, m)
  | .error e => return ({ c with status := (DiskStatus.ofError e).code }, m)

/-- Put the number of sectors into the block address, and show the outcome. -/
def capacityCommandM (c : DiskController) (m : Memory) : Checked (DiskController × Memory) := do
  match ← attempt (do (← c.unitM c.selected.toNat).totalSectorsM) with
  | .ok sectors => return ({ c with lba := sectors, status := DiskStatus.ok.code }, m)
  | .error e => return ({ c with status := (DiskStatus.ofError e).code }, m)

/-- Carry out a register command. -/
def commandM (c : DiskController) (command : UInt8) (m : Memory) :
    Checked (DiskController × Memory) :=
  match command.toNat with
  | 1 => c.sectorCommandM false m
  | 2 => c.sectorCommandM true m
  | 3 => c.capacityCommandM m
  | _ => return ({ c with status := DiskStatus.badCommand.code }, m)

/-- Guest write of a register. -/
def writeRegisterM (c : DiskController) (register v : UInt8) (m : Memory) :
    Checked (DiskController × Memory) := do
  match register.toNat with
  | 0 => return ({ c with selected := v }, m)
  | 1 | 2 | 3 | 4 =>
    let bytes ← setSlot (lbaBytes c.lba) (← sub register.toNat 1) v
    return ({ c with lba := lbaOfBytes bytes }, m)
  | 5 => return ({ c with address := word (highByte c.address) v }, m)
  | 6 => return ({ c with address := word v (lowByte c.address) }, m)
  | 7 => c.commandM v m
  | _ => return (c, m)

theorem lbaByte_lbaOfBytes (bytes : Vector UInt8 4) {i : Nat} (hi : i < 4) :
    lbaByte (lbaOfBytes bytes) i = bytes[i] := by
  have h0 := bytes[0].toNat_lt
  have h1 := bytes[1].toNat_lt
  have h2 := bytes[2].toNat_lt
  have h3 := bytes[3].toNat_lt
  apply UInt8.toNat_inj.1
  rw [toNat_lbaByte, lbaOfBytes, Nat.toUInt32_eq, UInt32.toNat_ofNat']
  interval_cases i <;> simp <;> omega

/-- Setting a byte of the array sets the byte of the block address. -/
theorem lbaOfBytes_set (lba : UInt32) (v : UInt8) {i : Nat} (hi : i < 4) :
    lbaOfBytes ((lbaBytes lba).set i v) = setLbaByte lba i v := by
  apply eq_of_lbaByte
  intro j hj
  rw [lbaByte_lbaOfBytes _ hj, lbaByte_setLbaByte lba v hi hj, Vector.getElem_set, lbaBytes,
    Vector.getElem_ofFn]

variable {c : DiskController}

theorem lbaByteM_eq (lba : UInt32) {register : Nat} (lower : 1 ≤ register) (upper : register ≤ 4) :
    (do slot (lbaBytes lba) (← sub register 1)) = .ok (lbaByte lba (register - 1)) := by
  have inside : register - 1 < 4 := by omega
  rw [sub_eq lower, ok_bind, slot_eq inside, lbaBytes, Vector.getElem_ofFn]

theorem readRegisterM_eq (register : UInt8) :
    c.readRegisterM register = .ok (c.readRegister register) := by
  unfold readRegisterM readRegister
  generalize register.toNat = r
  match r with
  | 0 | 5 | 6 | 7 | 9 | _ + 10 => rfl
  | 1 => exact lbaByteM_eq c.lba (by decide) (by decide)
  | 2 => exact lbaByteM_eq c.lba (by decide) (by decide)
  | 3 => exact lbaByteM_eq c.lba (by decide) (by decide)
  | 4 => exact lbaByteM_eq c.lba (by decide) (by decide)
  | 8 =>
      show (do
        match ← attempt (c.unitM c.selected.toNat) with
        | .ok d => return d.slices
        | .error _ => return 0 : Checked UInt8) = .ok ((c.sliceCount c.selected.toNat).getD 0)
      rw [unitM_eq, attempt_refusable, ok_bind, sliceCount, unit?_eq_toOption]
      cases c.unit c.selected.toNat <;> rfl

variable {m : Memory}

section

variable (h : c.WellFormed) (pages : m.WellFormed)
include h pages

theorem sectorCommandM_eq (write : Bool) :
    c.sectorCommandM write m = .ok (c.command (sectorCommand write) m) := by
  rw [sectorCommandM, moveSectorM_eq h pages, attempt_refusable, ok_bind]
  cases checked : c.checkSector write c.selected.toNat c.lba with
  | ok u =>
      rw [command_of_ok c write m checked]
      rfl
  | error e =>
      rw [command_of_error c write m checked]
      rfl

omit pages

theorem capacityCommandM_eq : c.capacityCommandM m = .ok (c.command 3 m) := by
  have known : (1 : UInt8) ≤ 3 ∧ (3 : UInt8) ≤ 3 := by decide
  have check : c.checkCommand 3 = (do let _ ← c.unit c.selected.toNat; return ()) := rfl
  have run : c.runCommand 3 m =
    ({ c with lba := ((c.unit? c.selected.toNat).map (·.totalSectors)).getD 0 }, m) := rfl
  rw [capacityCommandM, unitM_eq, command, if_pos known, check, run]
  cases there : c.unit c.selected.toNat with
  | error e => rfl
  | ok d =>
      have slot := unit?_of_unit c _ there
      rw [refusable_ok, ok_bind, DiskUnit.totalSectorsM_eq (h.units _ d slot) h.sectorSize_pos, slot]
      rfl

include pages

theorem commandM_eq (command : UInt8) : c.commandM command m = .ok (c.command command m) := by
  by_cases known : 1 ≤ command ∧ command ≤ 3
  · have lower : 1 ≤ command.toNat := known.1
    have upper : command.toNat ≤ 3 := known.2
    have listed : command = 1 ∨ command = 2 ∨ command = 3 := by
      simp only [← UInt8.toNat_inj]
      show command.toNat = 1 ∨ command.toNat = 2 ∨ command.toNat = 3
      omega
    rcases listed with rfl | rfl | rfl
    · exact sectorCommandM_eq h pages false
    · exact sectorCommandM_eq h pages true
    · exact capacityCommandM_eq h
  · have outside : command.toNat < 1 ∨ 3 < command.toNat := by
      by_cases low : command.toNat < 1
      · exact .inl low
      · exact .inr (Nat.lt_of_not_le fun high => known ⟨Nat.le_of_not_lt low, high⟩)
    rw [DiskController.command, if_neg known]
    unfold commandM
    split
    · omega
    · omega
    · omega
    · rfl

theorem writeRegisterM_eq (register v : UInt8) :
    c.writeRegisterM register v m = .ok (c.writeRegister register v m) := by
  have lba {k : Nat} (lower : 1 ≤ k) (upper : k ≤ 4) :
      (do
        let bytes ← setSlot (lbaBytes c.lba) (← sub k 1) v
        return ({ c with lba := lbaOfBytes bytes }, m) : Checked (DiskController × Memory)) =
        .ok ({ c with lba := setLbaByte c.lba (k - 1) v }, m) := by
    have inside : k - 1 < 4 := by omega
    rw [sub_eq lower, ok_bind, setSlot_eq inside, ok_bind, lbaOfBytes_set c.lba v inside]
    rfl
  unfold writeRegisterM writeRegister
  generalize register.toNat = r
  match r with
  | 0 | 5 | 6 | _ + 8 => rfl
  | 1 => exact lba (by decide) (by decide)
  | 2 => exact lba (by decide) (by decide)
  | 3 => exact lba (by decide) (by decide)
  | 4 => exact lba (by decide) (by decide)
  | 7 => exact commandM_eq h pages v

end

end DiskController

end BankedZ80
