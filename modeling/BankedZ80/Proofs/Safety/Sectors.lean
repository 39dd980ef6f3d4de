import BankedZ80.Proofs.Disk.Command
import BankedZ80.Proofs.Disk.WellFormed
import BankedZ80.Proofs.Safety.Memory

/-!
# Units and sectors do not crash

The checked programs of a disk unit, then those of the controller on a single unit, in the order in
which they look at slots, lengths and ranges. In a well-formed controller they are refused when the
programs of the machine are, and for the same reason, and compute the same when they are not.
-/

namespace BankedZ80

open Checked

/-! ### Units -/

namespace DiskUnit

/-- Number of sectors. -/
def totalSectorsM (d : DiskUnit) : Checked UInt32 :=
  return (← div d.image.size d.sectorSize).toUInt32

/-- Check the length of an image. -/
def checkSizeM (length sectorSize : Nat) : Checked Unit := do
  if length = 0 then refusable (.error (.invalidDiskSize length sectorSize))
  else if (← mod length sectorSize) ≠ 0 then
    refusable (.error (.invalidDiskSize length sectorSize))
  else return ()

/-- Where a sector starts and stops, if it is there. -/
def rangeM (d : DiskUnit) (lba : UInt32) : Checked (Option (Nat × Nat)) := do
  if (← d.totalSectorsM) ≤ lba then return none
  else
    let start ← mul 64 lba.toNat d.sectorSize
    return some (start, ← add 64 start d.sectorSize)

/-- The bytes of a sector; the slot number is for the refusal. -/
def readSectorM (d : DiskUnit) (n : Nat) (lba : UInt32) : Checked ByteArray := do
  match ← d.rangeM lba with
  | some (start, stop) => slice d.image start stop
  | none => refusable (.error (.sectorOutOfRange n lba))

/-- Replace the bytes of a sector. -/
def writeSectorM (d : DiskUnit) (n : Nat) (lba : UInt32) (bytes : ByteArray) : Checked DiskUnit := do
  if bytes.size ≠ d.sectorSize then refusable (.error (.badSectorLength d.sectorSize bytes.size))
  else
    match ← d.rangeM lba with
    | some (start, stop) => return { d with image := ← fill d.image start stop bytes, dirty := true }
    | none => refusable (.error (.sectorOutOfRange n lba))

theorem checkSizeM_eq {length sectorSize : Nat} (pos : 0 < sectorSize) :
    checkSizeM length sectorSize = refusable (checkSize length sectorSize) := by
  unfold checkSizeM checkSize
  by_cases empty : length = 0
  · rw [if_pos empty, if_pos (.inl empty)]
  · rw [if_neg empty, mod_eq pos, ok_bind]
    by_cases rest : length % sectorSize = 0
    · rw [if_neg (not_not_intro rest), if_neg fun h => h.elim empty fun ne => ne rest]
      rfl
    · rw [if_pos rest, if_pos (.inr rest)]

section

variable {d : DiskUnit} {size : Nat} (h : d.WellFormed size) (pos : 0 < size) (le : size ≤ 4096)
include h pos

theorem totalSectorsM_eq : d.totalSectorsM = .ok d.totalSectors := by
  have pos : 0 < d.sectorSize := by
    rw [h.sectorSize_eq]
    exact pos
  rw [totalSectorsM, div_eq pos]
  rfl

include le

theorem rangeM_eq (lba : UInt32) :
    d.rangeM lba = .ok (if d.totalSectors ≤ lba then none
      else some (lba.toNat * d.sectorSize, lba.toNat * d.sectorSize + d.sectorSize)) := by
  rw [rangeM, totalSectorsM_eq h pos, ok_bind]
  split
  · rfl
  · -- Neither end of a sector depends on how long the image is.
    have lba_lt := lba.toNat_lt
    have size_le : d.sectorSize ≤ 4096 := h.sectorSize_eq ▸ le
    have start : lba.toNat * d.sectorSize ≤ 2 ^ 32 * 4096 :=
      Nat.mul_le_mul (Nat.le_of_lt lba_lt) size_le
    rw [mul_eq (by omega), ok_bind, add_eq (by omega)]
    rfl

theorem readSectorM_eq (n : Nat) (lba : UInt32) :
    d.readSectorM n lba =
      refusable (if d.totalSectors ≤ lba then .error (.sectorOutOfRange n lba)
        else .ok (d.sectorBytes lba)) := by
  rw [readSectorM, rangeM_eq h pos le, ok_bind]
  by_cases missing : d.totalSectors ≤ lba
  · rw [if_pos missing, if_pos missing]
  · have inside := sector_end_le (UInt32.not_le.1 missing)
    rw [if_neg missing, if_neg missing]
    exact slice_eq (Nat.le_add_right _ _) inside

theorem writeSectorM_eq (n : Nat) (lba : UInt32) (bytes : ByteArray) :
    d.writeSectorM n lba bytes =
      refusable (if bytes.size ≠ d.sectorSize then .error (.badSectorLength d.sectorSize bytes.size)
        else if d.totalSectors ≤ lba then .error (.sectorOutOfRange n lba)
        else .ok (d.putSector lba bytes)) := by
  unfold writeSectorM
  by_cases length : bytes.size = d.sectorSize
  · rw [if_neg (not_not_intro length), if_neg (not_not_intro length), rangeM_eq h pos le, ok_bind]
    by_cases missing : d.totalSectors ≤ lba
    · rw [if_pos missing, if_pos missing]
    · have inside := sector_end_le (UInt32.not_le.1 missing)
      have filled : fill d.image (lba.toNat * d.sectorSize) (lba.toNat * d.sectorSize + d.sectorSize)
          bytes = .ok (Bytes.overwrite d.image (lba.toNat * d.sectorSize) bytes) := by
        rw [← length] at inside ⊢
        exact fill_eq inside
      rw [if_neg missing, if_neg missing]
      dsimp only
      rw [filled]
      rfl
  · rw [if_pos length, if_pos length]

end

end DiskUnit

/-! ### The controller -/

namespace DiskController

variable (c : DiskController) (n : Nat) (lba : UInt32) (m : Memory) (address : UInt16)

/-- The unit in a slot. -/
def unitM : Checked DiskUnit := do
  if n < maxUnits then
    match ← slot c.units n with
    | some d => return d
    | none => refusable (.error (.noMedia n))
  else refusable (.error (.invalidUnit n))

/-- The bytes of a sector. -/
def readSectorM : Checked ByteArray := do (← c.unitM n).readSectorM n lba

/-- Replace the bytes of a sector, and look whether the write is to be warned about. -/
def writeSectorM (bytes : ByteArray) : Checked DiskController := do
  let d ← (← c.unitM n).writeSectorM n lba bytes
  let silenced ← if d.manifest then slot c.silenced n else pure true
  return { c.modifyUnit n fun _ => d with
    pendingWarning := if silenced then c.pendingWarning else some n }

/-- Copy a sector into memory. -/
def readIntoM : Checked Memory := do m.loadAtM address (Bytes.toList (← c.readSectorM n lba))

/-- Copy memory into a sector. -/
def writeFromM : Checked DiskController := do
  c.writeSectorM n lba (Bytes.ofList (← m.readBlockM address c.sectorSize))

/-- Move a sector between a disk and the memory. -/
def moveSectorM (write : Bool) : Checked (DiskController × Memory) := do
  if write then return (← c.writeFromM n lba m address, m)
  else return (c, ← c.readIntoM n lba m address)

/-- Load an image into a slot. -/
def loadM (image : ByteArray) : Checked DiskController := do
  refusable (checkUnit n)
  DiskUnit.checkSizeM image.size c.sectorSize
  let units ← setSlot c.units n (some { image, sectorSize := c.sectorSize })
  return { c with units }.rebalance

/-- Empty a slot. -/
def unloadM : Checked (Option ByteArray × DiskController) := do
  refusable (checkUnit n)
  match ← slot c.units n with
  | some d => return (some d.image, { c with units := ← setSlot c.units n none }.rebalance)
  | none => return (none, c)

/-- Set the slice count of a unit. -/
def setSliceCountM (count : UInt8) : Checked DiskController := do
  let d ← c.unitM n
  refusable (DiskUnit.checkSliceCount count)
  return c.modifyUnit n fun _ => { d with slices := count }

/-- Mark a unit as a catalog image, or not. -/
def setManifestM (manifest : Bool) : Checked DiskController := do
  let d ← c.unitM n
  return c.modifyUnit n fun _ => { d with manifest }

/-- Silence the write warning of a slot, or not. -/
def setSilencedM (silenced : Bool) : Checked DiskController := do
  refusable (checkUnit n)
  return { c with silenced := ← setSlot c.silenced n silenced }

/-- Take a unit's contents as saved. -/
def clearDirtyM : Checked DiskController := do
  match ← attempt (c.unitM n) with
  | .ok d => return c.modifyUnit n fun _ => { d with dirty := false }
  | .error _ => return c

variable {c n}

theorem unitM_eq : c.unitM n = refusable (c.unit n) := by
  unfold unitM unit
  split
  · next there =>
    rw [slot_eq there, ok_bind]
    cases c.units[n] <;> rfl
  · rfl

theorem unit?_eq_toOption (c : DiskController) (n : Nat) : c.unit? n = (c.unit n).toOption := by
  unfold unit? unit
  split
  · next there =>
    rw [Vector.getElem?_eq_getElem there, Option.join_some]
    cases c.units[n] <;> rfl
  · next missing =>
    rw [Vector.getElem?_eq_none (Nat.le_of_not_lt missing)]
    rfl

theorem lt_of_unit {d : DiskUnit} (there : c.unit n = .ok d) : n < maxUnits := by
  unfold unit at there
  split at there
  · assumption
  · cases there

/-- A unit that is there may be replaced by what is made of it. -/
theorem modifyUnit_const {d : DiskUnit} (there : c.unit n = .ok d) (f : DiskUnit → DiskUnit) :
    (c.modifyUnit n fun _ => f d) = c.modifyUnit n f := by
  have slot := unit?_of_unit c n there
  have same : modifySlot c.units n (Option.map fun _ => f d) =
      modifySlot c.units n (Option.map f) := by
    ext i hi : 1
    rw [getElem_modifySlot, getElem_modifySlot]
    split
    · next here =>
      rw [unit?, here, Vector.getElem?_eq_getElem hi, Option.join_some] at slot
      rw [slot]
      rfl
    · rfl
  rw [modifyUnit, same]
  rfl

theorem setSlot_units {α : Type} {k : Nat} (v : Vector α k) {i : Nat} (h : i < k) (a : α) :
    setSlot v i a = .ok (modifySlot v i fun _ => a) := by
  have same : v.set i a = modifySlot v i fun _ => a := by
    ext j hj : 1
    rw [getElem_modifySlot, Vector.getElem_set]
  rw [setSlot_eq h, same]

theorem readSector_of_unit_eq {d : DiskUnit} (there : c.unit n = .ok d) (lba : UInt32) :
    c.readSector n lba = if d.totalSectors ≤ lba then .error (.sectorOutOfRange n lba)
      else .ok (d.sectorBytes lba) := by
  split
  · next missing =>
    rw [readSector, checkRead_of_unit c n lba there, if_pos missing]
    rfl
  · next inside => exact readSector_of_unit c n lba (unit?_of_unit c n there) (UInt32.not_le.1 inside)

theorem writeSector_of_unit {d : DiskUnit} (there : c.unit n = .ok d) (lba : UInt32)
    (bytes : ByteArray) :
    c.writeSector n lba bytes =
      if bytes.size ≠ d.sectorSize then .error (.badSectorLength d.sectorSize bytes.size)
      else if d.totalSectors ≤ lba then .error (.sectorOutOfRange n lba)
      else .ok (c.putSector n lba bytes) := by
  rw [writeSector, checkWrite_of_unit c n lba there, checkRead_of_unit c n lba there]
  split
  · rfl
  · split <;> rfl

section

variable (h : c.WellFormed)
include h

theorem readSectorM_eq (n : Nat) (lba : UInt32) :
    c.readSectorM n lba = refusable (c.readSector n lba) := by
  rw [readSectorM, unitM_eq]
  cases there : c.unit n with
  | error e =>
      rw [readSector, checkRead_of_error c n lba there]
      rfl
  | ok d =>
      have unit := h.units n d (unit?_of_unit c n there)
      rw [readSector_of_unit_eq there]
      exact DiskUnit.readSectorM_eq unit h.sectorSize_pos h.sectorSize_le n lba

theorem writeSectorM_eq (n : Nat) (lba : UInt32) (bytes : ByteArray) :
    c.writeSectorM n lba bytes = refusable (c.writeSector n lba bytes) := by
  rw [writeSectorM, unitM_eq]
  cases there : c.unit n with
  | error e =>
      rw [writeSector, checkWrite_of_error c n lba there]
      rfl
  | ok d =>
      have slot := unit?_of_unit c n there
      rw [refusable_ok, ok_bind, DiskUnit.writeSectorM_eq (h.units n d slot) h.sectorSize_pos
        h.sectorSize_le, writeSector_of_unit there]
      split
      · rfl
      · split
        · rfl
        · have inside := lt_of_unit there
          have warns : c.warnsOf n = (d.manifest && !c.silenced[n]) := by
            rw [warnsOf, slot, Vector.getElem?_eq_getElem inside]
            rfl
          have manifest : (d.putSector lba bytes).manifest = d.manifest := rfl
          rw [refusable_ok, ok_bind, modifyUnit_const there (·.putSector lba bytes), putSector_eq,
            warns, manifest, slot_eq inside]
          cases d.manifest with
          | false => rfl
          | true => cases c.silenced[n] <;> rfl

variable {m : Memory} (pages : m.WellFormed)
include pages

theorem readIntoM_eq (n : Nat) (lba : UInt32) (address : UInt16) :
    c.readIntoM n lba m address = refusable (c.readInto n lba m address) := by
  rw [readIntoM, readSectorM_eq h, readInto, readSector]
  cases c.checkRead n lba with
  | error e => rfl
  | ok u => exact m.loadAtM_eq pages address _

theorem writeFromM_eq (n : Nat) (lba : UInt32) (address : UInt16) :
    c.writeFromM n lba m address = refusable (c.writeFrom n lba m address) := by
  have length := DiskController.size_readBlock m address c.sectorSize
  rw [writeFromM, Memory.readBlockM_eq pages, ok_bind, writeSectorM_eq h, writeFrom, writeSector,
    length]
  rfl

theorem moveSectorM_eq (write : Bool) (n : Nat) (lba : UInt32) (address : UInt16) :
    c.moveSectorM n lba m address write =
      refusable ((c.checkSector write n lba).map fun _ =>
        (c.disksMoved write n lba m address, c.memoryMoved write n lba m address)) := by
  unfold moveSectorM
  cases write with
  | true =>
      rw [if_pos rfl, writeFromM_eq h pages, writeFrom, checkSector, if_pos rfl]
      cases c.checkWrite n lba c.sectorSize <;> rfl
  | false =>
      rw [if_neg nofun, readIntoM_eq h pages, readInto, checkSector, if_neg nofun]
      cases c.checkRead n lba <;> rfl

omit pages

theorem loadM_eq (n : Nat) (image : ByteArray) :
    c.loadM n image = refusable (c.load n image) := by
  rw [loadM, load]
  cases hn : checkUnit n with
  | error e => rfl
  | ok u =>
      have there := checkUnit_eq_ok.1 hn
      rw [refusable_ok, ok_bind, DiskUnit.checkSizeM_eq h.sectorSize_pos, setSlot_units _ there]
      unfold DiskUnit.ofImage
      cases DiskUnit.checkSize image.size c.sectorSize <;> rfl

omit h

theorem unloadM_eq (n : Nat) : c.unloadM n = refusable (c.unload n) := by
  rw [unloadM, unload]
  cases hn : checkUnit n with
  | error e => rfl
  | ok u =>
      have there := checkUnit_eq_ok.1 hn
      rw [refusable_ok, ok_bind, slot_eq there, ok_bind, setSlot_units _ there, unit?,
        Vector.getElem?_eq_getElem there, Option.join_some]
      cases c.units[n] <;> rfl

theorem setSliceCountM_eq (n : Nat) (count : UInt8) :
    c.setSliceCountM n count = refusable (c.setSliceCount n count) := by
  rw [setSliceCountM, unitM_eq, setSliceCount]
  cases there : c.unit n with
  | error e => rfl
  | ok d =>
      rw [refusable_ok, ok_bind, modifyUnit_const there ({ · with slices := count })]
      cases DiskUnit.checkSliceCount count <;> rfl

theorem setManifestM_eq (n : Nat) (manifest : Bool) :
    c.setManifestM n manifest = refusable (c.setManifest n manifest) := by
  rw [setManifestM, unitM_eq, setManifest]
  cases there : c.unit n with
  | error e => rfl
  | ok d =>
      rw [refusable_ok, ok_bind, modifyUnit_const there ({ · with manifest })]
      rfl

theorem setSilencedM_eq (n : Nat) (silenced : Bool) :
    c.setSilencedM n silenced = refusable (c.setSilenced n silenced) := by
  rw [setSilencedM, setSilenced]
  cases hn : checkUnit n with
  | error e => rfl
  | ok u =>
      rw [refusable_ok, ok_bind, setSlot_units _ (checkUnit_eq_ok.1 hn)]
      rfl

theorem clearDirtyM_eq (n : Nat) : c.clearDirtyM n = .ok (c.clearDirty n) := by
  rw [clearDirtyM, unitM_eq, attempt_refusable, ok_bind, clearDirty]
  cases there : c.unit n with
  | error e =>
      rw [modifyUnit_of_error c n there]
      rfl
  | ok d =>
      dsimp only
      rw [modifyUnit_const there ({ · with dirty := false })]
      rfl

end

end DiskController

end BankedZ80
