import BankedZ80.Disk.Drive
import BankedZ80.Disk.Unit
import BankedZ80.Memory
import BankedZ80.Word

/-!
# Disk controller

Sixteen slots, each empty or holding a disk unit. The guest reaches them through a register file or
through the firmware's disk calls; the host loads, unloads and flags images.

| Register | Read | Write |
|---|---|---|
| 0 | selected unit | select unit |
| 1-4 | block address, low byte first | block address |
| 5-6 | memory address, low byte first | memory address |
| 7 | status of the last command | command |
| 8 | slice count of the selected unit | - |
| 9 | 1 if the selected unit is loaded | - |

Every sector write goes through `putSector`, which alone marks a unit dirty and raises the warning
about writes to catalog images. What can fail is checked first: `checkRead` and `checkWrite` say when
a sector can be transferred, and the transfer itself cannot fail.
-/

namespace BankedZ80

/-- Change one entry of a vector; an index past the end changes nothing. -/
def modifySlot {α : Type} {n : Nat} (v : Vector α n) (i : Nat) (f : α → α) : Vector α n :=
  ⟨v.toArray.modify i f, by simp⟩

theorem getElem_modifySlot {α : Type} {n : Nat} (v : Vector α n) (i j : Nat) (f : α → α)
    (h : j < n) : (modifySlot v i f)[j] = if i = j then f v[j] else v[j] := by
  simp [modifySlot, Array.getElem_modify]

/-- All units, what is to be told about them, and the guest's registers. -/
@[ext] structure DiskController where
  units : Vector (Option DiskUnit) maxUnits := Vector.replicate maxUnits none
  /-- Slots whose write warning is silenced. -/
  silenced : Vector Bool maxUnits := Vector.replicate maxUnits false
  /-- Unit of the latest write that is to be warned about. -/
  pendingWarning : Option Nat := none
  sectorSize : Nat
  sectorsPerSlice : UInt32
  /-- Set the slice counts anew whenever the set of loaded units changes. -/
  autoSlices : Bool
  selected : UInt8 := 0
  lba : UInt32 := 0
  address : UInt16 := 0
  status : UInt8 := 0
deriving DecidableEq

/-- Outcome of a register command, as the status register shows it. -/
inductive DiskStatus where
  | ok
  | noMedia
  | outOfRange
  | badUnit
  | badCommand
deriving DecidableEq, Repr

/-- Code of a status. -/
def DiskStatus.code : DiskStatus → UInt8
  | ok => 0
  | noMedia => 1
  | outOfRange => 2
  | badUnit => 3
  | badCommand => 4

/-- The status that reports an error. -/
def DiskStatus.ofError : MachineError → DiskStatus
  | .invalidUnit _ => badUnit
  | .noMedia _ => noMedia
  | .sectorOutOfRange _ _ => outOfRange
  | _ => badCommand

namespace DiskController

/-! ### Slots -/

/-- Check that a slot number exists. -/
def checkUnit (n : Nat) : Except MachineError Unit :=
  if n < maxUnits then .ok () else .error (.invalidUnit n)

/-- The unit in a slot. -/
def unit (c : DiskController) (n : Nat) : Except MachineError DiskUnit :=
  if h : n < maxUnits then
    match c.units[n] with
    | some d => .ok d
    | none => .error (.noMedia n)
  else .error (.invalidUnit n)

/-- The unit in a slot, if there is one. -/
def unit? (c : DiskController) (n : Nat) : Option DiskUnit := (c.units[n]?).join

/-- Change the unit in a slot, if there is one. -/
def modifyUnit (c : DiskController) (n : Nat) (f : DiskUnit → DiskUnit) : DiskController :=
  { c with units := modifySlot c.units n (Option.map f) }

/-- Is there a unit in a slot? -/
def isLoaded (c : DiskController) (n : Nat) : Bool := (c.unit? n).isSome

/-- Slot numbers of the loaded units, ascending. -/
def loadedUnits (c : DiskController) : List Nat := (List.range maxUnits).filter c.isLoaded

/-- Number of loaded units. -/
def loadedCount (c : DiskController) : Nat := c.loadedUnits.length

/-- Set the slice count of every loaded unit by their number, if that is wanted. -/
def rebalance (c : DiskController) : DiskController :=
  if c.autoSlices then
    let slices := slicesFor c.loadedCount
    { c with units := c.units.map (Option.map ({ · with slices })) }
  else c

/-- Load an image into a slot, in place of any other; a wrong length leaves the slot alone. -/
def load (c : DiskController) (n : Nat) (image : ByteArray) :
    Except MachineError DiskController := do
  checkUnit n
  let d ← DiskUnit.ofImage image c.sectorSize
  return { c with units := modifySlot c.units n fun _ => some d }.rebalance

/-- Empty a slot and hand its image back. -/
def unload (c : DiskController) (n : Nat) :
    Except MachineError (Option ByteArray × DiskController) := do
  checkUnit n
  match c.unit? n with
  | some d => return (some d.image, { c with units := modifySlot c.units n fun _ => none }.rebalance)
  | none => return (none, c)

/-- Set the slice count of a unit. -/
def setSliceCount (c : DiskController) (n : Nat) (count : UInt8) :
    Except MachineError DiskController := do
  let _ ← c.unit n
  DiskUnit.checkSliceCount count
  return c.modifyUnit n ({ · with slices := count })

/-- The slice count of a unit. -/
def sliceCount (c : DiskController) (n : Nat) : Option UInt8 := (c.unit? n).map (·.slices)

/-! ### Sectors -/

/-- Check that a sector is there. -/
def checkRead (c : DiskController) (n : Nat) (lba : UInt32) : Except MachineError Unit := do
  let d ← c.unit n
  if d.totalSectors ≤ lba then throw (.sectorOutOfRange n lba)

/-- Check that so many bytes can be written to a sector. -/
def checkWrite (c : DiskController) (n : Nat) (lba : UInt32) (length : Nat) :
    Except MachineError Unit := do
  let d ← c.unit n
  if length ≠ d.sectorSize then throw (.badSectorLength d.sectorSize length)
  c.checkRead n lba

/-- The bytes of a sector that is there. -/
def sectorBytes (c : DiskController) (n : Nat) (lba : UInt32) : ByteArray :=
  ((c.unit? n).map (·.sectorBytes lba)).getD .empty

/-- Is a write to a unit to be warned about? -/
def warnsOf (c : DiskController) (n : Nat) : Bool :=
  ((c.unit? n).map (·.manifest)).getD false && !((c.silenced[n]?).getD false)

/-- Replace the bytes of a sector that is there, and note a warning if the unit is a catalog image
whose warning is not silenced. -/
def putSector (c : DiskController) (n : Nat) (lba : UInt32) (bytes : ByteArray) : DiskController :=
  let c := if c.warnsOf n then { c with pendingWarning := some n } else c
  c.modifyUnit n (·.putSector lba bytes)

/-- The bytes of a sector. -/
def readSector (c : DiskController) (n : Nat) (lba : UInt32) : Except MachineError ByteArray := do
  c.checkRead n lba
  return c.sectorBytes n lba

/-- Replace the bytes of a sector. -/
def writeSector (c : DiskController) (n : Nat) (lba : UInt32) (bytes : ByteArray) :
    Except MachineError DiskController := do
  c.checkWrite n lba bytes.size
  return c.putSector n lba bytes

/-- Copy a sector that is there into memory. -/
def copyOut (c : DiskController) (n : Nat) (lba : UInt32) (m : Memory) (address : UInt16) : Memory :=
  m.loadAt address (Bytes.toList (c.sectorBytes n lba))

/-- Copy memory into a sector that is there. -/
def copyIn (c : DiskController) (n : Nat) (lba : UInt32) (m : Memory) (address : UInt16) :
    DiskController :=
  c.putSector n lba (Bytes.ofList (m.readBlock address c.sectorSize))

/-- Copy a sector into memory. -/
def readInto (c : DiskController) (n : Nat) (lba : UInt32) (m : Memory) (address : UInt16) :
    Except MachineError Memory := do
  c.checkRead n lba
  return c.copyOut n lba m address

/-- Copy memory into a sector. -/
def writeFrom (c : DiskController) (n : Nat) (lba : UInt32) (m : Memory) (address : UInt16) :
    Except MachineError DiskController := do
  c.checkWrite n lba c.sectorSize
  return c.copyIn n lba m address

/-! ### Flags -/

/-- Has a unit been written to? -/
def isDirty (c : DiskController) (n : Nat) : Bool := ((c.unit? n).map (·.dirty)).getD false

/-- Take a unit's contents as saved. -/
def clearDirty (c : DiskController) (n : Nat) : DiskController :=
  c.modifyUnit n ({ · with dirty := false })

/-- The image of a unit. -/
def image (c : DiskController) (n : Nat) : Option ByteArray := (c.unit? n).map (·.image)

/-- Mark a unit as a catalog image, or not. -/
def setManifest (c : DiskController) (n : Nat) (manifest : Bool) :
    Except MachineError DiskController := do
  let _ ← c.unit n
  return c.modifyUnit n ({ · with manifest })

/-- Silence the write warning of a slot, or not; the slot may be empty. -/
def setSilenced (c : DiskController) (n : Nat) (silenced : Bool) :
    Except MachineError DiskController := do
  checkUnit n
  return { c with silenced := modifySlot c.silenced n fun _ => silenced }

/-- Silence the write warnings of all slots, or none. -/
def setAllSilenced (c : DiskController) (silenced : Bool) : DiskController :=
  { c with silenced := Vector.replicate maxUnits silenced }

/-- Is the write warning of a slot silenced? -/
def isSilenced (c : DiskController) (n : Nat) : Bool := (c.silenced[n]?).getD false

/-- The pending write warning, and the controller without it. -/
def takeWarning (c : DiskController) : Option Nat × DiskController :=
  (c.pendingWarning, { c with pendingWarning := none })

/-! ### Seek positions -/

/-- The sector at which the next firmware transfer of a unit starts. -/
def seek (c : DiskController) (n : Nat) : UInt32 := ((c.unit? n).map (·.seek)).getD 0

/-- Set the seek position of a unit. -/
def setSeek (c : DiskController) (n : Nat) (lba : UInt32) : DiskController :=
  c.modifyUnit n ({ · with seek := lba })

/-! ### Drives -/

/-- The loaded units with what decides their letters. -/
def driveSources (c : DiskController) : List DriveSource :=
  (List.range maxUnits).filterMap fun n =>
    (c.unit? n).map fun d => ⟨n, d.slices.toNat, d.totalSectors.toNat⟩

/-- The drive letters of the loaded units. -/
def driveMap (c : DiskController) : List Drive := assignDrives c.sectorsPerSlice.toNat c.driveSources

/-- The absolute block address of a block within a slice. -/
def sliceLba (c : DiskController) (n : Nat) (slice : UInt8) (lba : UInt32) :
    Except MachineError UInt32 := do
  let d ← c.unit n
  if d.slices ≤ slice ∨ c.sectorsPerSlice ≤ lba then throw (.sectorOutOfRange n lba)
  let absolute := slice.toNat * c.sectorsPerSlice.toNat + lba.toNat
  if absolute < 2 ^ 32 then
    if absolute < d.totalSectors.toNat then return absolute.toUInt32
    else throw (.sectorOutOfRange n absolute.toUInt32)
  else throw (.sectorOutOfRange n lba)

/-! ### Registers -/

/-- Clear the register file and all seek positions; images and flags stay. -/
def resetRegisters (c : DiskController) : DiskController :=
  { c with
    selected := 0, lba := 0, address := 0, status := 0
    units := c.units.map (Option.map ({ · with seek := 0 })) }

/-- A byte of a block address, the lowest first. -/
def lbaByte (lba : UInt32) (i : Nat) : UInt8 := (lba.toNat / 256 ^ i).toUInt8

/-- Replace a byte of a block address. -/
def setLbaByte (lba : UInt32) (i : Nat) (v : UInt8) : UInt32 :=
  (lba.toNat - (lbaByte lba i).toNat * 256 ^ i + v.toNat * 256 ^ i).toUInt32

/-- Guest read of a register. -/
def readRegister (c : DiskController) (register : UInt8) : UInt8 :=
  match register.toNat with
  | 0 => c.selected
  | 1 => lbaByte c.lba 0
  | 2 => lbaByte c.lba 1
  | 3 => lbaByte c.lba 2
  | 4 => lbaByte c.lba 3
  | 5 => lowByte c.address
  | 6 => highByte c.address
  | 7 => c.status
  | 8 => (c.sliceCount c.selected.toNat).getD 0
  | 9 => if c.isLoaded c.selected.toNat then 1 else 0
  | _ => 0xFF

/-- Move the block and memory address one sector on. -/
def advance (c : DiskController) : DiskController :=
  { c with lba := c.lba + 1, address := c.address + c.sectorSize.toUInt16 }

/-- Check that a register command can be carried out. -/
def checkCommand (c : DiskController) (command : UInt8) : Except MachineError Unit :=
  let n := c.selected.toNat
  match command.toNat with
  | 1 => c.checkRead n c.lba
  | 2 => c.checkWrite n c.lba c.sectorSize
  | _ => do
    let _ ← c.unit n
    return ()

/-- Carry out a register command that passed its check: 1 reads a sector, 2 writes one, 3 puts the
number of sectors into the block address. -/
def runCommand (c : DiskController) (command : UInt8) (m : Memory) : DiskController × Memory :=
  let n := c.selected.toNat
  match command.toNat with
  | 1 =>
    let m := c.copyOut n c.lba m c.address
    (c.advance, m)
  | 2 => ((c.copyIn n c.lba m c.address).advance, m)
  | _ => ({ c with lba := ((c.unit? n).map (·.totalSectors)).getD 0 }, m)

/-- Carry out a register command and show its outcome in the status register; a failed command has
no other effect. -/
def command (c : DiskController) (command : UInt8) (m : Memory) : DiskController × Memory :=
  if 1 ≤ command ∧ command ≤ 3 then
    match c.checkCommand command with
    | .ok () =>
      let (c, m) := c.runCommand command m
      ({ c with status := DiskStatus.ok.code }, m)
    | .error e => ({ c with status := (DiskStatus.ofError e).code }, m)
  else ({ c with status := DiskStatus.badCommand.code }, m)

/-- Guest write of a register. -/
def writeRegister (c : DiskController) (register v : UInt8) (m : Memory) :
    DiskController × Memory :=
  match register.toNat with
  | 0 => ({ c with selected := v }, m)
  | 1 => ({ c with lba := setLbaByte c.lba 0 v }, m)
  | 2 => ({ c with lba := setLbaByte c.lba 1 v }, m)
  | 3 => ({ c with lba := setLbaByte c.lba 2 v }, m)
  | 4 => ({ c with lba := setLbaByte c.lba 3 v }, m)
  | 5 => ({ c with address := word (highByte c.address) v }, m)
  | 6 => ({ c with address := word v (lowByte c.address) }, m)
  | 7 => c.command v m
  | _ => (c, m)

end DiskController

end BankedZ80
