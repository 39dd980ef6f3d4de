import BankedZ80.Bytes
import BankedZ80.Error

/-!
# One disk image

A disk unit is an image of a whole number of sectors, with the slice count, flags and seek position
that belong to it. Sectors are numbered by 32-bit logical block addresses.
-/

namespace BankedZ80

/-- Number of disk unit slots. -/
def maxUnits : Nat := 16

/-- Largest slice count that a unit accepts. -/
def maxSlices : Nat := 128

/-- A disk image in a slot of the controller. -/
@[ext] structure DiskUnit where
  image : ByteArray
  sectorSize : Nat
  slices : UInt8 := 1
  /-- A catalog image, whose changes are not kept. -/
  manifest : Bool := false
  /-- Written to since it was loaded or last saved. -/
  dirty : Bool := false
  /-- Sector at which the next firmware transfer starts. -/
  seek : UInt32 := 0
deriving DecidableEq

namespace DiskUnit

/-- Check the length of an image: some whole sectors. -/
def checkSize (length sectorSize : Nat) : Except MachineError Unit :=
  if length = 0 ∨ length % sectorSize ≠ 0 then .error (.invalidDiskSize length sectorSize)
  else .ok ()

/-- A fresh unit around an image; a wrong length is refused. -/
def ofImage (image : ByteArray) (sectorSize : Nat) : Except MachineError DiskUnit := do
  checkSize image.size sectorSize
  return { image, sectorSize }

/-- Number of sectors, modulo 2³². -/
def totalSectors (d : DiskUnit) : UInt32 := (d.image.size / d.sectorSize).toUInt32

/-- The bytes of a sector that is there. -/
def sectorBytes (d : DiskUnit) (lba : UInt32) : ByteArray :=
  let start := lba.toNat * d.sectorSize
  d.image.extract start (start + d.sectorSize)

/-- Replace the bytes of a sector that is there; the unit is dirty from then on. -/
def putSector (d : DiskUnit) (lba : UInt32) (bytes : ByteArray) : DiskUnit :=
  { d with image := Bytes.overwrite d.image (lba.toNat * d.sectorSize) bytes, dirty := true }

/-- Check a slice count. -/
def checkSliceCount (count : UInt8) : Except MachineError Unit :=
  if count.toNat = 0 ∨ count.toNat > maxSlices then .error (.invalidSliceCount count) else .ok ()

end DiskUnit

end BankedZ80
