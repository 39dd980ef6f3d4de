/-!
# Slices and drive letters

A unit is divided into slices of equal size, and each slice of each loaded unit gets a drive letter,
in unit order, until the sixteen letters are used up.
-/

namespace BankedZ80

/-- Number of drive letters, `A` to `P`. -/
def maxDrives : Nat := 16

/-- A drive letter and the slice behind it. -/
structure Drive where
  letter : Char
  unit : Nat
  slice : Nat
deriving DecidableEq, Repr

/-- What decides how many letters a unit gets. -/
structure DriveSource where
  unit : Nat
  sliceCount : Nat
  sectors : Nat
deriving DecidableEq, Repr

/-- Slices each loaded unit gets, by the number of loaded units. -/
def slicesFor (loaded : Nat) : UInt8 :=
  match loaded with
  | 0 | 1 => 8
  | 2 => 4
  | _ => 2

/-- Slices that so many sectors can hold; a small image counts as one. -/
def sliceCapacity (sectors sectorsPerSlice : Nat) : Nat := max 1 (sectors / max 1 sectorsPerSlice)

/-- Slices of a unit that get a letter, as long as there are any left. -/
def DriveSource.usable (s : DriveSource) (sectorsPerSlice : Nat) : Nat :=
  min s.sliceCount (sliceCapacity s.sectors sectorsPerSlice)

/-- The drive letter with a given index. -/
def driveLetter (index : Nat) : Char := Char.ofNat (65 + index)

/-- Assign letters when the first `used` ones are taken. -/
def assignDrivesFrom (sectorsPerSlice used : Nat) : List DriveSource → List Drive
  | [] => []
  | s :: rest =>
    let count := min (s.usable sectorsPerSlice) (maxDrives - used)
    (List.range count).map (fun slice => ⟨driveLetter (used + slice), s.unit, slice⟩)
      ++ assignDrivesFrom sectorsPerSlice (used + count) rest

/-- Assign letters to the slices of units, in the order given. -/
def assignDrives (sectorsPerSlice : Nat) (sources : List DriveSource) : List Drive :=
  assignDrivesFrom sectorsPerSlice 0 sources

end BankedZ80
