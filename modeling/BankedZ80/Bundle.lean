import BankedZ80.Archive.Zip
import BankedZ80.Bundle.Manifest
import BankedZ80.Engine
import BankedZ80.Text.LowerCase

/-!
# Bundles

A machine in one archive: a manifest, a ROM image and disk images. Files are found by the last part
of their path, in lower case; of several such files the last one counts. The manifest and the ROM are
used up, so a disk cannot be either of them.

`LoadedBundle.install` checks everything first, so that a bundle that does not fit an engine leaves
it as it was.
-/

namespace BankedZ80

/-- A disk image with the unit it is assigned to. -/
structure BundleDisk where
  unit : Nat
  entry : DiskEntry
  image : ByteArray
deriving DecidableEq

/-- A bundle read into memory. -/
structure LoadedBundle where
  manifest : Manifest
  rom : ByteArray
  disks : List BundleDisk
deriving DecidableEq

namespace Bundle

/-- Name of the manifest inside a bundle. -/
def manifestName : String := "bundle.json"

/-- The part of a path after its last slash. -/
def afterLastSlash (path : List Char) : List Char :=
  (path.reverse.takeWhile (· ≠ '/')).reverse

/-- The name by which a file is found: the last part of its path, in lower case. -/
def baseName (path : String) : List Char := Text.lower (afterLastSlash path.toList)

/-- Files by the name they are found by. -/
abbrev Files := List (List Char × ByteArray)

/-- Put a file in, in place of any other of its name. -/
def Files.insert (files : Files) (name : List Char) (contents : ByteArray) : Files :=
  (name, contents) :: files.filter (·.1 ≠ name)

/-- The files of an archive; a later one replaces an earlier one of the same name. -/
def Files.ofEntries (entries : List Zip.Entry) : Files :=
  entries.foldl (fun files entry =>
    match entry.contents with
    | some contents => files.insert (baseName entry.name) contents
    | none => files) []

/-- Take a file out. -/
def Files.take? (files : Files) (name : List Char) : Option (ByteArray × Files) :=
  (files.lookup name).map fun contents => (contents, files.filter (·.1 ≠ name))

/-- Find a file, or fail for a reason. -/
def orFault {α : Type} (found : Option α) (fault : BundleFault) : Except MachineError α :=
  match found with
  | some a => .ok a
  | none => .error (.bundle fault)

/-- Find the image of a disk and put it with its unit. -/
def findDisk (files : Files) (unit : Nat) (entry : DiskEntry) : Except MachineError BundleDisk := do
  let image ← orFault (files.lookup (baseName entry.file)) (.missingDisk entry.file)
  return { unit, entry, image }

/-- Put a bundle together from the entries of its archive. -/
def ofEntries (entries : List Zip.Entry) : Except MachineError LoadedBundle := do
  let files := Files.ofEntries entries
  let (text, files) ← orFault (files.take? manifestName.toList) (.missingManifest manifestName)
  match Manifest.ofText? (Bytes.toList text) with
  | none => throw .json
  | some manifest =>
    let (rom, files) ← orFault (files.take? (baseName manifest.rom)) (.missingRom manifest.rom)
    let units ← assignUnits manifest.disks
    let disks ← (units.zip manifest.disks).mapM fun (unit, entry) => findDisk files unit entry
    return { manifest, rom, disks }

/-- Read a bundle from the bytes of its archive. -/
def load (archive : ByteArray) : Except MachineError LoadedBundle := do
  ofEntries (← Zip.entries archive)

end Bundle

namespace LoadedBundle

/-- The configuration that a bundle brings, or the default. -/
def config (b : LoadedBundle) : Config := b.manifest.config.getD {}

/-- Check the image of a disk. -/
def checkDisk (sectorSize : Nat) (d : BundleDisk) : Except MachineError Unit :=
  match DiskUnit.checkSize d.image.size sectorSize with
  | .ok () => .ok ()
  | .error _ => .error (.bundle (.diskSize d.entry.file d.image.size sectorSize))

/-- Check the boot option. -/
def checkBoot (b : LoadedBundle) : Except MachineError Unit :=
  match b.manifest.boot with
  | none => .ok ()
  | some s =>
    match BootOption.parse? s with
    | some _ => .ok ()
    | none => .error (.invalidBootOption s)

/-- Check everything that a machine of some configuration could refuse. -/
def check (b : LoadedBundle) (config : Config) : Except MachineError Unit := do
  Memory.checkRomSize b.rom.size config.maxRomSize
  for d in b.disks do
    checkDisk config.sectorSize d
  b.checkBoot

/-- Load ROM and disks into an engine, complete its setup and store the boot option. -/
def install (b : LoadedBundle) : EngineCalls Manifest := do
  b.check (← get).config
  EngineCalls.attempt (·.loadRom b.rom)
  for d in b.disks do
    EngineCalls.attempt (·.loadDisk d.unit d.image)
    EngineCalls.attempt (·.setManifest d.unit d.entry.manifest)
  EngineCalls.attempt (·.completeInit)
  match b.manifest.boot with
  | some s => EngineCalls.attempt (·.setSetting s)
  | none => pure ()
  return b.manifest

end LoadedBundle

end BankedZ80
