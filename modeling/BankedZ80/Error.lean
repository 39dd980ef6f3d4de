import BankedZ80.Text.Quoted

/-!
# Causes of failure

`MachineError` lists why a call on the machine, or the reading of a file for it, can fail;
`MachineError.message` is the one place where the wording is kept. Faults of the configuration and of
a bundle have a type of their own each.
-/

namespace BankedZ80

/-- What is wrong with a configuration, apart from its ports. -/
inductive ConfigFault where
  | emptyBatch
  | sectorSize (size : Nat)
  | ramSize (size : Nat)
  | tooManyBanks
  | maxRomSize (size : Nat)
  | emptySlice
  | sliceTooLarge (sectors slices : Nat)
deriving DecidableEq, Repr

/-- What is wrong with a bundle. -/
inductive BundleFault where
  | missingManifest (file : String)
  | missingRom (file : String)
  | missingDisk (file : String)
  | unitTaken (unit : Nat)
  | tooManyDisks (limit : Nat)
  /-- A disk image of the bundle is not a whole number of sectors. -/
  | diskSize (file : String) (length sectorSize : Nat)
deriving DecidableEq, Repr

/-- Why the machine was asked too early, or too late. -/
inductive Unreadiness where
  | noRom
  | shared
deriving DecidableEq, Repr

/-- Why a call failed. -/
inductive MachineError where
  | invalidRomSize (length limit : Nat)
  | invalidDiskSize (length sectorSize : Nat)
  | invalidUnit (unit : Nat)
  | noMedia (unit : Nat)
  | sectorOutOfRange (unit : Nat) (lba : UInt32)
  | badSectorLength (expected got : Nat)
  | invalidSliceCount (count : UInt8)
  | invalidBootOption (text : String)
  | notReady (reason : Unreadiness)
  | invalidConfig (fault : ConfigFault)
  | portConflict (port : UInt8)
  | lockPoisoned
  | bundle (fault : BundleFault)
  /-- A file could not be read or written, or an archive entry is damaged. -/
  | file
  /-- The archive's structure cannot be read. -/
  | archive
  /-- A text is not the JSON that was expected. -/
  | json
deriving DecidableEq, Repr

/-- The wording of a configuration fault. -/
def ConfigFault.message : ConfigFault → String
  | emptyBatch => "batchInstructions must be > 0"
  | sectorSize n => s!"sectorSize {n} must be a power of two between 128 and 4096"
  | ramSize n => s!"ramSize {n} must be a multiple of 32 KiB and at least 64 KiB"
  | tooManyBanks => "at most 128 banks of ROM or RAM"
  | maxRomSize n => s!"maxRomSize {n} must be a non-zero multiple of 32 KiB"
  | emptySlice => "sectorsPerSlice must be > 0"
  | sliceTooLarge n slices => s!"sectorsPerSlice {n} is too large for {slices} slices"

/-- The wording of a wrong disk image length. -/
def diskSizeMessage (length sectorSize : Nat) : String :=
  s!"Invalid disk image size: {length} bytes (not a non-zero multiple of {sectorSize})"

/-- The wording of a bundle fault. -/
def BundleFault.message : BundleFault → String
  | missingManifest file => s!"no {file} in bundle"
  | missingRom file => s!"ROM {Text.quoted file} not in bundle"
  | missingDisk file => s!"disk {Text.quoted file} not in bundle"
  | unitTaken unit => s!"unit {unit} assigned twice"
  | tooManyDisks limit => s!"more than {limit} disks"
  | diskSize file length size => s!"disk {Text.quoted file}: {diskSizeMessage length size}"

/-- The wording of an unreadiness. -/
def Unreadiness.message : Unreadiness → String
  | noRom => "no ROM loaded"
  | shared => "engine still shared"

/-- A byte as two upper-case hexadecimal digits. -/
def hexByte (b : UInt8) : String :=
  let digit (n : Nat) : Char := if n < 10 then Char.ofNat (48 + n) else Char.ofNat (55 + n)
  String.ofList [digit (b.toNat / 16), digit (b.toNat % 16)]

/-- The wording of an error. -/
def MachineError.message : MachineError → String
  | invalidRomSize length limit =>
    s!"Invalid ROM image size: {length} bytes (expected a non-zero multiple of 32 KiB up to {limit})"
  | invalidDiskSize length size => diskSizeMessage length size
  | invalidUnit unit => s!"Invalid disk unit: {unit}"
  | noMedia unit => s!"No media in disk unit {unit}"
  | sectorOutOfRange unit lba => s!"Sector {lba.toNat} out of range on unit {unit}"
  | badSectorLength expected got => s!"Bad sector length: expected {expected}, got {got}"
  | invalidSliceCount count => s!"Invalid slice count: {count.toNat}"
  | invalidBootOption text => s!"Invalid boot option: {Text.quoted text}"
  | notReady reason => s!"Engine not ready: {reason.message}"
  | invalidConfig fault => s!"Invalid configuration: {fault.message}"
  | portConflict port => s!"I/O port 0x{hexByte port} mapped twice"
  | lockPoisoned => "Lock poisoned"
  | bundle fault => s!"Bundle error: {fault.message}"
  | file => "I/O error"
  | archive => "ZIP error"
  | json => "JSON error"

/-- Two calls in a row succeed when the first does and then the second. -/
theorem bind_eq_ok {ε α β : Type} {x : Except ε α} {f : α → Except ε β} {b : β} :
    x >>= f = .ok b ↔ ∃ a, x = .ok a ∧ f a = .ok b := by
  cases x with
  | error e => exact ⟨nofun, fun ⟨_, h, _⟩ => nomatch h⟩
  | ok a => exact ⟨fun h => ⟨a, rfl, h⟩, fun ⟨_, h, rest⟩ => Except.ok.inj h ▸ rest⟩

/-- What is seen of a result shows that there is one. -/
theorem exists_of_toOption_any {ε α : Type} {x : Except ε α} {p : α → Prop} [DecidablePred p]
    (h : x.toOption.any (fun a => p a) = true) : ∃ a, x = .ok a ∧ p a := by
  cases x with
  | error e => cases h
  | ok a => exact ⟨a, rfl, of_decide_eq_true h⟩

/-- A loop of calls succeeds when every one of them does. -/
theorem forIn_eq_ok {ε α : Type} {xs : List α} {f : α → Except ε Unit} {u : PUnit} :
    (forIn xs PUnit.unit fun x _ => f x >>= fun _ => pure (ForInStep.yield PUnit.unit)) = .ok u ↔
      ∀ x ∈ xs, f x = .ok () := by
  induction xs with
  | nil => exact ⟨nofun, fun _ => rfl⟩
  | cons x xs ih =>
      rw [List.forIn_cons, bind_assoc, bind_eq_ok, List.forall_mem_cons, ← ih]
      exact ⟨fun ⟨_, first, rest⟩ => ⟨first, rest⟩, fun ⟨first, rest⟩ => ⟨(), first, rest⟩⟩

end BankedZ80
