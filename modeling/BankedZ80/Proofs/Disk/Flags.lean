import BankedZ80.Proofs.Disk.Command

/-!
# What the host keeps about the disks

Manifest and dirty flags, silenced warnings and the pending warning are there for the host.
`DiskController.forgetFlags` sets them all to fixed values, so two controllers that agree after it differ
in these flags at most.

Whatever the guest does with the disks, it finds the same on a controller without its flags, and what
is left is the controller without its flags (`readRegister_forgetFlags`, `writeRegister_forgetFlags`
and the lemmas that they are made of). In particular no flag stops a sector from being written
(`checkWrite_forgetFlags`) or changes what is written (`putSector_forgetFlags`).
-/

namespace BankedZ80

/-- A unit without its flags. It counts as written to, so that a sector write leaves it like that. -/
def DiskUnit.forgetFlags (d : DiskUnit) : DiskUnit := { d with manifest := false, dirty := true }

theorem DiskUnit.putSector_forgetFlags (d : DiskUnit) (lba : UInt32) (bytes : ByteArray) :
    (d.putSector lba bytes).forgetFlags = d.forgetFlags.putSector lba bytes := rfl

namespace DiskController

/-- A controller without the flags of its units, silenced warnings and the pending warning. -/
def forgetFlags (c : DiskController) : DiskController :=
  { c with
    units := c.units.map (Option.map DiskUnit.forgetFlags)
    silenced := Vector.replicate maxUnits false
    pendingWarning := none }

variable (c : DiskController) (n : Nat) (lba : UInt32)

/-! ### Units -/

theorem unit?_forgetFlags : c.forgetFlags.unit? n = (c.unit? n).map DiskUnit.forgetFlags :=
  unit?_map_units c n _

theorem unit_forgetFlags : c.forgetFlags.unit n = (c.unit n).map DiskUnit.forgetFlags :=
  unit_map_units c n _

theorem isLoaded_forgetFlags : c.forgetFlags.isLoaded n = c.isLoaded n := by
  rw [isLoaded, isLoaded, unit?_forgetFlags, Option.isSome_map]

theorem sliceCount_forgetFlags : c.forgetFlags.sliceCount n = c.sliceCount n := by
  rw [sliceCount, sliceCount, unit?_forgetFlags, Option.map_map]
  rfl

theorem seek_forgetFlags : c.forgetFlags.seek n = c.seek n := by
  rw [seek, seek, unit?_forgetFlags, Option.map_map]
  rfl

theorem loadedCount_forgetFlags : c.forgetFlags.loadedCount = c.loadedCount := by
  have same : c.forgetFlags.isLoaded = c.isLoaded := funext c.isLoaded_forgetFlags
  rw [loadedCount, loadedCount, loadedUnits, loadedUnits, same]

theorem driveMap_forgetFlags : c.forgetFlags.driveMap = c.driveMap := by
  have same : c.forgetFlags.driveSources = c.driveSources := by
    unfold driveSources
    congr 1
    funext n
    rw [unit?_forgetFlags, Option.map_map]
    rfl
  rw [driveMap, driveMap, same]
  rfl

/-! ### Sectors -/

theorem checkRead_forgetFlags : c.forgetFlags.checkRead n lba = c.checkRead n lba := by
  unfold checkRead
  rw [unit_forgetFlags]
  cases c.unit n with
  | error e => rfl
  | ok d => rfl

theorem checkWrite_forgetFlags (length : Nat) :
    c.forgetFlags.checkWrite n lba length = c.checkWrite n lba length := by
  unfold checkWrite
  rw [unit_forgetFlags, checkRead_forgetFlags]
  cases c.unit n with
  | error e => rfl
  | ok d => rfl

theorem sectorBytes_forgetFlags : c.forgetFlags.sectorBytes n lba = c.sectorBytes n lba := by
  unfold sectorBytes
  rw [unit?_forgetFlags, Option.map_map]
  rfl

/-- Nothing is left to warn about. -/
theorem warnsOf_forgetFlags : c.forgetFlags.warnsOf n = false := by
  unfold warnsOf
  rw [unit?_forgetFlags]
  cases c.unit? n with
  | none => rfl
  | some d => rfl

/-- A change of a unit, and what is seen of it without the flags. -/
theorem modifyUnit_forgetFlags {f g : DiskUnit → DiskUnit}
    (h : ∀ d, (f d).forgetFlags = g d.forgetFlags) :
    c.forgetFlags.modifyUnit n g = (c.modifyUnit n f).forgetFlags := by
  unfold modifyUnit forgetFlags
  congr 1
  exact (map_modifySlot_units c.units n h).symm

theorem setSeek_forgetFlags : c.forgetFlags.setSeek n lba = (c.setSeek n lba).forgetFlags :=
  modifyUnit_forgetFlags c n fun _ => rfl

theorem putSector_forgetFlags (bytes : ByteArray) :
    c.forgetFlags.putSector n lba bytes = (c.putSector n lba bytes).forgetFlags := by
  rw [putSector_eq, putSector_eq, warnsOf_forgetFlags,
    modifyUnit_forgetFlags c n fun d => d.putSector_forgetFlags lba bytes]
  rfl

theorem forgetFlags_setManifest {n : Nat} {manifest : Bool} {c c' : DiskController}
    (h : c.setManifest n manifest = .ok c') : c'.forgetFlags = c.forgetFlags := by
  obtain ⟨_, -, h⟩ := bind_eq_ok.1 h
  cases h
  have forgotten (d : DiskUnit) : { d with manifest }.forgetFlags = id d.forgetFlags := rfl
  rw [← modifyUnit_forgetFlags c n forgotten, modifyUnit_id]

theorem copyIn_forgetFlags (m : Memory) (address : UInt16) :
    c.forgetFlags.copyIn n lba m address = (c.copyIn n lba m address).forgetFlags :=
  putSector_forgetFlags c n lba _

theorem copyOut_forgetFlags (m : Memory) (address : UInt16) :
    c.forgetFlags.copyOut n lba m address = c.copyOut n lba m address := by
  rw [copyOut, copyOut, sectorBytes_forgetFlags]

/-! ### Registers -/

theorem readRegister_forgetFlags (register : UInt8) :
    c.forgetFlags.readRegister register = c.readRegister register := by
  unfold readRegister
  rw [show c.forgetFlags.selected = c.selected from rfl, sliceCount_forgetFlags,
    isLoaded_forgetFlags]
  rfl

theorem checkCommand_forgetFlags (v : UInt8) :
    c.forgetFlags.checkCommand v = c.checkCommand v := by
  unfold checkCommand
  split
  · exact checkRead_forgetFlags c _ _
  · exact checkWrite_forgetFlags c _ _ _
  · dsimp only
    rw [unit_forgetFlags, show c.forgetFlags.selected = c.selected from rfl]
    cases c.unit c.selected.toNat with
    | error e => rfl
    | ok d => rfl

theorem runCommand_forgetFlags (v : UInt8) (m : Memory) :
    c.forgetFlags.runCommand v m = ((c.runCommand v m).1.forgetFlags, (c.runCommand v m).2) := by
  unfold runCommand
  rw [show c.forgetFlags.selected = c.selected from rfl,
    show c.forgetFlags.lba = c.lba from rfl, show c.forgetFlags.address = c.address from rfl]
  dsimp only
  split
  · rw [copyOut_forgetFlags]
    rfl
  · rw [copyIn_forgetFlags]
    rfl
  · rw [unit?_forgetFlags, Option.map_map]
    rfl

/-- **No flag decides whether a command succeeds**, or what it does. -/
theorem command_forgetFlags (v : UInt8) (m : Memory) :
    c.forgetFlags.command v m = ((c.command v m).1.forgetFlags, (c.command v m).2) := by
  unfold command
  split
  · rw [checkCommand_forgetFlags]
    cases c.checkCommand v with
    | ok _ =>
        dsimp only
        rw [runCommand_forgetFlags]
        rfl
    | error e => rfl
  · rfl

theorem registers_forgetFlags (selected status : UInt8) (lba : UInt32) (address : UInt16) :
    { c.forgetFlags with selected, lba, address, status } =
      { c with selected, lba, address, status }.forgetFlags := rfl

theorem writeRegister_forgetFlags (register v : UInt8) (m : Memory) :
    c.forgetFlags.writeRegister register v m =
      ((c.writeRegister register v m).1.forgetFlags, (c.writeRegister register v m).2) := by
  unfold writeRegister
  rw [show c.forgetFlags.lba = c.lba from rfl, show c.forgetFlags.address = c.address from rfl]
  split
  case h_8 => exact c.command_forgetFlags v m
  case h_9 => rfl
  all_goals exact congrArg (·, m) (c.registers_forgetFlags _ _ _ _)

end DiskController

end BankedZ80
