import BankedZ80.Proofs.Disk.Change
import BankedZ80.Proofs.Disk.Runs

/-!
# How a register command ends

A command that the guest writes to the command register is carried out as a whole or not at all, and the
status register tells which.

* `DiskController.statusOf` tells the status from the registers and the disks before the command, in
  the order in which the causes of a refusal are looked for.
* `CommandEnds` says what is left. A refused command changes the status and nothing else; a read or a
  write moves one sector and goes on to the next one.
* `RunOfReads` says what some reads in a row leave, each of them successful, and `succeeds_iff` when
  they are.

All of this is about units that have the sector size of their controller. A controller that starts
without units has no others (`Evolves.matched`).
-/

namespace BankedZ80

/-- The status that reports the outcome of a check. -/
def DiskStatus.ofCheck : Except MachineError Unit → DiskStatus
  | .ok _ => ok
  | .error e => ofError e

theorem DiskStatus.ofError_ne_ok (e : MachineError) : DiskStatus.ofError e ≠ .ok := fun h =>
  DiskStatus.code_ofError_ne_zero e (congrArg DiskStatus.code h)

theorem DiskStatus.code_inj {s s' : DiskStatus} : s.code = s'.code ↔ s = s' := by
  cases s <;> cases s' <;> decide

namespace DiskController

/-- The status with which a command ends, told from the controller before it. -/
def statusOf (c : DiskController) (v : UInt8) : DiskStatus :=
  if ¬(v = 1 ∨ v = 2 ∨ v = 3) then .badCommand
  else if maxUnits ≤ c.selected.toNat then .badUnit
  else
    match c.unit? c.selected.toNat with
    | none => .noMedia
    | some d => if v ≠ 3 ∧ d.totalSectors ≤ c.lba then .outOfRange else .ok

/-- What a command leaves, told from the controller and the memory before it. -/
structure CommandEnds (c : DiskController) (v : UInt8) (m : Memory) (r : DiskController × Memory) :
    Prop where
  status : r.1.readRegister 7 = (c.statusOf v).code
  refused : c.statusOf v ≠ .ok → r = ({ c with status := (c.statusOf v).code }, m)
  /-- The bytes of the sector are in memory, and registers point past them. -/
  read (d : DiskUnit) : v = 1 → c.statusOf v = .ok → c.unit? c.selected.toNat = some d →
    r = ({ c with
            lba := c.lba + 1
            address := c.address + c.sectorSize.toUInt16
            status := DiskStatus.ok.code },
          m.loadAt c.address (Bytes.toList
            (d.image.extract (c.lba.toNat * c.sectorSize) (c.lba.toNat * c.sectorSize + c.sectorSize))))
  /-- The bytes of the sector are those of the memory, and the unit is dirty. A write to a catalog image
  whose warning is not silenced is to be warned about. -/
  write (d : DiskUnit) : v = 2 → c.statusOf v = .ok → c.unit? c.selected.toNat = some d →
    r = ({ c with
            units := c.units.setIfInBounds c.selected.toNat (some { d with
              image := d.image.extract 0 (c.lba.toNat * c.sectorSize) ++
                Bytes.ofList (m.readBlock c.address c.sectorSize) ++
                d.image.extract (c.lba.toNat * c.sectorSize + c.sectorSize) d.image.size
              dirty := true })
            pendingWarning :=
              if d.manifest = true ∧ c.isSilenced c.selected.toNat = false then
                some c.selected.toNat
              else c.pendingWarning
            lba := c.lba + 1
            address := c.address + c.sectorSize.toUInt16
            status := DiskStatus.ok.code },
          m)
  capacity (d : DiskUnit) : v = 3 → c.statusOf v = .ok → c.unit? c.selected.toNat = some d →
    r = ({ c with lba := d.totalSectors, status := DiskStatus.ok.code }, m)

/-- The controller and the memory after some read commands. -/
def readMany (c : DiskController) (m : Memory) : Nat → DiskController × Memory
  | 0 => (c, m)
  | k + 1 => (c.readMany m k).1.writeRegister 7 1 (c.readMany m k).2

/-- All of so many read commands succeed. -/
def ReadsSucceed (c : DiskController) (m : Memory) (k : Nat) : Prop :=
  ∀ i < k, (c.readMany m (i + 1)).1.readRegister 7 = DiskStatus.ok.code

/-- What some reads in a row leave. -/
structure RunOfReads (c : DiskController) (m : Memory) (k : Nat) (r : DiskController × Memory) :
    Prop where
  /-- The bytes of the sectors are in memory, one sector after another. -/
  memory (d : DiskUnit) : c.unit? c.selected.toNat = some d →
    r.2 = m.loadAt c.address (Bytes.toList
      (d.image.extract (c.lba.toNat * c.sectorSize) ((c.lba.toNat + k) * c.sectorSize)))
  /-- Registers 1 to 4 are the bytes of the block address past the last sector, the lowest first. -/
  block (i : Nat) : i < 4 →
    (r.1.readRegister (i + 1).toUInt8).toNat = (c.lba.toNat + k) / 256 ^ i % 256
  /-- Registers 5 and 6 are those of the memory address past the last byte. -/
  low : (r.1.readRegister 5).toNat = (c.address.toNat + k * c.sectorSize) % 65536 % 256
  high : (r.1.readRegister 6).toNat = (c.address.toNat + k * c.sectorSize) % 65536 / 256
  others : { r.1 with lba := c.lba, address := c.address, status := c.status } = c

variable {c : DiskController} {m : Memory} {d : DiskUnit}

/-! ### Sector sizes -/

theorem matched_of_unit? {n : Nat} (h : ∀ d, c.unit? n = some d → d.sectorSize = c.sectorSize) :
    c.Matched n := fun d there => h d (unit?_of_unit c n there)

theorem Matched.unit? {n : Nat} (h : c.Matched n) (there : c.unit? n = some d) :
    d.sectorSize = c.sectorSize := h d (unit_of_unit? c n there)

/-- A slot that holds a unit of some sector size, if any, does so after a change under this size. -/
theorem sectorSize_applyTo {size n : Nat} {slot : Option DiskUnit}
    (before : ∀ d ∈ slot, d.sectorSize = size) (a : DiskChange) :
    ∀ d ∈ a.applyTo size n slot, d.sectorSize = size := by
  have mapped {f : DiskUnit → DiskUnit} (same : ∀ d, (f d).sectorSize = d.sectorSize) :
      ∀ d ∈ slot.map f, d.sectorSize = size := by
    intro d after
    obtain ⟨d', there, rfl⟩ := Option.mem_map.1 after
    rw [same]
    exact before d' there
  unfold DiskChange.applyTo
  split
  case h_6 => exact before
  all_goals split
  case h_1.isTrue =>
    intro d after
    rw [← Option.some.inj after]
  case h_2.isTrue => exact nofun
  case h_3.isTrue | h_4.isTrue | h_5.isTrue => exact mapped fun _ => rfl
  all_goals exact before

/-- Units come with the sector size of their controller. -/
theorem Evolves.matched {c' : DiskController} {log : List DiskChange} (evolves : Evolves c log c')
    (fresh : ∀ n, c.unit? n = none) (n : Nat) : c'.Matched n := by
  have sized : ∀ d ∈ c'.kept n, d.sectorSize = c.sectorSize := by
    rw [evolves.kept, DiskController.kept, fresh, Option.map_none]
    refine List.foldlRecOn
      (motive := fun slot : Option DiskUnit => ∀ d ∈ slot, d.sectorSize = c.sectorSize) log _ ?_ ?_
    · intro d empty
      cases empty
    · exact fun slot before a _ => sectorSize_applyTo before a
  refine matched_of_unit? fun d there => ?_
  rw [evolves.sectorSize]
  exact sized { d with slices := 1, seek := 0 } (Option.mem_def.2 (kept_of_unit? there))

/-! ### One command -/

theorem ofCheck_checkRead (n : Nat) (lba : UInt32) :
    DiskStatus.ofCheck (c.checkRead n lba) =
      if maxUnits ≤ n then .badUnit
      else
        match c.unit? n with
        | none => .noMedia
        | some d => if d.totalSectors ≤ lba then .outOfRange else .ok := by
  rw [checkRead, unit_eq]
  by_cases there : n < maxUnits
  · rw [if_pos there, if_neg (Nat.not_le_of_lt there)]
    cases c.unit? n with
    | none => rfl
    | some d => by_cases past : d.totalSectors ≤ lba <;> simp [past, bind, Except.bind] <;> rfl
  · rw [if_neg there, if_pos (Nat.le_of_not_lt there)]
    rfl

/-- The check of a command fails with the status that the command ends with. -/
theorem ofCheck_checkCommand (matched : c.Matched c.selected.toNat) {v : UInt8}
    (known : v = 1 ∨ v = 2 ∨ v = 3) : DiskStatus.ofCheck (c.checkCommand v) = c.statusOf v := by
  have sector (write : Bool) :
      DiskStatus.ofCheck (c.checkCommand (sectorCommand write)) = c.statusOf (sectorCommand write) := by
    rw [checkCommand_sectorCommand, checkSector_of_matched c write c.lba matched, ofCheck_checkRead]
    cases write <;> simp [statusOf, sectorCommand]
  rcases known with rfl | rfl | rfl
  · exact sector false
  · exact sector true
  · show DiskStatus.ofCheck (do let _ ← c.unit c.selected.toNat; return ()) = c.statusOf 3
    rw [unit_eq, statusOf, if_neg (not_not_intro (.inr (.inr rfl)))]
    by_cases there : c.selected.toNat < maxUnits
    · rw [if_pos there, if_neg (Nat.not_le_of_lt there)]
      cases c.unit? c.selected.toNat <;> rfl
    · rw [if_neg there, if_pos (Nat.le_of_not_lt there)]
      rfl

/-- **A command is carried out as a whole or not at all.** -/
theorem command_eq (matched : c.Matched c.selected.toNat) (v : UInt8) :
    c.command v m =
      if c.statusOf v = .ok then
        ({ (c.runCommand v m).1 with status := DiskStatus.ok.code }, (c.runCommand v m).2)
      else ({ c with status := (c.statusOf v).code }, m) := by
  by_cases known : v = 1 ∨ v = 2 ∨ v = 3
  · have listed : 1 ≤ v ∧ v ≤ 3 := by rcases known with rfl | rfl | rfl <;> decide
    rw [command, if_pos listed, ← ofCheck_checkCommand matched known]
    cases c.checkCommand v with
    | ok _ => rfl
    | error e => rw [DiskStatus.ofCheck, if_neg (DiskStatus.ofError_ne_ok e)]
  · have unlisted : ¬(1 ≤ v ∧ v ≤ 3) := by grind
    rw [command, if_neg unlisted, statusOf, if_pos known, if_neg (by decide)]

/-- A command that succeeds has found its unit, and a sector command its sector. -/
theorem unit?_of_statusOf {v : UInt8} (ok : c.statusOf v = .ok) :
    ∃ d, c.unit? c.selected.toNat = some d ∧ (v ≠ 3 → c.lba < d.totalSectors) := by
  unfold statusOf at ok
  split at ok
  · cases ok
  · split at ok
    · cases ok
    · split at ok
      · cases ok
      · next d there =>
          refine ⟨d, there, fun sector => UInt32.not_le.1 fun past => ?_⟩
          rw [if_pos ⟨sector, past⟩] at ok
          cases ok

theorem statusOf_of_unit? (there : c.unit? c.selected.toNat = some d) {v : UInt8}
    (known : v = 1 ∨ v = 2) (inside : c.lba < d.totalSectors) : c.statusOf v = .ok := by
  have listed : v = 1 ∨ v = 2 ∨ v = 3 := known.imp_right .inl
  rw [statusOf, if_neg (not_not_intro listed), if_neg (Nat.not_le_of_lt (lt_of_unit? there)), there]
  exact if_neg fun past => UInt32.not_le.2 inside past.2

/-- A unit that is there is changed by putting the changed one in its place. -/
theorem modifyUnit_of_unit? {n : Nat} (there : c.unit? n = some d) (f : DiskUnit → DiskUnit) :
    c.modifyUnit n f = { c with units := c.units.setIfInBounds n (some (f d)) } := by
  have same : modifySlot c.units n (Option.map f) = c.units.setIfInBounds n (some (f d)) := by
    ext i hi : 1
    rw [getElem_modifySlot, Vector.getElem_setIfInBounds]
    split
    · next here =>
        rw [unit?, here, Vector.getElem?_eq_getElem hi, Option.join_some] at there
        rw [there]
        rfl
    · rfl
  rw [modifyUnit, same]

/-- A unit that is put in its own place changes nothing. -/
theorem setUnit_of_unit? {n : Nat} (there : c.unit? n = some d) :
    c.units.setIfInBounds n (some d) = c.units := by
  have same := modifyUnit_of_unit? there id
  rw [modifyUnit_id] at same
  exact (congrArg DiskController.units same).symm

theorem modifyUnit_modifyUnit (c : DiskController) (n : Nat) (f g : DiskUnit → DiskUnit) :
    (c.modifyUnit n f).modifyUnit n g = c.modifyUnit n (g ∘ f) := by
  have same : modifySlot (modifySlot c.units n (Option.map f)) n (Option.map g) =
      modifySlot c.units n (Option.map (g ∘ f)) := by
    ext i hi : 1
    rw [getElem_modifySlot, getElem_modifySlot, getElem_modifySlot]
    split
    · rw [Option.map_map]
    · rfl
  exact congrArg (fun units => { c with units }) same

theorem warnsOf_of_unit? {n : Nat} (there : c.unit? n = some d) :
    c.warnsOf n = true ↔ d.manifest = true ∧ c.isSilenced n = false := by
  rw [warnsOf, there, isSilenced]
  simp

theorem sectorBytes_of_unit? {n : Nat} (there : c.unit? n = some d) (lba : UInt32) :
    c.sectorBytes n lba = d.sectorBytes lba := by
  rw [sectorBytes, there]
  rfl

theorem runCommand_read (c : DiskController) (m : Memory) :
    c.runCommand 1 m = (c.advance, c.copyOut c.selected.toNat c.lba m c.address) := rfl

theorem runCommand_write (c : DiskController) (m : Memory) :
    c.runCommand 2 m = ((c.copyIn c.selected.toNat c.lba m c.address).advance, m) := rfl

theorem runCommand_capacity (c : DiskController) (m : Memory) :
    c.runCommand 3 m =
      ({ c with lba := ((c.unit? c.selected.toNat).map DiskUnit.totalSectors).getD 0 }, m) := rfl

theorem command_ends (matched : c.Matched c.selected.toNat) (v : UInt8) :
    CommandEnds c v m (c.command v m) := by
  rw [command_eq matched]
  constructor
  case status =>
    split
    · next ok =>
        rw [ok]
        rfl
    · rfl
  case refused => exact fun failed => if_neg failed
  case read =>
    rintro d rfl ok there
    rw [if_pos ok, runCommand_read, copyOut, sectorBytes_of_unit? there, DiskUnit.sectorBytes,
      matched.unit? there]
    rfl
  case write =>
    rintro d rfl ok there
    rw [if_pos ok, runCommand_write, copyIn, putSector_eq, modifyUnit_of_unit? there,
      DiskUnit.putSector, Bytes.overwrite_eq, size_readBlock, matched.unit? there]
    simp only [warnsOf_of_unit? there]
    rfl
  case capacity =>
    rintro d rfl ok there
    rw [if_pos ok, runCommand_capacity, there]
    rfl

/-! ### Reads in a row -/

/-- The controller past some sectors that it has read. -/
def pastReads (c : DiskController) (k : Nat) : DiskController :=
  { c with
    lba := c.lba + k.toUInt32
    address := c.address + (k * c.sectorSize).toUInt16
    status := if k = 0 then c.status else DiskStatus.ok.code }

theorem pastReads_zero (c : DiskController) : c.pastReads 0 = c := by
  simp [pastReads]

theorem lba_pastReads {k : Nat} (h : k ≤ d.sectorsFrom c.lba) :
    (c.pastReads k).lba.toNat = c.lba.toNat + k := d.toNat_add_of_le_sectorsFrom h

/-- One more read takes the controller past one more sector. -/
theorem pastReads_succ (c : DiskController) (k : Nat) :
    c.pastReads (k + 1) =
      { c.pastReads k with
        lba := (c.pastReads k).lba + 1
        address := (c.pastReads k).address + c.sectorSize.toUInt16
        status := DiskStatus.ok.code } := by
  have lba : c.lba + (k + 1).toUInt32 = c.lba + k.toUInt32 + 1 := by
    rw [Nat.toUInt32_eq, Nat.toUInt32_eq, UInt32.ofNat_add, UInt32.add_assoc]
    rfl
  have address : c.address + ((k + 1) * c.sectorSize).toUInt16 =
      c.address + (k * c.sectorSize).toUInt16 + c.sectorSize.toUInt16 := by
    rw [Nat.succ_mul, Memory.add_toUInt16_add]
  rw [pastReads, if_neg (Nat.succ_ne_zero k), lba, address]
  rfl

/-- **Reads in a row** load the sectors in one piece. By induction on their number. -/
theorem readMany_eq (matched : c.Matched c.selected.toNat)
    (there : c.unit? c.selected.toNat = some d) {k : Nat} (h : k ≤ d.sectorsFrom c.lba) :
    c.readMany m k =
      (c.pastReads k, m.loadAt c.address (Bytes.toList (d.sectorRun c.lba.toNat k))) := by
  induction k with
  | zero =>
      rw [readMany, pastReads_zero, DiskUnit.sectorRun_zero]
      rfl
  | succ k ih =>
      have before : k ≤ d.sectorsFrom c.lba := Nat.le_of_succ_le h
      have place := lba_pastReads before
      have inside : (c.pastReads k).lba < d.totalSectors := by
        rw [UInt32.lt_iff_toNat_lt, place]
        unfold DiskUnit.sectorsFrom at h
        omega
      have ok : (c.pastReads k).statusOf 1 = .ok :=
        statusOf_of_unit? (c := c.pastReads k) there (.inl rfl) inside
      have read (m' : Memory) :=
        (command_ends (c := c.pastReads k) (m := m') matched 1).read d rfl ok there
      have length : (Bytes.toList (d.sectorRun c.lba.toNat k)).length = k * c.sectorSize := by
        rw [Bytes.length_toList, d.size_sectorRun before, matched.unit? there]
      rw [readMany, ih before]
      refine (read _).trans ?_
      rw [pastReads_succ, d.sectorRun_add, Bytes.toList_append, Memory.loadAt_append, length,
        ← place, ← d.sectorBytes_eq_run, DiskUnit.sectorBytes, matched.unit? there]
      rfl

/-- Sectors that are there, none or some of a unit in the selected slot, are those of the unit there. -/
theorem le_sectorsFrom {k : Nat}
    (inside : k = 0 ∨ ∃ d, c.unit? c.selected.toNat = some d ∧ k ≤ d.sectorsFrom c.lba)
    (there : c.unit? c.selected.toNat = some d) : k ≤ d.sectorsFrom c.lba := by
  rcases inside with rfl | ⟨d', there', h⟩
  · exact Nat.zero_le _
  · rw [← Option.some.inj (there'.symm.trans there)]
    exact h

/-- After some reads that succeeded, none or of sectors that are there, the controller is past them. -/
theorem fst_readMany (matched : c.Matched c.selected.toNat) {k : Nat}
    (inside : k = 0 ∨ ∃ d, c.unit? c.selected.toNat = some d ∧ k ≤ d.sectorsFrom c.lba) :
    (c.readMany m k).1 = c.pastReads k := by
  rcases inside with rfl | ⟨d, there, h⟩
  · exact (pastReads_zero c).symm
  · rw [readMany_eq matched there h]

/-- The sectors of reads that all succeeded are those of a unit that has one more if one more read
succeeds. -/
theorem one_more_sector (matched : c.Matched c.selected.toNat) {k : Nat}
    (inside : k = 0 ∨ ∃ d, c.unit? c.selected.toNat = some d ∧ k ≤ d.sectorsFrom c.lba)
    (last : (c.readMany m (k + 1)).1.readRegister 7 = DiskStatus.ok.code) :
    ∃ d, c.unit? c.selected.toNat = some d ∧ k + 1 ≤ d.sectorsFrom c.lba := by
  have ended : (c.readMany m (k + 1)).1.readRegister 7 = ((c.pastReads k).statusOf 1).code := by
    rw [readMany, fst_readMany matched inside]
    exact (command_ends (c := c.pastReads k) matched 1).status
  have ok : (c.pastReads k).statusOf 1 = .ok := DiskStatus.code_inj.1 (ended.symm.trans last)
  obtain ⟨d, there, next⟩ := unit?_of_statusOf ok
  have before := le_sectorsFrom inside there
  have place := lba_pastReads before
  have nextInside := UInt32.lt_iff_toNat_lt.1 (next (by decide))
  refine ⟨d, there, ?_⟩
  unfold DiskUnit.sectorsFrom at before ⊢
  omega

/-- Reads in a row succeed as long as there are sectors to read. -/
theorem succeeds_iff (matched : c.Matched c.selected.toNat) (k : Nat) :
    c.ReadsSucceed m k ↔
      k = 0 ∨ ∃ d, c.unit? c.selected.toNat = some d ∧ k ≤ d.sectorsFrom c.lba := by
  constructor
  · intro succeed
    induction k with
    | zero => exact .inl rfl
    | succ k ih =>
        have earlier := ih fun i hi => succeed i (Nat.lt_succ_of_lt hi)
        exact .inr (one_more_sector matched earlier (succeed k (Nat.lt_succ_self k)))
  · rintro (rfl | ⟨d, there, h⟩) i hi
    · cases hi
    · rw [readMany_eq matched there (Nat.le_trans hi h)]
      rfl

theorem runOfReads (matched : c.Matched c.selected.toNat) {k : Nat} (succeed : c.ReadsSucceed m k) :
    RunOfReads c m k (c.readMany m k) := by
  have inside := (succeeds_iff matched k).1 succeed
  have address :
      (c.pastReads k).address.toNat = (c.address.toNat + k * c.sectorSize) % 65536 := by
    rw [pastReads, Nat.toUInt16_eq, UInt16.toNat_add, UInt16.toNat_ofNat', Nat.add_mod_mod]
  constructor
  case memory =>
    intro d there
    have size : d.sectorSize = c.sectorSize := matched.unit? there
    rw [readMany_eq matched there (le_sectorsFrom inside there), DiskUnit.sectorRun, size]
  all_goals rw [fst_readMany matched inside]
  case block =>
    intro i hi
    have place : (c.pastReads k).lba.toNat = c.lba.toNat + k := by
      rcases inside with rfl | ⟨d, there, h⟩
      · rw [pastReads_zero, Nat.add_zero]
      · exact lba_pastReads h
    have byte : (c.pastReads k).readRegister (i + 1).toUInt8 = lbaByte (c.pastReads k).lba i := by
      interval_cases i <;> rfl
    rw [byte, toNat_lbaByte, place]
  case low => exact (toNat_lowByte _).trans (congrArg (· % 256) address)
  case high => exact (toNat_highByte _).trans (congrArg (· / 256) address)
  case others => rfl

/-- **Commands at the disk port.** Each is carried out as a whole or not at all, and reads in a row load
sectors in a row. -/
theorem commands_atomic (c : DiskController) (m : Memory) (matched : c.Matched c.selected.toNat) :
    (∀ v, CommandEnds c v m (c.writeRegister 7 v m)) ∧
      ∀ k, (c.ReadsSucceed m k ↔
          k = 0 ∨ ∃ d, c.unit? c.selected.toNat = some d ∧ k ≤ d.sectorsFrom c.lba) ∧
        (c.ReadsSucceed m k → RunOfReads c m k (c.readMany m k)) :=
  ⟨command_ends matched, fun k => ⟨succeeds_iff matched k, runOfReads matched⟩⟩

/-- A controller with a disk of two short sectors in its first slot, to be read to the end of memory. -/
def twoShortSectors : DiskController where
  units := (Vector.replicate maxUnits none).setIfInBounds 0
    (some { image := Bytes.ofList [1, 2, 3, 4], sectorSize := 2 })
  sectorSize := 2
  sectorsPerSlice := 2
  autoSlices := false
  address := 0xFFFF

theorem twoShortSectors_atomic :
    twoShortSectors.Matched 0 ∧ twoShortSectors.ReadsSucceed (Memory.new 0) 2 ∧
      ¬twoShortSectors.ReadsSucceed (Memory.new 0) 3 ∧
      RunOfReads twoShortSectors (Memory.new 0) 2 (twoShortSectors.readMany (Memory.new 0) 2) := by
  have matched : twoShortSectors.Matched 0 := by
    intro d there
    cases there
    rfl
  have reads := (commands_atomic twoShortSectors (Memory.new 0) matched).2
  have succeed : twoShortSectors.ReadsSucceed (Memory.new 0) 2 :=
    (reads 2).1.2 (.inr ⟨_, rfl, by decide⟩)
  refine ⟨matched, succeed, fun more => ?_, (reads 2).2 succeed⟩
  rcases (reads 3).1.1 more with zero | ⟨d, there, three⟩
  · cases zero
  · cases there
    exact absurd three (by decide)

end DiskController

end BankedZ80
