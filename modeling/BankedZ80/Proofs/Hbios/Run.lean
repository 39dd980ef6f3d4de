import BankedZ80.Proofs.Disk.Outcome
import BankedZ80.Proofs.Safety.Firmware

/-!
# The rounds of a transfer in one piece

A firmware transfer moves one sector after another and stops at the first that is not there.
`Transfer.moveRun` moves some sectors that are there in one piece, between the image at the seek
position and the memory.

* A round is a run of one sector (`Transfer.move_eq_moveRun`).
* Runs that follow each other are one run (`Transfer.moveRun_add`).
* So the rounds of a transfer are one run, of the sectors that are there (`Transfer.moveMany_eq`).
-/

namespace BankedZ80.Hbios

attribute [ext] Transfer

namespace Transfer

/-- The unit after some sectors at its seek position were moved. -/
def unitAfter (t : Transfer) (write : Bool) (d : DiskUnit) (count : Nat) : DiskUnit :=
  { d with
    image :=
      if write then
        Bytes.overwrite d.image (d.seek.toNat * d.sectorSize)
          (Bytes.ofList (t.memory.readBlock t.address (count * d.sectorSize)))
      else d.image
    dirty := d.dirty || (write && decide (0 < count))
    seek := d.seek + count.toUInt32 }

/-- Move some sectors of a unit that are there, in one piece. -/
def moveRun (t : Transfer) (write : Bool) (n : Nat) (d : DiskUnit) (count : Nat) : Transfer :=
  { disks := { t.disks with
      units := t.disks.units.setIfInBounds n (some (t.unitAfter write d count))
      pendingWarning :=
        if write = true ∧ 0 < count ∧ t.disks.warnsOf n = true then some n
        else t.disks.pendingWarning }
    memory :=
      if write then t.memory
      else t.memory.loadAt t.address (Bytes.toList (d.sectorRun d.seek.toNat count))
    address := t.address + (count * d.sectorSize).toUInt16
    moved := t.moved + count.toUInt8 }

variable {t : Transfer} (write : Bool) {n : Nat} {d : DiskUnit}

/-! ### Runs -/

section

variable (t : Transfer) (d : DiskUnit) (count : Nat)

theorem image_unitAfter :
    (t.unitAfter true d count).image =
      Bytes.overwrite d.image (d.seek.toNat * d.sectorSize)
        (Bytes.ofList (t.memory.readBlock t.address (count * d.sectorSize))) := rfl

@[simp] theorem image_unitAfter_read : (t.unitAfter false d count).image = d.image := rfl

@[simp] theorem sectorRun_unitAfter_read (first count' : Nat) :
    (t.unitAfter false d count).sectorRun first count' = d.sectorRun first count' := rfl

@[simp] theorem sectorSize_unitAfter : (t.unitAfter write d count).sectorSize = d.sectorSize := rfl

@[simp] theorem slices_unitAfter : (t.unitAfter write d count).slices = d.slices := rfl

@[simp] theorem manifest_unitAfter : (t.unitAfter write d count).manifest = d.manifest := rfl

@[simp] theorem dirty_unitAfter :
    (t.unitAfter write d count).dirty = (d.dirty || (write && decide (0 < count))) := rfl

@[simp] theorem seek_unitAfter :
    (t.unitAfter write d count).seek = d.seek + count.toUInt32 := rfl

@[simp] theorem memory_moveRun_read (n : Nat) :
    (t.moveRun false n d count).memory =
      t.memory.loadAt t.address (Bytes.toList (d.sectorRun d.seek.toNat count)) := rfl

@[simp] theorem memory_moveRun_write (n : Nat) : (t.moveRun true n d count).memory = t.memory := rfl

@[simp] theorem address_moveRun (n : Nat) :
    (t.moveRun write n d count).address = t.address + (count * d.sectorSize).toUInt16 := rfl

@[simp] theorem moved_moveRun (n : Nat) :
    (t.moveRun write n d count).moved = t.moved + count.toUInt8 := rfl

end

theorem disks_moveRun (t : Transfer) (n : Nat) (d : DiskUnit) (count : Nat) :
    (t.moveRun write n d count).disks =
      { t.disks with
        units := t.disks.units.setIfInBounds n (some (t.unitAfter write d count))
        pendingWarning :=
          if write = true ∧ 0 < count ∧ t.disks.warnsOf n = true then some n
          else t.disks.pendingWarning } := rfl

theorem unit?_moveRun (there : t.disks.unit? n = some d) (count : Nat) :
    (t.moveRun write n d count).disks.unit? n = some (t.unitAfter write d count) := by
  show (t.disks.units.setIfInBounds n (some (t.unitAfter write d count)))[n]?.join = _
  rw [Vector.getElem?_setIfInBounds_self_of_lt (DiskController.lt_of_unit? there)]
  rfl

theorem matched_moveRun (matched : t.disks.Matched n) (there : t.disks.unit? n = some d)
    (count : Nat) : (t.moveRun write n d count).disks.Matched n := by
  refine DiskController.matched_of_unit? fun d' moved => ?_
  rw [unit?_moveRun write there] at moved
  cases moved
  have size : d.sectorSize = t.disks.sectorSize := matched.unit? there
  exact size

/-- The warning of a unit depends on nothing that is moved. -/
theorem warnsOf_moveRun (there : t.disks.unit? n = some d) (count : Nat) :
    (t.moveRun write n d count).disks.warnsOf n = t.disks.warnsOf n := by
  rw [DiskController.warnsOf, unit?_moveRun write there, DiskController.warnsOf, there]
  rfl

theorem unitAfter_zero (t : Transfer) (write : Bool) (d : DiskUnit) : t.unitAfter write d 0 = d := by
  have image : Bytes.overwrite d.image (d.seek.toNat * d.sectorSize)
      (Bytes.ofList (t.memory.readBlock t.address (0 * d.sectorSize))) = d.image := by
    rw [Nat.zero_mul]
    exact Bytes.overwrite_empty _ _
  rw [unitAfter, image]
  simp

theorem moveRun_zero (there : t.disks.unit? n = some d) : t.moveRun write n d 0 = t := by
  rw [moveRun, unitAfter_zero, DiskController.setUnit_of_unit? there, DiskUnit.sectorRun_zero,
    Nat.zero_mul]
  have count : (0 : Nat).toUInt8 = 0 := rfl
  have next : (0 : Nat).toUInt16 = 0 := rfl
  rw [if_neg fun warned => Nat.not_lt_zero 0 warned.2.1, count, next, UInt8.add_zero, UInt16.add_zero]
  cases write <;> rfl

/-- What is written in two pieces is written in one. -/
theorem image_unitAfter_add (t : Transfer) {count count' : Nat} (pos : 0 < count')
    (inside : count + count' ≤ d.sectorsFrom d.seek) :
    ((t.moveRun true n d count).unitAfter true (t.unitAfter true d count) count').image =
      (t.unitAfter true d (count + count')).image := by
  have size := DiskController.size_readBlock t.memory
  have place : (d.seek + count.toUInt32).toNat * d.sectorSize =
      d.seek.toNat * d.sectorSize + count * d.sectorSize := by
    rw [d.toNat_add_of_le_sectorsFrom (Nat.le_of_add_right_le inside), Nat.add_mul]
  have within := d.run_end_le (Nat.lt_add_left count pos) inside
  rw [Nat.add_mul, Nat.add_mul, ← Nat.add_assoc,
    ← size t.address (count * d.sectorSize),
    ← size (t.address + (count * d.sectorSize).toUInt16) (count' * d.sectorSize)] at within
  have pieces := Bytes.overwrite_append within
  rw [size, ← place, ← Bytes.ofList_append, ← Memory.readBlock_add, ← Nat.add_mul] at pieces
  rw [image_unitAfter, image_unitAfter, image_unitAfter, memory_moveRun_write, address_moveRun,
    sectorSize_unitAfter, seek_unitAfter]
  exact pieces

theorem unitAfter_add (t : Transfer) (write : Bool) {count count' : Nat}
    (inside : count + count' ≤ d.sectorsFrom d.seek) :
    (t.moveRun write n d count).unitAfter write (t.unitAfter write d count) count' =
      t.unitAfter write d (count + count') := by
  rcases Nat.eq_zero_or_pos count' with rfl | pos
  · exact unitAfter_zero _ write _
  · have seek : d.seek + count.toUInt32 + count'.toUInt32 = d.seek + (count + count').toUInt32 := by
      rw [Nat.toUInt32_eq, Nat.toUInt32_eq, Nat.toUInt32_eq, UInt32.ofNat_add, UInt32.add_assoc]
    apply DiskUnit.ext
    case seek => simp only [seek_unitAfter, seek]
    case image =>
      cases write with
      | false => simp only [image_unitAfter_read]
      | true => exact image_unitAfter_add t pos inside
    case dirty =>
      have some_sectors : 0 < count + count' := Nat.lt_add_left count pos
      cases write <;> simp [pos, some_sectors]
    case sectorSize | slices | manifest => simp

/-- Runs that follow each other are one run. -/
theorem moveRun_add (there : t.disks.unit? n = some d) {count count' : Nat}
    (inside : count + count' ≤ d.sectorsFrom d.seek) :
    (t.moveRun write n d count).moveRun write n (t.unitAfter write d count) count' =
      t.moveRun write n d (count + count') := by
  have first := Nat.le_of_add_right_le inside
  apply Transfer.ext
  case disks =>
    have warning : (if write = true ∧ 0 < count' ∧ t.disks.warnsOf n = true then some n
        else if write = true ∧ 0 < count ∧ t.disks.warnsOf n = true then some n
        else t.disks.pendingWarning) =
          if write = true ∧ 0 < count + count' ∧ t.disks.warnsOf n = true then some n
          else t.disks.pendingWarning := by
      grind
    rw [disks_moveRun write (t.moveRun write n d count), warnsOf_moveRun write there,
      unitAfter_add t write inside, disks_moveRun write t n d count, disks_moveRun,
      Vector.setIfInBounds_setIfInBounds, warning]
  case memory =>
    cases write with
    | true => simp only [memory_moveRun_write]
    | false =>
        simp only [memory_moveRun_read, address_moveRun, sectorRun_unitAfter_read, seek_unitAfter]
        rw [d.toNat_add_of_le_sectorsFrom first, d.sectorRun_add, Bytes.toList_append,
          Memory.loadAt_append, Bytes.length_toList, d.size_sectorRun first]
  case address =>
    rw [address_moveRun, address_moveRun, address_moveRun, sectorSize_unitAfter, Nat.add_mul,
      Memory.add_toUInt16_add]
  case moved =>
    rw [moved_moveRun, moved_moveRun, moved_moveRun, Nat.toUInt8_eq, Nat.toUInt8_eq, Nat.toUInt8_eq,
      UInt8.ofNat_add, UInt8.add_assoc]

/-- Reading changes the memory and the seek position. -/
theorem moveRun_read (t : Transfer) (n : Nat) (d : DiskUnit) (count : Nat) :
    t.moveRun false n d count =
      { disks := { t.disks with
          units := t.disks.units.setIfInBounds n (some { d with seek := d.seek + count.toUInt32 }) }
        memory := t.memory.loadAt t.address (Bytes.toList (d.sectorRun d.seek.toNat count))
        address := t.address + (count * d.sectorSize).toUInt16
        moved := t.moved + count.toUInt8 } := by
  simp [moveRun, unitAfter]

/-- Writing changes the image, its flag and the seek position, and may be warned about. -/
theorem moveRun_write (there : t.disks.unit? n = some d) (count : Nat) :
    t.moveRun true n d count =
      { disks := { t.disks with
          units := t.disks.units.setIfInBounds n (some { d with
            image := d.image.extract 0 (d.seek.toNat * d.sectorSize) ++
              Bytes.ofList (t.memory.readBlock t.address (count * d.sectorSize)) ++
              d.image.extract ((d.seek.toNat + count) * d.sectorSize) d.image.size
            dirty := d.dirty || decide (0 < count)
            seek := d.seek + count.toUInt32 })
          pendingWarning :=
            if 0 < count ∧ d.manifest = true ∧ t.disks.isSilenced n = false then some n
            else t.disks.pendingWarning }
        memory := t.memory
        address := t.address + (count * d.sectorSize).toUInt16
        moved := t.moved + count.toUInt8 } := by
  have stop : (d.seek.toNat + count) * d.sectorSize = d.seek.toNat * d.sectorSize +
      (Bytes.ofList (t.memory.readBlock t.address (count * d.sectorSize))).size := by
    rw [DiskController.size_readBlock, Nat.add_mul]
  rw [stop, ← Bytes.overwrite_eq]
  simp [moveRun, unitAfter, DiskController.warnsOf_of_unit? there]

/-! ### Rounds -/

theorem check_eq (matched : t.disks.Matched n) (there : t.disks.unit? n = some d) :
    t.check write n =
      if d.sectorsFrom d.seek = 0 then .error (.sectorOutOfRange n d.seek) else .ok () := by
  have found := t.disks.unit_of_unit? n there
  have past : d.totalSectors ≤ d.seek ↔ d.sectorsFrom d.seek = 0 := by
    rw [UInt32.le_iff_toNat_le, DiskUnit.sectorsFrom]
    omega
  rw [check_of_unit found, DiskController.checkSector_of_matched _ _ _ matched,
    DiskController.checkRead_of_unit _ n _ found]
  simp only [past]

theorem move_read (matched : t.disks.Matched n) (there : t.disks.unit? n = some d) :
    t.move false n = t.moveRun false n d 1 := by
  have seek : t.disks.seek n = d.seek := t.disks.seek_of_unit n (t.disks.unit_of_unit? n there)
  have sector : t.disks.sectorBytes n d.seek = d.sectorRun d.seek.toNat 1 :=
    (DiskController.sectorBytes_of_unit? there d.seek).trans (d.sectorBytes_eq_run d.seek)
  have disks := DiskController.modifyUnit_of_unit? there ({ · with seek := d.seek + 1 })
  have moved : t.move false n =
      { disks := t.disks.setSeek n (d.seek + 1)
        memory := t.memory.loadAt t.address (Bytes.toList (t.disks.sectorBytes n d.seek))
        address := t.address + t.disks.sectorSize.toUInt16
        moved := t.moved + 1 } := by
    rw [← seek]
    rfl
  rw [moved, sector, DiskController.setSeek, disks, moveRun_read, Nat.one_mul, matched.unit? there]
  rfl

theorem move_write (matched : t.disks.Matched n) (there : t.disks.unit? n = some d) :
    t.move true n = t.moveRun true n d 1 := by
  have seek : t.disks.seek n = d.seek := t.disks.seek_of_unit n (t.disks.unit_of_unit? n there)
  have size : d.sectorSize = t.disks.sectorSize := matched.unit? there
  obtain ⟨bytes, block⟩ :
      ∃ bytes, bytes = Bytes.ofList (t.memory.readBlock t.address d.sectorSize) := ⟨_, rfl⟩
  have after : t.unitAfter true d 1 = { d.putSector d.seek bytes with seek := d.seek + 1 } := by
    rw [unitAfter, Nat.one_mul, ← block, Bool.true_and, decide_eq_true Nat.one_pos, Bool.or_true]
    rfl
  have moved : t.move true n =
      { disks := (t.disks.putSector n d.seek bytes).setSeek n (d.seek + 1)
        memory := t.memory
        address := t.address + (t.disks.putSector n d.seek bytes).sectorSize.toUInt16
        moved := t.moved + 1 } := by
    rw [← seek, block, size]
    rfl
  have written : (t.disks.putSector n d.seek bytes).setSeek n (d.seek + 1) =
      { (t.disks.modifyUnit n (DiskUnit.putSector · d.seek bytes)).modifyUnit n
          ({ · with seek := d.seek + 1 }) with
        pendingWarning := if t.disks.warnsOf n then some n else t.disks.pendingWarning } := by
    rw [DiskController.putSector_eq]
    rfl
  rw [moved, written, DiskController.putSector_eq, DiskController.modifyUnit_modifyUnit,
    DiskController.modifyUnit_of_unit? there, moveRun, after, Nat.one_mul, size]
  simp only [Nat.one_pos, true_and]
  rfl

/-- A round moves a run of one sector. -/
theorem move_eq_moveRun (matched : t.disks.Matched n) (there : t.disks.unit? n = some d) :
    t.move write n = t.moveRun write n d 1 := by
  cases write with
  | false => exact move_read matched there
  | true => exact move_write matched there

/-- The sectors after those of a run are still there. -/
theorem sectorsFrom_unitAfter (t : Transfer) (write : Bool) {count : Nat}
    (inside : count ≤ d.sectorsFrom d.seek) :
    (t.unitAfter write d count).sectorsFrom (t.unitAfter write d count).seek =
      d.sectorsFrom d.seek - count := by
  have size : (t.unitAfter write d count).image.size = d.image.size := by
    rcases Nat.eq_zero_or_pos count with rfl | pos
    · rw [unitAfter_zero]
    · cases write with
      | false => rfl
      | true =>
          have within := d.run_end_le pos inside
          rw [Nat.add_mul] at within
          refine Bytes.size_overwrite ?_
          rw [DiskController.size_readBlock]
          exact within
  have total : (t.unitAfter write d count).totalSectors = d.totalSectors := by
    rw [DiskUnit.totalSectors, size]
    rfl
  have place : (t.unitAfter write d count).seek.toNat = d.seek.toNat + count :=
    d.toNat_add_of_le_sectorsFrom inside
  rw [DiskUnit.sectorsFrom, total, place, Nat.sub_add_eq]
  rfl

/-- **The rounds of a transfer** move in one piece the sectors that are there. By induction on the
number that is asked for. -/
theorem moveMany_eq (matched : t.disks.Matched n) (there : t.disks.unit? n = some d) (count : Nat) :
    t.moveMany write n count =
      (if count ≤ d.sectorsFrom d.seek then .success else .outOfRange,
        t.moveRun write n d (min count (d.sectorsFrom d.seek))) := by
  induction count generalizing t d with
  | zero => rw [moveMany, if_pos (Nat.zero_le _), Nat.zero_min, moveRun_zero write there]
  | succ count ih =>
      rw [moveMany, check_eq write matched there]
      by_cases past : d.sectorsFrom d.seek = 0
      · rw [if_pos past, past, if_neg (Nat.not_succ_le_zero count), Nat.min_zero,
          moveRun_zero write there]
        rfl
      · have one : 1 ≤ d.sectorsFrom d.seek := Nat.pos_of_ne_zero past
        have ahead := sectorsFrom_unitAfter t write one
        have moved := ih (t := t.moveRun write n d 1) (d := t.unitAfter write d 1)
          (matched_moveRun write matched there 1) (unit?_moveRun write there 1)
        have rest : 1 + min count (d.sectorsFrom d.seek - 1) =
            min (count + 1) (d.sectorsFrom d.seek) := by omega
        have enough : count ≤ d.sectorsFrom d.seek - 1 ↔ count + 1 ≤ d.sectorsFrom d.seek := by omega
        rw [if_neg past]
        show (t.move write n).moveMany write n count = _
        rw [move_eq_moveRun write matched there, moved, ahead, moveRun_add write there (by omega), rest]
        simp only [enough]

/-- Where there is no unit, no sectors at all can be moved and no others. -/
theorem moveMany_of_missing {e : MachineError} (missing : t.disks.unit n = .error e) (count : Nat) :
    t.moveMany write n count = (if count = 0 then .success else resultOf e, t) := by
  cases count with
  | zero => rfl
  | succ count =>
      rw [moveMany, check_of_error missing]
      rfl

end Transfer

end BankedZ80.Hbios
