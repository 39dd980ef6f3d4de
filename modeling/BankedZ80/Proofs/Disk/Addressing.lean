import BankedZ80.Hbios.Call
import BankedZ80.Proofs.Config
import BankedZ80.Proofs.Disk.Outcome

/-!
# Every byte of an image has an address

An image that is loaded is addressable if guest and host find all of it: the unit counts its sectors,
the guest is told that number by the capacity command and by the firmware, and each byte is in the
sector, and at the place, that its index says.

Sectors are numbered by 32 bits and counted modulo 2³², while an image is accepted at any length of
whole sectors. So what is accepted is addressable exactly if it has fewer than 2³² sectors
(`DiskController.load_addressable_iff`); `wrappedImage_unreadable` is the smallest image that is not.
-/

namespace BankedZ80

namespace DiskUnit

variable {d : DiskUnit}

theorem toNat_totalSectors (d : DiskUnit) :
    d.totalSectors.toNat = d.image.size / d.sectorSize % 2 ^ 32 := by
  rw [totalSectors, Nat.toUInt32_eq, UInt32.toNat_ofNat']

/-- Within a sector that is there, the bytes are those of the image. -/
theorem get_sectorBytes {lba : UInt32} (there : lba < d.totalSectors) {i : Nat}
    (h : i < d.sectorSize) :
    Bytes.get (d.sectorBytes lba) i = Bytes.get d.image (lba.toNat * d.sectorSize + i) := by
  have within := sector_end_le there
  have size : (d.sectorBytes lba).size = d.sectorSize := by
    rw [sectorBytes, ByteArray.size_extract, Nat.min_eq_left within]
    omega
  have inside : i < (d.sectorBytes lba).size := by omega
  have place : lba.toNat * d.sectorSize + i < d.image.size := by omega
  rw [Bytes.get, dif_pos inside, Bytes.get, dif_pos place]
  exact ByteArray.getElem_extract inside

end DiskUnit

namespace DiskController

variable {c c' : DiskController} {n : Nat} {image : ByteArray}

/-- The number in registers 1 to 4, the lowest byte first. -/
def shownBlock (c : DiskController) : Nat :=
  (c.readRegister 1).toNat + 256 * (c.readRegister 2).toNat + 65536 * (c.readRegister 3).toNat +
    16777216 * (c.readRegister 4).toNat

theorem shownBlock_eq (c : DiskController) : c.shownBlock = c.lba.toNat := by
  have small := c.lba.toNat_lt
  show (lbaByte c.lba 0).toNat + 256 * (lbaByte c.lba 1).toNat + 65536 * (lbaByte c.lba 2).toNat +
    16777216 * (lbaByte c.lba 3).toNat = c.lba.toNat
  rw [toNat_lbaByte, toNat_lbaByte, toNat_lbaByte, toNat_lbaByte]
  omega

/-- **All of an image is found** in its slot. -/
structure Addressable (c : DiskController) (n : Nat) (image : ByteArray) : Prop where
  /-- The sectors of the unit are the whole image, and there is one at least. -/
  unit : ∃ d, c.unit n = .ok d ∧ d.image = image ∧
    d.totalSectors.toNat * c.sectorSize = image.size ∧ 1 ≤ d.totalSectors.toNat
  /-- A byte is in the sector and at the place that its index says. -/
  byte (i : Nat) : i < image.size → ∃ lba bytes, lba.toNat = i / c.sectorSize ∧
    c.readSector n lba = .ok bytes ∧ bytes.size = c.sectorSize ∧
    Bytes.get bytes (i % c.sectorSize) = Bytes.get image i
  /-- The guest selects the unit, gives the capacity command and reads the block address. -/
  command (m : Memory) :
    let r := ((c.writeRegister 0 n.toUInt8 m).1.writeRegister 7 3 m).1
    r.readRegister 7 = DiskStatus.ok.code ∧ r.shownBlock = image.size / c.sectorSize
  /-- The guest calls the firmware, which answers with the number and the size of the sectors. -/
  call (now : UInt64) (s : HbiosState) : s.board.devices.disks = c →
    s.core.b = HbiosFunction.diskCapacity.code → s.core.c.toNat = n →
    let r := (Hbios.call now s).1.core
    r.a = HbiosResult.success.code ∧
      r.de.toNat * 65536 + r.hl.toNat = image.size / c.sectorSize ∧ r.bc.toNat = c.sectorSize

/-! ### What is loaded -/

/-- After loading, the unit in the slot has the image, whose sectors are whole. -/
theorem loaded_unit (loaded : c.load n image = .ok c') :
    n < maxUnits ∧ c'.sectorSize = c.sectorSize ∧ image.size ≠ 0 ∧ image.size % c.sectorSize = 0 ∧
      ∃ d, c'.unit? n = some d ∧ d.image = image ∧ d.sectorSize = c.sectorSize := by
  obtain ⟨there, checked, rfl⟩ := load_eq_ok.1 loaded
  obtain ⟨some_bytes, whole⟩ := DiskUnit.checkSize_eq_ok.1 checked
  refine ⟨there, ?_, some_bytes, whole, ?_⟩
  · rw [rebalance_eq]
  · have kept := kept_rebalance
      { c with units := modifySlot c.units n fun _ => some { image, sectorSize := c.sectorSize } } n
    rw [kept_modifySlot c there, if_pos rfl, Option.map_some] at kept
    obtain ⟨d, found, same⟩ := Option.map_eq_some_iff.1 kept
    injection same with image sectorSize
    exact ⟨d, found, image, sectorSize⟩

/-- The capacity command shows the number of sectors that the unit counts. -/
theorem capacity_command {d : DiskUnit} (there : c.unit? n = some d) (m : Memory) :
    let r := ((c.writeRegister 0 n.toUInt8 m).1.writeRegister 7 3 m).1
    r.readRegister 7 = DiskStatus.ok.code ∧ r.shownBlock = d.totalSectors.toNat := by
  obtain ⟨asked, selected⟩ : ∃ asked, asked = { c with selected := n.toUInt8 } := ⟨_, rfl⟩
  have number : asked.selected.toNat = n := by
    have slots := lt_of_unit? there
    unfold maxUnits at slots
    rw [selected]
    exact UInt8.toNat_ofNat_of_lt' (show n < 256 by omega)
  have there : asked.unit? asked.selected.toNat = some d := by
    rw [number, selected]
    exact there
  have passed : asked.checkCommand 3 = .ok () := by
    show (do let _ ← asked.unit asked.selected.toNat; return ()) = _
    rw [unit_of_unit? _ _ there]
    rfl
  have done : (asked.command 3 m).1 =
      { asked with lba := d.totalSectors, status := DiskStatus.ok.code } := by
    rw [command, if_pos (by decide), passed, runCommand_capacity, there]
    rfl
  have written : (c.writeRegister 0 n.toUInt8 m).1.writeRegister 7 3 m = asked.command 3 m := by
    rw [selected]
    rfl
  dsimp only
  rw [written, done, shownBlock_eq]
  exact ⟨rfl, rfl⟩

/-- The firmware answers with the number of sectors that the unit counts. -/
theorem capacity_call {d : DiskUnit} (now : UInt64) (s : HbiosState)
    (there : s.board.devices.disks.unit? s.core.c.toNat = some d) (small : d.sectorSize ≤ 4096)
    (function : s.core.b = HbiosFunction.diskCapacity.code) :
    let r := (Hbios.call now s).1.core
    r.a = HbiosResult.success.code ∧ r.de.toNat * 65536 + r.hl.toNat = d.totalSectors.toNat ∧
      r.bc.toNat = d.sectorSize := by
  have sectors := d.totalSectors.toNat_lt
  have served : Hbios.call now s = Hbios.diskCall s .diskCapacity := by
    rw [Hbios.call, function, HbiosFunction.ofCode?_code]
  have answer : (Hbios.diskCall s .diskCapacity).1.core =
      Hbios.setResult
        (((s.core.setDE (d.totalSectors.toNat / 65536).toUInt16).setHL
          d.totalSectors.toNat.toUInt16).setBC d.sectorSize.toUInt16) .success := by
    unfold Hbios.diskCall
    dsimp only
    rw [unit_of_unit? _ _ there]
    rfl
  have upper : (d.totalSectors.toNat / 65536).toUInt16.toNat = d.totalSectors.toNat / 65536 :=
    UInt16.toNat_ofNat_of_lt' (show _ < 65536 by omega)
  have lower : d.totalSectors.toNat.toUInt16.toNat = d.totalSectors.toNat % 65536 := by
    rw [Nat.toUInt16_eq, UInt16.toNat_ofNat']
  dsimp only
  rw [served, answer]
  refine ⟨rfl, ?_, ?_⟩
  · show (word (highByte _) (lowByte _)).toNat * 65536 + (word (highByte _) (lowByte _)).toNat = _
    rw [word_highByte_lowByte, word_highByte_lowByte, upper, lower]
    omega
  · show (word (highByte _) (lowByte _)).toNat = _
    rw [word_highByte_lowByte]
    exact UInt16.toNat_ofNat_of_lt' (show _ < 65536 by omega)

/-! ### What fits is addressable, and nothing else is -/

/-- **An image whose sectors can be numbered is addressable.** -/
theorem addressable_of_fits (loaded : c.load n image = .ok c') (positive : 0 < c.sectorSize)
    (small : c.sectorSize ≤ 4096) (fits : image.size / c.sectorSize < 2 ^ 32) :
    c'.Addressable n image := by
  obtain ⟨there, sectorSize, some_bytes, whole, d, found, same, size⟩ := loaded_unit loaded
  have total : d.totalSectors.toNat = image.size / c.sectorSize := by
    rw [d.toNat_totalSectors, same, size]
    exact Nat.mod_eq_of_lt fits
  have exact_size : image.size / c.sectorSize * c.sectorSize = image.size :=
    Nat.div_mul_cancel (Nat.dvd_of_mod_eq_zero whole)
  constructor
  case unit =>
    refine ⟨d, unit_of_unit? _ _ found, same, ?_, ?_⟩
    · rw [sectorSize, total, exact_size]
    · rw [total]
      apply Nat.pos_of_ne_zero
      intro none_counted
      rw [none_counted] at exact_size
      omega
  case byte =>
    intro i inside
    rw [sectorSize]
    have sector : i / c.sectorSize < image.size / c.sectorSize := by
      apply (Nat.div_lt_iff_lt_mul positive).2
      rw [exact_size]
      exact inside
    obtain ⟨lba, number⟩ : ∃ lba : UInt32, lba.toNat = i / c.sectorSize :=
      ⟨(i / c.sectorSize).toUInt32, UInt32.toNat_ofNat_of_lt' (Nat.lt_trans sector fits)⟩
    have counted : lba < d.totalSectors := by
      apply UInt32.lt_iff_toNat_lt.2
      rw [number, total]
      exact sector
    have place : i % c.sectorSize < d.sectorSize := by
      rw [size]
      exact Nat.mod_lt i positive
    have within := DiskUnit.sector_end_le counted
    refine ⟨lba, d.sectorBytes lba, number, readSector_of_unit _ _ _ found counted, ?_, ?_⟩
    · rw [DiskUnit.sectorBytes, ByteArray.size_extract, Nat.min_eq_left within, size]
      omega
    · rw [DiskUnit.get_sectorBytes counted place, same, number, size, Nat.mul_comm, Nat.div_add_mod]
  case command =>
    intro m
    rw [sectorSize, ← total]
    exact capacity_command found m
  case call =>
    rintro now s disks function rfl
    rw [sectorSize, ← total, ← size]
    rw [← disks] at found
    rw [← size] at small
    exact capacity_call now s found small function

/-- An image of too many sectors is not counted right. -/
theorem not_addressable_of_many (loaded : c.load n image = .ok c')
    (many : 2 ^ 32 ≤ image.size / c.sectorSize) : ¬c'.Addressable n image := by
  intro all
  obtain ⟨-, sectorSize, -⟩ := loaded_unit loaded
  obtain ⟨d, -, -, total, -⟩ := all.unit
  have counted := d.totalSectors.toNat_lt
  rw [sectorSize] at total
  have quotient : image.size / c.sectorSize ≤ d.totalSectors.toNat := by
    rw [← total]
    exact Nat.div_le_of_le_mul (Nat.le_of_eq (Nat.mul_comm _ _))
  omega

/-- **What is accepted is addressable if and only if it has fewer than 2³² sectors**, for every sector
size of a valid configuration. -/
theorem load_addressable_iff {config : Config} (valid : config.validate = .ok ())
    (configured : c.sectorSize = config.sectorSize) (loaded : c.load n image = .ok c') :
    c'.Addressable n image ↔ image.size / c.sectorSize < 2 ^ 32 := by
  obtain ⟨positive, small⟩ := Config.bounds_of_isSectorSize (Config.valid_of_validate valid).sectorSize
  rw [← configured] at positive small
  constructor
  · intro all
    apply Nat.lt_of_not_le
    intro many
    exact not_addressable_of_many loaded many all
  · exact addressable_of_fits loaded positive small

/-- Two sectors of the usual size in the last slot. -/
theorem twoSectors_addressable :
    ∃ c', load { sectorSize := 512, sectorsPerSlice := 16384, autoSlices := true } 15
        (Bytes.zeros 1024) = .ok c' ∧ c'.Addressable 15 (Bytes.zeros 1024) := by
  have length := Bytes.size_zeros 1024
  generalize Bytes.zeros 1024 = image at length ⊢
  have checked : DiskUnit.checkSize image.size 512 = .ok () := by
    rw [length]
    rfl
  obtain ⟨c', loaded⟩ : ∃ c', load { sectorSize := 512, sectorsPerSlice := 16384, autoSlices := true } 15
      image = .ok c' := ⟨_, load_eq_ok.2 ⟨by decide, checked, rfl⟩⟩
  have valid : ({} : Config).validate = .ok () := by decide +kernel
  have fits : image.size / 512 < 2 ^ 32 := by omega
  exact ⟨c', loaded, (load_addressable_iff valid rfl loaded).2 fits⟩

/-- 2³² sectors of 128 bytes are accepted, and none of them is there. -/
theorem wrappedImage_unreadable :
    ({ sectorSize := 128 } : Config).validate = .ok () ∧
      ∃ c', load { sectorSize := 128, sectorsPerSlice := 16384, autoSlices := true } 0
          (Bytes.zeros 549755813888) = .ok c' ∧
        (∃ d, c'.unit 0 = .ok d ∧ d.totalSectors = 0) ∧
        c'.readSector 0 0 = .error (.sectorOutOfRange 0 0) := by
  refine ⟨by decide +kernel, ?_⟩
  -- Only the length of the image is ever looked at.
  have length := Bytes.size_zeros 549755813888
  generalize Bytes.zeros 549755813888 = image at length ⊢
  have checked : DiskUnit.checkSize image.size 128 = .ok () := by
    rw [length]
    rfl
  obtain ⟨c', loaded⟩ : ∃ c', load { sectorSize := 128, sectorsPerSlice := 16384, autoSlices := true } 0
      image = .ok c' := ⟨_, load_eq_ok.2 ⟨by decide, checked, rfl⟩⟩
  obtain ⟨-, -, -, -, d, found, same, size⟩ := loaded_unit loaded
  have unit := unit_of_unit? _ _ found
  have none_counted : d.totalSectors = 0 := by
    apply UInt32.toNat_inj.1
    rw [d.toNat_totalSectors, same, size, length]
    rfl
  refine ⟨c', loaded, ⟨d, unit, none_counted⟩, ?_⟩
  rw [readSector, checkRead_of_unit _ _ _ unit, none_counted, if_pos (by decide)]
  rfl

end DiskController

end BankedZ80
