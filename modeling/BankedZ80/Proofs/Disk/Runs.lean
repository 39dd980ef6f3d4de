import BankedZ80.Proofs.Disk.Command

/-!
# Sectors in a row

Both ways to a disk move one sector at a time. A run of sectors that are all there lies in one piece in
the image, and in memory from one address on, with the end of the address space joined to its start. So
moving the sectors one by one is moving the run in one piece:

* bytes that are read from an image, or from memory, are those of the first sectors and then those of
  the others (`DiskUnit.sectorRun_add`, `Memory.readBlock_add`),
* and what is stored is stored in one piece (`Memory.loadAt_append`, `Bytes.overwrite_append`).

`DiskUnit.sectorsFrom` says how many sectors there are from a block address on.
-/

namespace BankedZ80

/-! ### Bytes in one piece -/

namespace Bytes

theorem toList_append (b b' : ByteArray) : toList (b ++ b') = toList b ++ toList b' := by
  simp [toList]

theorem ofList_append (bytes bytes' : List UInt8) :
    ofList (bytes ++ bytes') = ofList bytes ++ ofList bytes' := by
  apply ByteArray.ext
  simp [ofList]

/-- Nothing is replaced by no bytes. -/
theorem overwrite_empty (b : ByteArray) (start : Nat) : overwrite b start .empty = b := by
  apply ByteArray.ext
  rw [overwrite_eq]
  simp

/-- Bytes that follow each other are replaced in one piece. -/
theorem overwrite_append {b x y : ByteArray} {start : Nat} (h : start + x.size + y.size ≤ b.size) :
    overwrite (overwrite b start x) (start + x.size) y = overwrite b start (x ++ y) := by
  have first : start + x.size ≤ b.size := by omega
  have front : (overwrite b start x).extract 0 (start + x.size) = b.extract 0 start ++ x := by
    rw [ByteArray.extract_eq_extract_append_extract start (Nat.zero_le start) (Nat.le_add_right _ _),
      extract_overwrite first,
      extract_overwrite_of_disjoint first (Nat.zero_le start) (by omega) (.inl (Nat.le_refl start))]
  have back : (overwrite b start x).extract (start + x.size + y.size) b.size =
      b.extract (start + x.size + y.size) b.size :=
    extract_overwrite_of_disjoint first h (Nat.le_refl b.size) (.inr (Nat.le_add_right _ _))
  rw [overwrite_eq (overwrite b start x), overwrite_eq b start (x ++ y), size_overwrite first, front,
    back, ByteArray.size_append, Nat.add_assoc start, ← ByteArray.append_assoc]

end Bytes

/-! ### Sectors of a unit -/

namespace DiskUnit

variable (d : DiskUnit)

/-- How many sectors there are from a block address on. -/
def sectorsFrom (lba : UInt32) : Nat := d.totalSectors.toNat - lba.toNat

/-- The bytes of some sectors in a row. -/
def sectorRun (first count : Nat) : ByteArray :=
  d.image.extract (first * d.sectorSize) ((first + count) * d.sectorSize)

/-- Sectors are counted in 32 bits. An image with no more of them ends with the last one counted. -/
theorem sectorsFrom_eq (lba : UInt32) (h : d.image.size / d.sectorSize < 2 ^ 32) :
    d.sectorsFrom lba = d.image.size / d.sectorSize - lba.toNat := by
  rw [sectorsFrom, totalSectors, Nat.toUInt32_eq, UInt32.toNat_ofNat', Nat.mod_eq_of_lt h]

/-- The block address after some sectors that are there does not wrap. -/
theorem toNat_add_of_le_sectorsFrom {lba : UInt32} {count : Nat} (h : count ≤ d.sectorsFrom lba) :
    (lba + count.toUInt32).toNat = lba.toNat + count := by
  have sectors := d.totalSectors.toNat_lt
  have address := lba.toNat_lt
  unfold sectorsFrom at h
  rw [Nat.toUInt32_eq, UInt32.toNat_add, UInt32.toNat_ofNat']
  omega

/-- Sectors that are there lie within the image. -/
theorem run_end_le {lba : UInt32} {count : Nat} (pos : 0 < count) (h : count ≤ d.sectorsFrom lba) :
    (lba.toNat + count) * d.sectorSize ≤ d.image.size := by
  have counted : d.totalSectors.toNat ≤ d.image.size / d.sectorSize := by
    rw [totalSectors, Nat.toUInt32_eq, UInt32.toNat_ofNat']
    exact Nat.mod_le _ _
  have within : lba.toNat + count ≤ d.image.size / d.sectorSize := by
    unfold sectorsFrom at h
    omega
  calc (lba.toNat + count) * d.sectorSize
      ≤ d.image.size / d.sectorSize * d.sectorSize := Nat.mul_le_mul_right d.sectorSize within
    _ ≤ d.image.size := Nat.div_mul_le_self d.image.size d.sectorSize

theorem sectorBytes_eq_run (lba : UInt32) : d.sectorBytes lba = d.sectorRun lba.toNat 1 := by
  rw [sectorRun, Nat.add_mul, Nat.one_mul]
  rfl

theorem sectorRun_zero (first : Nat) : d.sectorRun first 0 = .empty := by
  rw [sectorRun, Nat.add_zero, ByteArray.extract_eq_empty_iff]
  omega

theorem sectorRun_add (first count count' : Nat) :
    d.sectorRun first (count + count') =
      d.sectorRun first count ++ d.sectorRun (first + count) count' := by
  have start : first * d.sectorSize ≤ (first + count) * d.sectorSize :=
    Nat.mul_le_mul_right d.sectorSize (Nat.le_add_right first count)
  have stop : (first + count) * d.sectorSize ≤ (first + (count + count')) * d.sectorSize :=
    Nat.mul_le_mul_right d.sectorSize (by omega)
  rw [sectorRun, ByteArray.extract_eq_extract_append_extract _ start stop, ← Nat.add_assoc]
  rfl

/-- A run of sectors that are there has the bytes of so many sectors. -/
theorem size_sectorRun {lba : UInt32} {count : Nat} (h : count ≤ d.sectorsFrom lba) :
    (d.sectorRun lba.toNat count).size = count * d.sectorSize := by
  cases count with
  | zero => simp [sectorRun_zero]
  | succ count =>
      have within := d.run_end_le (Nat.succ_pos count) h
      rw [sectorRun, ByteArray.size_extract, Nat.min_eq_left within, Nat.add_mul,
        Nat.add_sub_cancel_left]

end DiskUnit

end BankedZ80
