import BankedZ80.Proofs.Disk.Registers

/-!
# Sectors

A sector that is there lies within the image, and two sectors never share a byte. So a sector write
changes this sector and no other (`DiskUnit.sectorBytes_putSector`), and the image keeps its length.

`DiskController.kept` is what is in a slot apart from slice count and seek position, which come and
go with the other slots and with every transfer: the image, its sector size and its flags.
-/

namespace BankedZ80

namespace DiskUnit

variable {d : DiskUnit} {lba l : UInt32}

/-- A sector that is there lies within the image. -/
theorem sector_end_le (h : lba < d.totalSectors) :
    lba.toNat * d.sectorSize + d.sectorSize ≤ d.image.size := by
  have below : lba.toNat < (d.image.size / d.sectorSize) % 2 ^ 32 := by
    rw [totalSectors, UInt32.lt_iff_toNat_lt, Nat.toUInt32_eq, UInt32.toNat_ofNat'] at h
    exact h
  have within : lba.toNat + 1 ≤ d.image.size / d.sectorSize :=
    Nat.le_trans below (Nat.mod_le _ _)
  calc lba.toNat * d.sectorSize + d.sectorSize
      = (lba.toNat + 1) * d.sectorSize := (Nat.succ_mul lba.toNat d.sectorSize).symm
    _ ≤ d.image.size / d.sectorSize * d.sectorSize := Nat.mul_le_mul_right d.sectorSize within
    _ ≤ d.image.size := Nat.div_mul_le_self d.image.size d.sectorSize

/-- Two sectors share no byte. -/
theorem sectors_disjoint (size : Nat) (h : l ≠ lba) :
    l.toNat * size + size ≤ lba.toNat * size ∨ lba.toNat * size + size ≤ l.toNat * size := by
  have ne : l.toNat ≠ lba.toNat := fun eq => h (UInt32.toNat_inj.1 eq)
  rw [← Nat.succ_mul, ← Nat.succ_mul]
  rcases Nat.lt_or_gt_of_ne ne with lt | gt
  · exact .inl (Nat.mul_le_mul_right size lt)
  · exact .inr (Nat.mul_le_mul_right size gt)

variable {bytes : ByteArray} (h : lba < d.totalSectors) (size : bytes.size = d.sectorSize)
include h size

theorem size_putSector : (d.putSector lba bytes).image.size = d.image.size := by
  apply Bytes.size_overwrite
  rw [size]
  exact sector_end_le h

theorem totalSectors_putSector : (d.putSector lba bytes).totalSectors = d.totalSectors := by
  have eq := size_putSector h size
  rw [totalSectors, eq]
  rfl

/-- **A sector write changes one sector.** -/
theorem sectorBytes_putSector (hl : l < d.totalSectors) :
    (d.putSector lba bytes).sectorBytes l = if l = lba then bytes else d.sectorBytes l := by
  have fits : lba.toNat * d.sectorSize + bytes.size ≤ d.image.size := by
    rw [size]
    exact sector_end_le h
  show (Bytes.overwrite d.image (lba.toNat * d.sectorSize) bytes).extract (l.toNat * d.sectorSize)
    (l.toNat * d.sectorSize + d.sectorSize) = _
  split
  · next same =>
      rw [same, ← size]
      rw [← size] at fits
      exact Bytes.extract_overwrite fits
  · next other =>
      refine Bytes.extract_overwrite_of_disjoint fits (Nat.le_add_right _ _) (sector_end_le hl) ?_
      rw [size]
      exact sectors_disjoint d.sectorSize other

end DiskUnit

/-! ### The controller -/

namespace DiskController

/-- Without images there are no units. -/
theorem unit?_of_replicate {c : DiskController} (h : c.units = Vector.replicate maxUnits none)
    (n : Nat) : c.unit? n = none := by
  rw [unit?, h, Vector.getElem?_replicate]
  split <;> rfl

theorem lt_of_unit? {c : DiskController} {n : Nat} {d : DiskUnit} (there : c.unit? n = some d) :
    n < maxUnits := by
  refine Nat.lt_of_not_le fun past => ?_
  rw [unit?, Vector.getElem?_eq_none past] at there
  cases there

theorem unit?_modifyUnit (c : DiskController) (n : Nat) (f : DiskUnit → DiskUnit) (k : Nat) :
    (c.modifyUnit n f).unit? k = (c.unit? k).map (if n = k then f else id) := by
  by_cases hk : k < maxUnits
  · rw [unit?, unit?, Vector.getElem?_eq_getElem hk, Vector.getElem?_eq_getElem hk, modifyUnit,
      getElem_modifySlot, Option.join_some, Option.join_some]
    split
    · rfl
    · rw [Option.map_id, id]
  · rw [unit?, unit?, Vector.getElem?_eq_none (Nat.le_of_not_lt hk),
      Vector.getElem?_eq_none (Nat.le_of_not_lt hk)]
    rfl

theorem unit?_modifySlot (c : DiskController) {n : Nat} (hn : n < maxUnits) (slot : Option DiskUnit)
    (k : Nat) :
    unit? { c with units := modifySlot c.units n fun _ => slot } k =
      if n = k then slot else c.unit? k := by
  unfold unit?
  by_cases hk : k < maxUnits
  · rw [Vector.getElem?_eq_getElem hk, Vector.getElem?_eq_getElem hk, getElem_modifySlot]
    split <;> rfl
  · have other : n ≠ k := fun h => hk (h ▸ hn)
    rw [Vector.getElem?_eq_none (Nat.le_of_not_lt hk), Vector.getElem?_eq_none (Nat.le_of_not_lt hk),
      if_neg other]

theorem unit?_putSector (c : DiskController) (n : Nat) (lba : UInt32) (bytes : ByteArray) (k : Nat) :
    (c.putSector n lba bytes).unit? k =
      (c.unit? k).map (if n = k then (·.putSector lba bytes) else id) := by
  rw [putSector_eq]
  exact unit?_modifyUnit c n _ k

/-- Where there is a unit, its seek position can be set. -/
theorem seek_setSeek {c : DiskController} {n : Nat} {d : DiskUnit} (h : c.unit? n = some d)
    (lba : UInt32) : (c.setSeek n lba).seek n = lba := by
  rw [seek, setSeek, unit?_modifyUnit, h, if_pos rfl]
  rfl

/-! ### What a slot keeps -/

/-- The unit in a slot, its slice count and seek position aside. -/
def kept (c : DiskController) (n : Nat) : Option DiskUnit :=
  (c.unit? n).map ({ · with slices := 1, seek := 0 })

variable {c c' : DiskController}

theorem kept_of_unit? {n : Nat} {d : DiskUnit} (h : c.unit? n = some d) :
    c.kept n = some { d with slices := 1, seek := 0 } := by
  rw [kept, h]
  rfl

theorem image_eq_kept (c : DiskController) (n : Nat) : c.image n = (c.kept n).map (·.image) := by
  rw [image, kept, Option.map_map]
  rfl

/-- The registers and seek positions play no part. -/
theorem kept_of_resetRegisters (same : c'.resetRegisters = c.resetRegisters) (n : Nat) :
    c'.kept n = c.kept n := by
  have forget (c : DiskController) :
      c.kept n = (c.resetRegisters.unit? n).map ({ · with slices := 1 }) := by
    rw [unit?_resetRegisters, Option.map_map]
    rfl
  rw [forget, forget, same]

theorem kept_of_units (same : c'.units = c.units) (n : Nat) : c'.kept n = c.kept n := by
  rw [kept, kept, unit?, unit?, same]

/-- The slice counts play no part. -/
theorem kept_rebalance (c : DiskController) (n : Nat) : c.rebalance.kept n = c.kept n := by
  unfold rebalance
  split
  · rw [kept, unit?_map_units, Option.map_map]
    rfl
  · rfl

/-- A slot that is changed keeps what the change makes of it, and every other slot keeps what it
has. -/
theorem kept_modifyUnit (c : DiskController) (n : Nat) {f g : DiskUnit → DiskUnit}
    (h : ∀ d, { f d with slices := 1, seek := 0 } = g { d with slices := 1, seek := 0 }) (k : Nat) :
    (c.modifyUnit n f).kept k = if n = k then (c.kept k).map g else c.kept k := by
  rw [kept, kept, unit?_modifyUnit]
  cases c.unit? k with
  | none => split <;> rfl
  | some d =>
      split
      · exact congrArg some (h d)
      · rfl

theorem kept_putSector (c : DiskController) (n : Nat) (lba : UInt32) (bytes : ByteArray) (k : Nat) :
    (c.putSector n lba bytes).kept k =
      if n = k then (c.kept k).map (·.putSector lba bytes) else c.kept k := by
  rw [putSector_eq]
  exact kept_modifyUnit c n (fun d => rfl) k

/-- Slice counts and seek positions are set without a trace. -/
theorem kept_modifyUnit_id (c : DiskController) (n : Nat) {f : DiskUnit → DiskUnit}
    (h : ∀ d, { f d with slices := 1, seek := 0 } = { d with slices := 1, seek := 0 }) (k : Nat) :
    (c.modifyUnit n f).kept k = c.kept k := by
  rw [kept_modifyUnit c n (g := id) h, Option.map_id, id, ite_self]

/-- A slot that is filled anew, or emptied, keeps nothing of before. -/
theorem kept_modifySlot (c : DiskController) {n : Nat} (hn : n < maxUnits) (slot : Option DiskUnit)
    (k : Nat) :
    kept { c with units := modifySlot c.units n fun _ => slot } k =
      if n = k then slot.map ({ · with slices := 1, seek := 0 }) else c.kept k := by
  rw [kept, unit?_modifySlot c hn]
  split <;> rfl

end DiskController

end BankedZ80
