import BankedZ80.Proofs.Disk.WellFormed
import Mathlib.Data.List.Nodup

/-!
# Slices and drive letters

Letters are given out by slice count and capacity, while an address within a slice is checked against
slice count, slice size and the end of the image. Both agree:

* `mem_driveMap` says what a letter leads to, and `sliceLba_eq_ok` which addresses are accepted.
* A slice that gets a letter starts within the image, and lies within it when the image has a whole
  slice (`sliceStart_lt`, `sliceEnd_le`).
* `DiskController.DrivesSound` puts it together; it holds of every well-formed controller whose units
  have less than 2³² sectors.
-/

namespace BankedZ80

/-! ### Where a slice lies -/

section

variable {sectors perSlice slice : Nat}

theorem sliceEnd_le (pos : 0 < perSlice) (room : perSlice ≤ sectors)
    (h : slice < sliceCapacity sectors perSlice) : slice * perSlice + perSlice ≤ sectors := by
  have whole : 1 ≤ sectors / perSlice := (Nat.one_le_div_iff pos).2 room
  have capacity : sliceCapacity sectors perSlice = sectors / perSlice := by
    rw [sliceCapacity, Nat.max_eq_right pos, Nat.max_eq_right whole]
  rw [capacity] at h
  calc slice * perSlice + perSlice
      = (slice + 1) * perSlice := (Nat.succ_mul slice perSlice).symm
    _ ≤ sectors / perSlice * perSlice := Nat.mul_le_mul_right perSlice h
    _ ≤ sectors := Nat.div_mul_le_self sectors perSlice

theorem sliceStart_lt (pos : 0 < perSlice) (some_sectors : 0 < sectors)
    (h : slice < sliceCapacity sectors perSlice) : slice * perSlice < sectors := by
  by_cases room : perSlice ≤ sectors
  · have inside := sliceEnd_le pos room h
    omega
  · -- A small image counts as one slice, the first.
    have none : sectors / perSlice = 0 := Nat.div_eq_of_lt (Nat.lt_of_not_le room)
    rw [sliceCapacity, Nat.max_eq_right pos, none] at h
    have first : slice = 0 := by omega
    rw [first, Nat.zero_mul]
    exact some_sectors

/-- Slices of equal size do not overlap. -/
theorem slice_eq_of_address_eq {slice' lba lba' : Nat} (h : lba < perSlice) (h' : lba' < perSlice)
    (same : slice * perSlice + lba = slice' * perSlice + lba') : slice = slice' ∧ lba = lba' := by
  have lba_eq : lba = lba' := by
    have rest := congrArg (· % perSlice) same
    simp only [Nat.mul_add_mod_self_right, Nat.mod_eq_of_lt h, Nat.mod_eq_of_lt h'] at rest
    exact rest
  have starts : slice * perSlice = slice' * perSlice := by omega
  exact ⟨Nat.eq_of_mul_eq_mul_right (by omega) starts, lba_eq⟩

end

/-! ### Letters -/

/-- A letter leads to a usable slice of a unit. -/
theorem mem_assignDrivesFrom {perSlice used : Nat} {sources : List DriveSource} {d : Drive}
    (h : d ∈ assignDrivesFrom perSlice used sources) :
    ∃ s ∈ sources, d.unit = s.unit ∧ d.slice < s.usable perSlice := by
  induction sources generalizing used with
  | nil => cases h
  | cons s rest ih =>
      rw [assignDrivesFrom, List.mem_append] at h
      rcases h with here | later
      · obtain ⟨slice, below, rfl⟩ := List.mem_map.1 here
        have below := List.mem_range.1 below
        exact ⟨s, List.mem_cons_self, rfl, Nat.lt_of_lt_of_le below (Nat.min_le_left _ _)⟩
      · obtain ⟨s', mem, facts⟩ := ih later
        exact ⟨s', List.mem_cons_of_mem s mem, facts⟩

/-- No slice gets two letters. By induction on the units. -/
theorem nodup_assignDrivesFrom {perSlice used : Nat} {sources : List DriveSource}
    (nodup : (sources.map (·.unit)).Nodup) :
    ((assignDrivesFrom perSlice used sources).map fun d => (d.unit, d.slice)).Nodup := by
  induction sources generalizing used with
  | nil => exact List.nodup_nil
  | cons s rest ih =>
      rw [List.map_cons, List.nodup_cons] at nodup
      obtain ⟨fresh, nodup⟩ := nodup
      rw [assignDrivesFrom, List.map_append, List.map_map]
      refine List.nodup_append.2 ⟨?_, ih nodup, ?_⟩
      · refine List.Nodup.map (fun i j same => ?_) List.nodup_range
        exact (Prod.mk.inj same).2
      · rintro p here q later rfl
        obtain ⟨slice, -, rfl⟩ := List.mem_map.1 here
        obtain ⟨d, assigned, same⟩ := List.mem_map.1 later
        obtain ⟨s', mem, unit, -⟩ := mem_assignDrivesFrom assigned
        have of_rest : s.unit = s'.unit := (Prod.mk.inj same).1.symm.trans unit
        rw [of_rest] at fresh
        exact fresh (List.mem_map_of_mem mem)

namespace DiskController

variable {c : DiskController} {n : Nat}

/-- The units that get letters are the loaded ones, in ascending order. -/
theorem map_unit_driveSources (c : DiskController) :
    c.driveSources.map (·.unit) = c.loadedUnits := by
  have numbered (n : Nat) :
      ((c.unit? n).map fun d => DriveSource.mk n d.slices.toNat d.totalSectors.toNat).map (·.unit) =
        Option.guard c.isLoaded n := by
    rw [Option.guard, isLoaded]
    cases c.unit? n <;> rfl
  rw [driveSources, List.map_filterMap, loadedUnits]
  simp only [numbered]
  exact congrFun List.filterMap_eq_filter _

/-- What a letter leads to. -/
theorem mem_driveMap {drive : Drive} (h : drive ∈ c.driveMap) :
    ∃ d, c.unit? drive.unit = some d ∧ drive.slice < d.slices.toNat ∧
      drive.slice < sliceCapacity d.totalSectors.toNat c.sectorsPerSlice.toNat := by
  obtain ⟨s, mem, unit, usable⟩ := mem_assignDrivesFrom h
  obtain ⟨n, -, there⟩ := List.mem_filterMap.1 mem
  obtain ⟨d, loaded, rfl⟩ := Option.map_eq_some_iff.1 there
  rw [unit]
  obtain ⟨count, capacity⟩ := Nat.lt_min.1 usable
  exact ⟨d, loaded, count, capacity⟩

theorem sliceLba_of_unit {d : DiskUnit} (there : c.unit n = .ok d) (slice : UInt8) (lba : UInt32) :
    c.sliceLba n slice lba =
      if d.slices ≤ slice ∨ c.sectorsPerSlice ≤ lba then .error (.sectorOutOfRange n lba)
      else
        let absolute := slice.toNat * c.sectorsPerSlice.toNat + lba.toNat
        if absolute < 2 ^ 32 then
          if absolute < d.totalSectors.toNat then .ok absolute.toUInt32
          else .error (.sectorOutOfRange n absolute.toUInt32)
        else .error (.sectorOutOfRange n lba) := by
  rw [sliceLba, there]
  rfl

/-- Which addresses within a slice are accepted, and what becomes of them. -/
theorem sliceLba_eq_ok {slice : UInt8} {lba a : UInt32} :
    c.sliceLba n slice lba = .ok a ↔
      ∃ d, c.unit? n = some d ∧ slice < d.slices ∧ lba < c.sectorsPerSlice ∧
        a.toNat = slice.toNat * c.sectorsPerSlice.toNat + lba.toNat ∧ a < d.totalSectors := by
  constructor
  · intro h
    obtain ⟨d, there, -⟩ := bind_eq_ok.1 h
    rw [sliceLba_of_unit there] at h
    split at h
    · cases h
    · next inside =>
      obtain ⟨slice_there, lba_there⟩ := not_or.1 inside
      dsimp only at h
      split at h
      · next short =>
        split at h
        · next below =>
          cases h
          have address := UInt32.toNat_ofNat_of_lt' short
          refine ⟨d, unit?_of_unit c n there, UInt8.not_le.1 slice_there,
            UInt32.not_le.1 lba_there, address, ?_⟩
          rw [UInt32.lt_iff_toNat_lt]
          exact address.trans_lt below
        · cases h
      · cases h
  · rintro ⟨d, there, slice_there, lba_there, address, inside⟩
    have inside : a.toNat < d.totalSectors.toNat := inside
    rw [sliceLba_of_unit (unit_of_unit? c n there),
      if_neg (not_or.2 ⟨UInt8.not_le.2 slice_there, UInt32.not_le.2 lba_there⟩)]
    dsimp only
    rw [← address, if_pos a.toNat_lt, if_pos inside, Nat.toUInt32_eq, UInt32.ofNat_toNat]

/-- Letters point at real storage, and no two of them at the same. -/
structure DrivesSound (c : DiskController) : Prop where
  /-- The slice behind a letter is one that a unit can have. -/
  slice_lt : ∀ drive ∈ c.driveMap, drive.slice < maxSlices
  /-- The first block behind a letter is there. -/
  first : ∀ drive ∈ c.driveMap, ∃ a, c.sliceLba drive.unit drive.slice.toUInt8 0 = .ok a
  /-- Every block behind a letter is there, if the image has room for a slice. -/
  whole : ∀ drive ∈ c.driveMap, ∀ d, c.unit? drive.unit = some d →
    c.sectorsPerSlice.toNat * d.sectorSize ≤ d.image.size →
    ∀ lba, lba < c.sectorsPerSlice → ∃ a, c.sliceLba drive.unit drive.slice.toUInt8 lba = .ok a
  /-- An address that is accepted lies where it should, within the image. -/
  address : ∀ n slice lba a, c.sliceLba n slice lba = .ok a →
    a.toNat = slice.toNat * c.sectorsPerSlice.toNat + lba.toNat ∧
      ∃ d, c.unit? n = some d ∧ a < d.totalSectors
  /-- Different blocks of a unit are different sectors. -/
  apart : ∀ n slice lba slice' lba' a, c.sliceLba n slice lba = .ok a →
    c.sliceLba n slice' lba' = .ok a → slice = slice' ∧ lba = lba'
  /-- An address that passes the checks of slice and block needs no more than 32 bits. -/
  fits : ∀ n d, c.unit? n = some d → ∀ slice lba, slice < d.slices → lba < c.sectorsPerSlice →
    slice.toNat * c.sectorsPerSlice.toNat + lba.toNat < 2 ^ 32
  /-- No slice has two letters. -/
  distinct : (c.driveMap.map fun drive => (drive.unit, drive.slice)).Nodup

/-- A unit of less than 2³² sectors has as many as fit its image, and one at least. -/
theorem totalSectors_of_small {d : DiskUnit} {size : Nat} (h : d.WellFormed size)
    (small : d.image.size / d.sectorSize < 2 ^ 32) :
    d.totalSectors.toNat = d.image.size / d.sectorSize ∧ 0 < d.totalSectors.toNat := by
  have sectors : d.totalSectors.toNat = d.image.size / d.sectorSize :=
    UInt32.toNat_ofNat_of_lt' small
  refine ⟨sectors, ?_⟩
  have whole := Nat.div_add_mod d.image.size d.sectorSize
  have no_rest := h.whole
  rw [← h.sectorSize_eq] at no_rest
  have not_none : d.image.size / d.sectorSize ≠ 0 := fun none => by
    rw [none, Nat.mul_zero, no_rest] at whole
    exact h.size_ne_zero whole.symm
  omega

namespace WellFormed

variable (h : c.WellFormed)
include h

/-- An address that passes the checks of slice and block needs no more than 32 bits. -/
theorem address_lt {d : DiskUnit} (there : c.unit? n = some d) {slice lba : Nat}
    (slice_there : slice < d.slices.toNat) (lba_there : lba < c.sectorsPerSlice.toNat) :
    slice * c.sectorsPerSlice.toNat + lba < 2 ^ 32 := by
  have last : slice + 1 ≤ maxSlices := Nat.le_trans slice_there (h.units n d there).slices_le
  calc slice * c.sectorsPerSlice.toNat + lba
      < slice * c.sectorsPerSlice.toNat + c.sectorsPerSlice.toNat := by omega
    _ = (slice + 1) * c.sectorsPerSlice.toNat := (Nat.succ_mul _ _).symm
    _ ≤ maxSlices * c.sectorsPerSlice.toNat := Nat.mul_le_mul_right _ last
    _ = c.sectorsPerSlice.toNat * maxSlices := Nat.mul_comm _ _
    _ < 2 ^ 32 := h.slices_fit

theorem slice_lt_of_mem_driveMap {drive : Drive} (mem : drive ∈ c.driveMap) :
    drive.slice < maxSlices := by
  obtain ⟨d, there, count, -⟩ := mem_driveMap mem
  have le := (h.units drive.unit d there).slices_le
  omega

/-- A block behind a letter is accepted as soon as it lies within the image. -/
theorem sliceLba_of_mem_driveMap {drive : Drive} (mem : drive ∈ c.driveMap) {d : DiskUnit}
    (there : c.unit? drive.unit = some d) {lba : UInt32} (lba_there : lba < c.sectorsPerSlice)
    (inside : drive.slice * c.sectorsPerSlice.toNat + lba.toNat < d.totalSectors.toNat) :
    ∃ a, c.sliceLba drive.unit drive.slice.toUInt8 lba = .ok a := by
  obtain ⟨d', loaded, count, -⟩ := mem_driveMap mem
  rw [there, Option.some.injEq] at loaded
  rw [← loaded] at count
  have slice : drive.slice.toUInt8.toNat = drive.slice := by
    have lt := h.slice_lt_of_mem_driveMap mem
    rw [maxSlices] at lt
    exact UInt8.toNat_ofNat_of_lt' (Nat.lt_trans lt (by decide))
  have short : drive.slice * c.sectorsPerSlice.toNat + lba.toNat < 2 ^ 32 :=
    h.address_lt there count lba_there
  generalize absolute : drive.slice * c.sectorsPerSlice.toNat + lba.toNat = k at short inside
  have address : (UInt32.ofNat k).toNat = k := UInt32.toNat_ofNat_of_lt' short
  refine ⟨UInt32.ofNat k, sliceLba_eq_ok.2 ⟨d, there, ?_, lba_there, ?_, ?_⟩⟩
  · rw [UInt8.lt_iff_toNat_lt, slice]
    exact count
  · rw [address, slice, absolute]
  · rw [UInt32.lt_iff_toNat_lt, address]
    exact inside

/-- **Letters are sound** in every well-formed controller whose units have less than 2³² sectors. -/
theorem drivesSound
    (small : ∀ n d, c.unit? n = some d → d.image.size / d.sectorSize < 2 ^ 32) :
    c.DrivesSound where
  slice_lt drive mem := h.slice_lt_of_mem_driveMap mem
  first drive mem := by
    obtain ⟨d, there, -, capacity⟩ := mem_driveMap mem
    obtain ⟨-, some_sectors⟩ := totalSectors_of_small (h.units _ d there) (small _ d there)
    exact h.sliceLba_of_mem_driveMap mem there h.slice_pos
      (sliceStart_lt h.slice_pos some_sectors capacity)
  whole drive mem d there room lba lba_there := by
    obtain ⟨d', loaded, -, capacity⟩ := mem_driveMap mem
    rw [there, Option.some.injEq] at loaded
    rw [← loaded] at capacity
    obtain ⟨sectors, -⟩ := totalSectors_of_small (h.units _ d there) (small _ d there)
    have sectorSize_pos : 0 < d.sectorSize := by
      rw [(h.units _ d there).sectorSize_eq]
      exact h.sectorSize_pos
    have room : c.sectorsPerSlice.toNat ≤ d.totalSectors.toNat := by
      rw [sectors]
      exact (Nat.le_div_iff_mul_le sectorSize_pos).2 room
    have inside := sliceEnd_le h.slice_pos room capacity
    have lba_lt : lba.toNat < c.sectorsPerSlice.toNat := lba_there
    exact h.sliceLba_of_mem_driveMap mem there lba_there (by omega)
  address n slice lba a ok := by
    obtain ⟨d, there, -, -, address, inside⟩ := sliceLba_eq_ok.1 ok
    exact ⟨address, d, there, inside⟩
  apart n slice lba slice' lba' a ok ok' := by
    obtain ⟨_, -, -, lba_there, address, -⟩ := sliceLba_eq_ok.1 ok
    obtain ⟨_, -, -, lba_there', address', -⟩ := sliceLba_eq_ok.1 ok'
    have same := address.symm.trans address'
    obtain ⟨slices, lbas⟩ := slice_eq_of_address_eq lba_there lba_there' same
    exact ⟨UInt8.toNat_inj.1 slices, UInt32.toNat_inj.1 lbas⟩
  fits n d there slice lba slice_there lba_there := h.address_lt there slice_there lba_there
  distinct := by
    refine nodup_assignDrivesFrom ?_
    rw [map_unit_driveSources]
    exact List.nodup_range.filter _

end WellFormed

end DiskController

end BankedZ80
