import BankedZ80.Proofs.Disk.Change

/-!
# What is true of a controller at any time

A controller of a valid configuration has a sector size that is not zero and slices that fit 32-bit
block addresses. Every unit in it has the sector size of the controller, some whole sectors, and a
slice count that a unit accepts.

`DiskController.WellFormed` states this. Every change keeps it (`WellFormed.change`), and so does
every evolution (`WellFormed.evolves`).
-/

namespace BankedZ80

/-- A unit of some whole sectors, with a slice count that a unit accepts. -/
structure DiskUnit.WellFormed (sectorSize : Nat) (d : DiskUnit) : Prop where
  sectorSize_eq : d.sectorSize = sectorSize
  size_ne_zero : d.image.size ≠ 0
  whole : d.image.size % sectorSize = 0
  slices_pos : 0 < d.slices.toNat
  slices_le : d.slices.toNat ≤ maxSlices

/-- Usable sizes, and nothing but well-formed units of this sector size. -/
structure DiskController.WellFormed (c : DiskController) : Prop where
  sectorSize_pos : 0 < c.sectorSize
  sectorSize_le : c.sectorSize ≤ 4096
  slice_pos : 0 < c.sectorsPerSlice.toNat
  slices_fit : c.sectorsPerSlice.toNat * maxSlices < 2 ^ 32
  units : ∀ n d, c.unit? n = some d → d.WellFormed c.sectorSize

/-! ### Units -/

namespace DiskUnit

variable {size : Nat} {d : DiskUnit}

/-- An image that passes its check makes a well-formed unit. -/
theorem wellFormed_of_checkSize {image : ByteArray} (ok : checkSize image.size size = .ok ()) :
    WellFormed size { image, sectorSize := size } := by
  obtain ⟨size_ne_zero, whole⟩ := checkSize_eq_ok.1 ok
  exact ⟨rfl, size_ne_zero, whole, Nat.one_pos, show 1 ≤ maxSlices by decide⟩

theorem checkSliceCount_eq_ok {count : UInt8} {u : Unit} :
    checkSliceCount count = .ok u ↔ 0 < count.toNat ∧ count.toNat ≤ maxSlices := by
  unfold checkSliceCount
  split
  · exact ⟨nofun, by omega⟩
  · exact ⟨fun _ => by omega, fun _ => rfl⟩

/-- What the units get by their number is a count that a unit accepts. -/
theorem checkSliceCount_slicesFor (loaded : Nat) : checkSliceCount (slicesFor loaded) = .ok () := by
  unfold slicesFor
  split <;> rfl

/-- Flags and seek position play no part. -/
theorem WellFormed.congr (h : d.WellFormed size) {d' : DiskUnit} (image : d'.image = d.image)
    (sectorSize : d'.sectorSize = d.sectorSize) (slices : d'.slices = d.slices) :
    d'.WellFormed size := by
  obtain ⟨sectorSize_eq, size_ne_zero, whole, pos, le⟩ := h
  rw [← image] at size_ne_zero whole
  rw [← sectorSize] at sectorSize_eq
  rw [← slices] at pos le
  exact ⟨sectorSize_eq, size_ne_zero, whole, pos, le⟩

theorem WellFormed.setSlices (h : d.WellFormed size) {count : UInt8}
    (ok : checkSliceCount count = .ok ()) : WellFormed size { d with slices := count } := by
  obtain ⟨pos, le⟩ := checkSliceCount_eq_ok.1 ok
  exact ⟨h.sectorSize_eq, h.size_ne_zero, h.whole, pos, le⟩

theorem WellFormed.putSector (h : d.WellFormed size) {lba : UInt32} {bytes : ByteArray}
    (there : lba < d.totalSectors) (length : bytes.size = d.sectorSize) :
    (d.putSector lba bytes).WellFormed size := by
  have same := size_putSector there length
  refine ⟨h.sectorSize_eq, ?_, ?_, h.slices_pos, h.slices_le⟩
  · rw [same]
    exact h.size_ne_zero
  · rw [same]
    exact h.whole

end DiskUnit

/-! ### Changes -/

namespace DiskController

variable {c c' : DiskController} {n : Nat}

namespace WellFormed

/-- Sizes stay; it is the units that have to be looked at. -/
theorem of_units (h : c.WellFormed) (sectorSize : c'.sectorSize = c.sectorSize)
    (sectorsPerSlice : c'.sectorsPerSlice = c.sectorsPerSlice)
    (units : ∀ n d, c'.unit? n = some d → d.WellFormed c.sectorSize) : c'.WellFormed := by
  refine ⟨?_, ?_, ?_, ?_, ?_⟩
  · rw [sectorSize]
    exact h.sectorSize_pos
  · rw [sectorSize]
    exact h.sectorSize_le
  · rw [sectorsPerSlice]
    exact h.slice_pos
  · rw [sectorsPerSlice]
    exact h.slices_fit
  · rw [sectorSize]
    exact units

theorem modifyUnit (h : c.WellFormed) {f : DiskUnit → DiskUnit}
    (unit : ∀ d, c.unit? n = some d → (f d).WellFormed c.sectorSize) :
    (c.modifyUnit n f).WellFormed := by
  refine h.of_units rfl rfl fun k d there => ?_
  rw [unit?_modifyUnit] at there
  obtain ⟨d', before, rfl⟩ := Option.map_eq_some_iff.1 there
  split
  · next same =>
      rw [← same] at before
      exact unit d' before
  · exact h.units k d' before

theorem modifySlot (h : c.WellFormed) (hn : n < maxUnits) (slot : Option DiskUnit)
    (unit : ∀ d, slot = some d → d.WellFormed c.sectorSize) :
    WellFormed { c with units := BankedZ80.modifySlot c.units n fun _ => slot } := by
  refine h.of_units rfl rfl fun k d there => ?_
  rw [unit?_modifySlot c hn] at there
  split at there
  · exact unit d there
  · exact h.units k d there

theorem rebalance (h : c.WellFormed) : c.rebalance.WellFormed := by
  unfold DiskController.rebalance
  split
  · refine h.of_units rfl rfl fun k d there => ?_
    rw [unit?_map_units] at there
    obtain ⟨d', before, rfl⟩ := Option.map_eq_some_iff.1 there
    exact (h.units k d' before).setSlices (DiskUnit.checkSliceCount_slicesFor _)
  · exact h

/-- Registers and seek positions play no part. -/
theorem of_resetRegisters (h : c.WellFormed) (same : c'.resetRegisters = c.resetRegisters) :
    c'.WellFormed := by
  refine h.of_units (sectorSize_of_resetRegisters same) (sectorsPerSlice_of_resetRegisters same)
    fun n d there => ?_
  have slots : (c'.unit? n).map ({ · with seek := 0 }) = (c.unit? n).map ({ · with seek := 0 }) := by
    rw [← unit?_resetRegisters, ← unit?_resetRegisters, same]
  rw [there, Option.map_some, eq_comm] at slots
  obtain ⟨d', before, eq⟩ := Option.map_eq_some_iff.1 slots
  injection eq with image sectorSize slices
  exact (h.units n d' before).congr image.symm sectorSize.symm slices.symm

/-- **A change** leaves a controller well-formed. -/
theorem change (h : c.WellFormed) {a : DiskChange} (first : Change c a c') : c'.WellFormed := by
  cases first with
  | load ok =>
      obtain ⟨there, size, rfl⟩ := load_eq_ok.1 ok
      refine (h.modifySlot there (some _) fun d loaded => ?_).rebalance
      rw [← Option.some.inj loaded]
      exact DiskUnit.wellFormed_of_checkSize size
  | unload ok =>
      obtain ⟨there, ⟨-, rfl⟩ | rfl⟩ := unload_eq_ok ok
      · exact h
      · exact (h.modifySlot there none nofun).rebalance
  | @write n lba bytes ok =>
      obtain ⟨d, loaded, size, there⟩ := checkWrite_eq_ok c n lba ok
      have written : (c.modifyUnit n (·.putSector lba bytes)).WellFormed := by
        refine h.modifyUnit fun d' same => ?_
        rw [unit?_of_unit c n loaded] at same
        rw [← Option.some.inj same]
        exact (h.units n d (unit?_of_unit c n loaded)).putSector there size
      rw [putSector_eq]
      exact written.of_units rfl rfl written.units
  | save n => exact h.modifyUnit fun d there => (h.units n d there).congr rfl rfl rfl
  | slice ok =>
      obtain ⟨d, -, rest⟩ := bind_eq_ok.1 ok
      obtain ⟨_, legal, -⟩ := bind_eq_ok.1 rest
      rw [setSliceCount_eq_ok ok]
      exact h.modifyUnit fun d there => (h.units _ d there).setSlices legal
  | flag ok =>
      rw [(setManifest_eq_ok.1 ok).2]
      exact h.modifyUnit fun d there => (h.units _ d there).congr rfl rfl rfl
  | silence ok =>
      rw [setSilenced_eq_ok ok]
      exact h.of_units rfl rfl h.units
  | silenceAll | takeWarning => exact h.of_units rfl rfl h.units

/-- **An evolution** leaves a controller well-formed. -/
theorem evolves (h : c.WellFormed) {log : List DiskChange} (evolves : Evolves c log c') :
    c'.WellFormed := by
  induction evolves with
  | refl => exact h
  | registers same _ ih => exact ih (h.of_resetRegisters same)
  | change first _ ih => exact ih (h.change first)

end WellFormed

end DiskController

end BankedZ80
