import BankedZ80.Proofs.Disk.Change

/-!
# What sector writes leave alone

It is the host that sets a disk up: it loads an image, counts the slices, and marks a catalog image.
The `UnitOutline` is what it has set up, that is, the unit without its bytes, its dirty flag and its
seek position.

Whoever only writes sectors and works on registers and seek positions leaves every outline, every empty
slot and the silenced warnings alone (`SameOutlines.evolves`).
-/

namespace BankedZ80

/-- A disk unit as the host has set it up. -/
structure UnitOutline where
  imageSize : Nat
  sectorSize : Nat
  slices : UInt8
  manifest : Bool
deriving DecidableEq

/-- A unit without its bytes, its dirty flag and its seek position. -/
def DiskUnit.outline (d : DiskUnit) : UnitOutline where
  imageSize := d.image.size
  sectorSize := d.sectorSize
  slices := d.slices
  manifest := d.manifest

namespace DiskController

/-- All slots are set up alike, and the same warnings are silenced. -/
structure SameOutlines (c c' : DiskController) : Prop where
  slots (n : Nat) : (c'.unit? n).map DiskUnit.outline = (c.unit? n).map DiskUnit.outline
  silenced : c'.silenced = c.silenced

namespace SameOutlines

variable {c c' c'' : DiskController} {n : Nat}

theorem refl (c : DiskController) : SameOutlines c c := ⟨fun _ => rfl, rfl⟩

theorem trans (h : SameOutlines c c') (h' : SameOutlines c' c'') : SameOutlines c c'' :=
  ⟨fun n => (h'.slots n).trans (h.slots n), h'.silenced.trans h.silenced⟩

/-- Registers and seek positions play no part. -/
theorem of_resetRegisters (same : c'.resetRegisters = c.resetRegisters) : SameOutlines c c' where
  slots n := by
    have forget (c : DiskController) : (c.unit? n).map DiskUnit.outline =
        (c.resetRegisters.unit? n).map DiskUnit.outline := by
      rw [unit?_resetRegisters, Option.map_map]
      rfl
    rw [forget c', forget c, same]
  silenced := by
    show c'.resetRegisters.silenced = c.silenced
    rw [same]
    rfl

/-- A sector write that passes its check leaves the length of the image. -/
theorem putSector {lba : UInt32} {bytes : ByteArray} (ok : c.checkWrite n lba bytes.size = .ok ()) :
    SameOutlines c (c.putSector n lba bytes) where
  slots k := by
    obtain ⟨d, there, size, within⟩ := checkWrite_eq_ok c n lba ok
    rw [unit?_putSector]
    split
    · next here =>
        subst here
        rw [unit?_of_unit c n there, Option.map_some, Option.map_some]
        have same : (d.putSector lba bytes).image.size = d.image.size :=
          DiskUnit.size_putSector within size
        unfold DiskUnit.outline
        rw [same]
        rfl
    · rw [Option.map_id, id]
  silenced := by
    rw [putSector_eq]
    rfl

/-- **Writing sectors leaves every outline alone.** -/
theorem evolves {log : List DiskChange} (h : Evolves c log c')
    (written : ∀ a ∈ log, ∃ n lba bytes, a = .event (.wrote n lba bytes)) : SameOutlines c c' := by
  induction h with
  | refl c => exact .refl c
  | registers same _ ih => exact (of_resetRegisters same).trans (ih written)
  | change first _ ih =>
      obtain ⟨n, lba, bytes, rfl⟩ := written _ List.mem_cons_self
      cases first with
      | write ok => exact (putSector ok).trans (ih fun a ha => written a (List.mem_cons_of_mem _ ha))

/-! ### What an outline tells -/

variable (h : SameOutlines c c') (n : Nat)
include h

/-- Whatever the outline tells of a unit is the same for both. -/
theorem map_unit? {α : Type} {part : DiskUnit → α} (told : UnitOutline → α)
    (tells : ∀ d, part d = told d.outline) : (c'.unit? n).map part = (c.unit? n).map part := by
  have outline (c : DiskController) :
      (c.unit? n).map part = ((c.unit? n).map DiskUnit.outline).map told := by
    rw [Option.map_map]
    exact congrArg (Option.map · (c.unit? n)) (funext tells)
  rw [outline, outline, h.slots]

theorem isLoaded : c'.isLoaded n = c.isLoaded n := by
  have loaded := congrArg Option.isSome (h.slots n)
  rw [Option.isSome_map, Option.isSome_map] at loaded
  exact loaded

theorem imageSize : (c'.image n).map (·.size) = (c.image n).map (·.size) := by
  rw [image, image, Option.map_map, Option.map_map]
  exact h.map_unit? n UnitOutline.imageSize fun _ => rfl

theorem sliceCount : c'.sliceCount n = c.sliceCount n :=
  h.map_unit? n UnitOutline.slices fun _ => rfl

theorem manifest : (c'.unit? n).map (·.manifest) = (c.unit? n).map (·.manifest) :=
  h.map_unit? n UnitOutline.manifest fun _ => rfl

end SameOutlines

end DiskController

end BankedZ80
