import BankedZ80.Proofs.Disk.Slices
import BankedZ80.Proofs.History.DiskContents

/-!
# Drive letters in every state

Whatever hosts and guests did to an engine of a valid configuration, its controller is well-formed
(`Engine.disks_wellFormed_foldl`), and a unit has the length of an image that was loaded
(`Engine.exists_loaded`). So letters and slices are sound as long as no image of 2³² sectors or more
was loaded (`Engine.drives_sound`).
-/

namespace BankedZ80

namespace DiskEvent

theorem mem_of_lastImage {n : Nat} {past : List DiskEvent} {image : ByteArray}
    (h : lastImage n past = some image) : loaded n image ∈ past := by
  induction past with
  | nil => cases h
  | cons event past ih =>
      cases event with
      | loaded k held =>
          rw [lastImage] at h
          split at h
          · next same =>
            cases h
            rw [same]
            exact List.mem_cons_self
          · exact List.mem_cons_of_mem _ (ih h)
      | unloaded k =>
          rw [lastImage] at h
          split at h
          · cases h
          · exact List.mem_cons_of_mem _ (ih h)
      | wrote k lba bytes => exact List.mem_cons_of_mem _ (ih h)

end DiskEvent

namespace Engine

open DiskController

variable {config : Config} {e : Engine}

/-- A new engine has a well-formed controller. -/
theorem disks_wellFormed_of_new (h : new config = .ok e) : e.devices.disks.WellFormed := by
  obtain ⟨valid, -, disks, -, -⟩ := fresh_of_new h
  have sectorSize := Config.bounds_of_isSectorSize valid.sectorSize
  have slice_pos : config.sectorsPerSlice.toNat ≠ 0 := fun zero =>
    valid.slice_ne_zero (UInt32.toNat_inj.1 zero)
  have empty (n : Nat) : e.devices.disks.unit? n = none := unit?_of_new h n
  refine ⟨?_, ?_, ?_, ?_, fun n d there => ?_⟩
  · rw [disks]
    exact sectorSize.1
  · rw [disks]
    exact sectorSize.2
  · rw [disks]
    exact Nat.pos_of_ne_zero slice_pos
  · rw [disks]
    exact valid.slices_fit
  · rw [empty] at there
    cases there

/-- Every history leaves the controller well-formed. -/
theorem disks_wellFormed_foldl (h : new config = .ok e) (steps : List Step) :
    (steps.foldl after e).devices.disks.WellFormed :=
  (disks_wellFormed_of_new h).evolves (e.evolves_foldl steps)

/-- Every unit has the length of an image that was loaded into its slot. -/
theorem exists_loaded (h : new config = .ok e) {steps : List Step} {n : Nat} {d : DiskUnit}
    (there : (steps.foldl after e).devices.disks.unit? n = some d) :
    ∃ image, .loaded n image ∈ e.diskHistory steps ∧ d.image.size = image.size := by
  obtain ⟨image, last, size, -⟩ := (slots_follow_history h steps n).loaded d there
  exact ⟨image, List.mem_reverse.1 (DiskEvent.mem_of_lastImage last), size⟩

/-- **Drive letters point at real storage.** An engine is built from every configuration that is
accepted, and whatever hosts and guests do to it, every letter leads to a slice that starts within
the image of its unit, addresses within slices are where they should be, and neither slices nor
their blocks meet, as long as every image that was loaded has less than 2³² sectors. -/
theorem drives_sound (accepted : config.validate = .ok ()) :
    ∃ e, new config = .ok e ∧ ∀ steps : List Step,
      (∀ n image, .loaded n image ∈ e.diskHistory steps →
        image.size / config.sectorSize < 2 ^ 32) →
      (steps.foldl after e).devices.disks.sectorsPerSlice = config.sectorsPerSlice ∧
        (steps.foldl after e).devices.disks.DrivesSound := by
  obtain ⟨e, built⟩ := new_of_validate accepted
  refine ⟨e, built, fun steps small => ?_⟩
  have wellFormed := disks_wellFormed_foldl built steps
  have evolves := e.evolves_foldl steps
  refine ⟨?_, wellFormed.drivesSound fun n d there => ?_⟩
  · rw [evolves.sectorsPerSlice, (fresh_of_new built).disks]
  · obtain ⟨image, loaded, size⟩ := exists_loaded built there
    have sectorSize : d.sectorSize = config.sectorSize := by
      rw [(wellFormed.units n d there).sectorSize_eq, evolves.sectorSize, (fresh_of_new built).disks]
    rw [sectorSize, size]
    exact small n image loaded

/-- Two disks of two sectors and more; one of them gets more slices than its image has room for. -/
def loadAndSlice : List Step :=
  [.host (.loadDisk 2 (Bytes.zeros 1024)), .host (.loadDisk 5 (Bytes.zeros 512)),
    .host (.setSliceCount 2 128)]

theorem loadAndSlice_sound :
    Config.validate {} = .ok () ∧ ∃ e, new {} = .ok e ∧
      (∀ n image, .loaded n image ∈ e.diskHistory loadAndSlice →
        image.size / ({} : Config).sectorSize < 2 ^ 32) ∧
      (loadAndSlice.foldl after e).devices.disks.DrivesSound := by
  have accepted : Config.validate {} = .ok () := by decide +kernel
  obtain ⟨e, built, sound⟩ := drives_sound accepted
  have small (n : Nat) (image : ByteArray) (mem : .loaded n image ∈ e.diskHistory loadAndSlice) :
      image.size / ({} : Config).sectorSize < 2 ^ 32 := by
    have length : image.size = 1024 ∨ image.size = 512 := by
      simp only [loadAndSlice, diskHistory, diskEvents, List.mem_append, List.mem_ite_nil_right,
        List.mem_singleton, List.not_mem_nil, or_false, DiskEvent.loaded.injEq] at mem
      rcases mem with ⟨-, -, rfl⟩ | ⟨-, -, rfl⟩
      · exact .inl (Bytes.size_zeros 1024)
      · exact .inr (Bytes.size_zeros 512)
    have sectorSize : ({} : Config).sectorSize = 512 := rfl
    rw [sectorSize]
    omega
  exact ⟨accepted, e, built, small, (sound loadAndSlice small).2⟩

end Engine

end BankedZ80
