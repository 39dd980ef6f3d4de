import BankedZ80.Proofs.Disk.Log
import BankedZ80.Proofs.History.DiskLog

/-!
# What the disks hold

`Engine.slots_follow_history` reads the contents of every slot off the log of the history: the image
that was loaded last, with every sector as it was last written since. Every step changes the
controller as its log says (`Engine.evolves_after`), and the log accounts for what such changes
leave in a slot (`DiskController.Accounts.evolves`).
-/

namespace BankedZ80

namespace Engine

open DiskController

variable {e : Engine} {past : List DiskEvent}

/-- Every history is accounted for. -/
theorem accounts_foldl (h : Accounts past e.devices.disks) (steps : List Step) :
    Accounts ((e.diskHistory steps).reverse ++ past) (steps.foldl after e).devices.disks := by
  rw [← filterMap_diskChangeHistory]
  exact h.evolves (e.evolves_foldl steps)

theorem imageIn_of_new {config : Config} (h : new config = .ok e) (n : Nat) :
    e.devices.disks.imageIn n = none := by
  rw [imageIn, unit?_of_new h]
  rfl

/-- A slot holds what a history of events, the latest first, has left in it. -/
structure SlotFollows (past : List DiskEvent) (c : DiskController) (n : Nat) : Prop where
  /-- An empty slot was never loaded, or was emptied after it was loaded. -/
  empty : c.unit? n = none → DiskEvent.lastImage n past = none
  /-- A unit has the length of the image that was loaded last, and every sector reads as it was last
  written since, or else as it was loaded. -/
  loaded : ∀ d, c.unit? n = some d → ∃ image, DiskEvent.lastImage n past = some image ∧
    d.image.size = image.size ∧ ∀ lba, lba < d.totalSectors →
      c.readSector n lba = .ok (DiskEvent.sector n c.sectorSize image lba past)

/-- **The disks follow their history.** Whatever hosts and guests did since the engine was built, in
whatever order, every slot holds what the log of successful loads, removals and sector writes says.
-/
theorem slots_follow_history {config : Config} {e : Engine} (h : new config = .ok e)
    (steps : List Step) (n : Nat) :
    SlotFollows (e.diskHistory steps).reverse (steps.foldl after e).devices.disks n := by
  have start : Accounts [] e.devices.disks := by
    intro k
    rw [imageIn_of_new h]
    rfl
  have accounts := accounts_foldl start steps n
  rw [List.append_nil, imageIn] at accounts
  generalize (steps.foldl after e).devices.disks = c at accounts ⊢
  constructor
  case empty =>
      intro hd
      rw [hd] at accounts
      exact accounts
  case loaded =>
      intro d hd
      rw [hd] at accounts
      obtain ⟨same, image, loaded, size, sectors⟩ := accounts
      refine ⟨image, loaded, size, fun lba there => ?_⟩
      rw [readSector_of_unit c n lba hd there, ← sectors lba (by rw [← same]; exact there), ← same]
      rfl

/-- A disk is loaded and one of its sectors written. -/
def loadAndWrite : List Step :=
  [.host (.loadDisk 2 (Bytes.zeros 1024)), .writeSector 2 1 (Bytes.zeros 512)]

theorem loadAndWrite_follows :
    ∃ e, new {} = .ok e ∧
      SlotFollows (e.diskHistory loadAndWrite).reverse
        (loadAndWrite.foldl after e).devices.disks 2 := by
  have ok : (new {}).isOk = true := by rfl
  generalize hr : new {} = r at ok
  cases r with
  | ok e => exact ⟨e, rfl, slots_follow_history hr loadAndWrite 2⟩
  | error error => cases ok

end Engine

end BankedZ80
