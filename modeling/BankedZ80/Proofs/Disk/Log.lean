import BankedZ80.Proofs.Disk.Change

/-!
# The log of a controller

What happens to the contents of the disks is one of three events: an image is loaded into a slot, a
slot is emptied, or a sector is written. A log lists such events, the latest first, and says by
itself what every sector holds:

* `lastImage` is the image that was last loaded into a slot and not taken out since,
* `lastWrite` are the bytes that were last written to a sector since then.

`DiskController.Accounts` states that a log accounts for the contents of a controller. Every change
of the controller keeps it, with one more event if it is one (`Accounts.change`), and so does every
evolution (`Accounts.evolves`).
-/

namespace BankedZ80

namespace DiskEvent

/-- The image that a slot was last loaded with, unless it was emptied since. -/
def lastImage (n : Nat) : List DiskEvent → Option ByteArray
  | [] => none
  | loaded k image :: past => if k = n then some image else lastImage n past
  | unloaded k :: past => if k = n then none else lastImage n past
  | wrote _ _ _ :: past => lastImage n past

/-- The bytes that were last written to a sector since an image was loaded into its slot. -/
def lastWrite (n : Nat) (lba : UInt32) : List DiskEvent → Option ByteArray
  | [] => none
  | loaded k _ :: past => if k = n then none else lastWrite n lba past
  | unloaded k :: past => if k = n then none else lastWrite n lba past
  | wrote k l bytes :: past => if k = n ∧ l = lba then some bytes else lastWrite n lba past

/-- What a sector holds by the log: the latest write to it, or else its bytes in the image. -/
def sector (n : Nat) (sectorSize : Nat) (image : ByteArray) (lba : UInt32)
    (past : List DiskEvent) : ByteArray :=
  (lastWrite n lba past).getD (DiskUnit.sectorBytes { image, sectorSize } lba)

/-- An image is one that was loaded into a slot and changed since as the log says. -/
structure Holds (past : List DiskEvent) (n sectorSize : Nat) (held image : ByteArray) : Prop where
  size : held.size = image.size
  sectors : ∀ lba, lba < DiskUnit.totalSectors { image := held, sectorSize } →
    DiskUnit.sectorBytes { image := held, sectorSize } lba = sector n sectorSize image lba past

/-- The log accounts for what is in a slot. -/
def AccountsFor (past : List DiskEvent) (size n : Nat) : Option (ByteArray × Nat) → Prop
  | none => lastImage n past = none
  | some (held, sectorSize) =>
    sectorSize = size ∧ ∃ image, lastImage n past = some image ∧ Holds past n size held image

variable {past : List DiskEvent} {n k size : Nat} {slot : Option (ByteArray × Nat)}

/-- An event in another slot is of no account. -/
theorem AccountsFor.other {event : DiskEvent} (h : AccountsFor past size n slot)
    (image : lastImage n (event :: past) = lastImage n past)
    (write : ∀ lba, lastWrite n lba (event :: past) = lastWrite n lba past) :
    AccountsFor (event :: past) size n slot := by
  cases slot with
  | none => exact image.trans h
  | some held =>
      obtain ⟨same, loaded, hloaded, held_size, sectors⟩ := h
      refine ⟨same, loaded, image.trans hloaded, held_size, fun lba hl => ?_⟩
      rw [sectors lba hl, sector, sector, write]

end DiskEvent

open DiskEvent

namespace DiskController

/-- The image in a slot with its sector size. -/
def imageIn (c : DiskController) (n : Nat) : Option (ByteArray × Nat) :=
  (c.unit? n).map fun d => (d.image, d.sectorSize)

/-- The log accounts for the contents of every slot. -/
def Accounts (past : List DiskEvent) (c : DiskController) : Prop :=
  ∀ n, AccountsFor past c.sectorSize n (c.imageIn n)

variable {c c' : DiskController} {past : List DiskEvent}

theorem imageIn_eq_kept (c : DiskController) (n : Nat) :
    c.imageIn n = (c.kept n).map fun d => (d.image, d.sectorSize) := by
  rw [imageIn, kept, Option.map_map]
  rfl

/-- Same images are accounted for by the same log. -/
theorem Accounts.congr (h : Accounts past c) (sectorSize : c'.sectorSize = c.sectorSize)
    (images : ∀ n, c'.imageIn n = c.imageIn n) : Accounts past c' := by
  intro n
  rw [images, sectorSize]
  exact h n

/-- A loaded image is accounted for by one more event. -/
theorem Accounts.load (h : Accounts past c) {n : Nat} {image : ByteArray}
    (loaded : Change c (.event (.loaded n image)) c') : Accounts (.loaded n image :: past) c' := by
  intro k
  rw [imageIn_eq_kept, loaded.kept, loaded.sectorSize, DiskChange.applyTo]
  by_cases hk : n = k
  · rw [if_pos hk]
    refine ⟨rfl, image, if_pos hk, rfl, fun lba _ => ?_⟩
    rw [sector, lastWrite, if_pos hk]
    rfl
  · rw [if_neg hk, ← imageIn_eq_kept]
    exact (h k).other (if_neg hk) fun lba => if_neg hk

/-- An emptied slot is accounted for by one more event. -/
theorem Accounts.unload (h : Accounts past c) {n : Nat}
    (unloaded : Change c (.event (.unloaded n)) c') : Accounts (.unloaded n :: past) c' := by
  intro k
  rw [imageIn_eq_kept, unloaded.kept, unloaded.sectorSize, DiskChange.applyTo]
  by_cases hk : n = k
  · rw [if_pos hk]
    exact if_pos hk
  · rw [if_neg hk, ← imageIn_eq_kept]
    exact (h k).other (if_neg hk) fun lba => if_neg hk

/-- A written sector is accounted for by one more event. -/
theorem Accounts.write (h : Accounts past c) {n : Nat} {lba : UInt32} {bytes : ByteArray}
    (ok : c.checkWrite n lba bytes.size = .ok ()) :
    Accounts (.wrote n lba bytes :: past) (c.putSector n lba bytes) := by
  obtain ⟨d, hd, size, there⟩ := checkWrite_eq_ok c n lba ok
  have sectorSize : (c.putSector n lba bytes).sectorSize = c.sectorSize :=
    Change.sectorSize (.write ok)
  intro k
  rw [imageIn, unit?_putSector, sectorSize]
  by_cases hk : n = k
  · have slot := unit?_of_unit c n hd
    have before := h n
    rw [imageIn, slot] at before
    obtain ⟨same, image, loaded, held, sectors⟩ := before
    rw [← hk, slot, if_pos rfl]
    refine ⟨same, image, loaded, ?_, fun l hl => ?_⟩
    · exact (DiskUnit.size_putSector there size).trans held
    · have sector_there : l < d.totalSectors := by
        rw [← DiskUnit.totalSectors_putSector there size]
        rw [← same] at hl
        exact hl
      have earlier := sectors l (by rw [← same]; exact sector_there)
      rw [← same] at earlier ⊢
      show (d.putSector lba bytes).sectorBytes l = _
      rw [DiskUnit.sectorBytes_putSector there size sector_there, sector, lastWrite]
      by_cases hl : l = lba
      · rw [if_pos hl, if_pos ⟨rfl, hl.symm⟩]
        rfl
      · rw [if_neg hl, if_neg fun both => hl both.2.symm]
        exact earlier
  · rw [if_neg hk, Option.map_id, id]
    exact (h k).other rfl fun l => if_neg fun both => hk both.1

/-- A change that is no event keeps the images. -/
theorem Change.imageIn {a : DiskChange} (h : Change c a c') (quiet : a.event? = none) (k : Nat) :
    c'.imageIn k = c.imageIn k := by
  rw [imageIn_eq_kept, imageIn_eq_kept, h.kept]
  cases a with
  | event e => cases quiet
  | saved n image =>
      rw [DiskChange.applyTo]
      split
      · rw [Option.map_map]
        rfl
      · rfl
  | flagged n manifest =>
      rw [DiskChange.applyTo]
      split
      · rw [Option.map_map]
        rfl
      · rfl
  | _ => rfl

/-- Every change is accounted for. -/
theorem Accounts.change (h : Accounts past c) {a : DiskChange} (first : Change c a c') :
    Accounts (a.event?.toList ++ past) c' := by
  cases a with
  | event e =>
      cases e with
      | loaded n image => exact h.load first
      | unloaded n => exact h.unload first
      | wrote n lba bytes =>
          cases first with
          | write ok => exact h.write ok
  | _ => exact h.congr first.sectorSize (first.imageIn rfl)

/-- Every evolution is accounted for by its events. -/
theorem Accounts.evolves (h : Accounts past c) {log : List DiskChange} (evolves : Evolves c log c') :
    Accounts ((log.filterMap DiskChange.event?).reverse ++ past) c' := by
  induction evolves generalizing past with
  | refl => exact h
  | registers same _ ih =>
      refine ih (h.congr (sectorSize_of_resetRegisters same) fun n => ?_)
      rw [imageIn_eq_kept, imageIn_eq_kept, kept_of_resetRegisters same]
  | @change c c' c'' a log first _ ih =>
      have kept := ih (h.change first)
      cases he : a.event? with
      | none =>
          rw [List.filterMap_cons_none he]
          rw [he] at kept
          exact kept
      | some e =>
          rw [List.filterMap_cons_some he, List.reverse_cons, List.append_assoc]
          rw [he] at kept
          exact kept

end DiskController

end BankedZ80
