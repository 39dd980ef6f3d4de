import BankedZ80.Proofs.Disk.Paths
import BankedZ80.Proofs.History.DiskLog
import BankedZ80.Proofs.Safety.Bus

/-!
# Firmware calls do not crash

The checked programs of the firmware calls. A transfer counts its sectors in eight bits and moves the
seek position on in 32: the count stays below the one that was asked for, and the seek position below
the number of sectors.
-/

namespace BankedZ80

open Checked

/-- Well-formed memory and disks. -/
structure Board.WellFormed (b : Board) : Prop where
  memory : b.memory.WellFormed
  disks : b.devices.disks.WellFormed

namespace Hbios

/-! ### Transfers -/

/-- Move the sector at the unit's seek position, and go on to the next. -/
def Transfer.moveM (t : Transfer) (write : Bool) (n : Nat) : Checked Transfer := do
  let d ← t.disks.unitM n
  let (disks, memory) ← t.disks.moveSectorM n d.seek t.memory t.address write
  let seek ← add 32 d.seek.toNat 1
  let moved ← add 8 t.moved.toNat 1
  return {
    disks := disks.setSeek n seek.toUInt32
    memory
    address := t.address + disks.sectorSize.toUInt16
    moved := moved.toUInt8 }

/-- Move up to `count` sectors and stop at the first that cannot be moved. -/
def Transfer.moveManyM (t : Transfer) (write : Bool) (n : Nat) :
    Nat → Checked (HbiosResult × Transfer)
  | 0 => return (.success, t)
  | count + 1 => do
    match ← attempt (t.moveM write n) with
    | .ok t => t.moveManyM write n count
    | .error e => return (resultOf e, t)

/-- Move E sectors. -/
def transferM (s : HbiosState) (write : Bool) : Checked (HbiosState × HbiosAction) := do
  let start : Transfer :=
    { disks := s.board.devices.disks, memory := s.board.memory, address := s.core.hl, moved := 0 }
  let (r, t) ← start.moveManyM write s.core.c.toNat s.core.e.toNat
  return finish
    { core := { s.core with e := t.moved }
      board := { memory := t.memory, devices := { s.board.devices with disks := t.disks } } } r

namespace Transfer

variable {t : Transfer} {write : Bool} {n : Nat}

/-- What a check asks of the unit. -/
theorem check_of_unit {d : DiskUnit} (there : t.disks.unit n = .ok d) :
    t.check write n = t.disks.checkSector write n d.seek := by
  rw [check, there]
  rfl

theorem check_of_error {e : MachineError} (missing : t.disks.unit n = .error e) :
    t.check write n = .error e := by
  rw [check, missing]
  rfl

/-- The sector at a seek position that passes the check is not the last of all. -/
theorem seek_lt {d : DiskUnit} (there : t.disks.unit n = .ok d)
    (ok : t.disks.checkSector write n d.seek = .ok ()) : d.seek.toNat + 1 < 2 ^ 32 := by
  have read : t.disks.checkRead n d.seek = .ok () := by
    cases write with
    | false => exact ok
    | true =>
        have checked : t.disks.checkWrite n d.seek t.disks.sectorSize = .ok () := ok
        rw [DiskController.checkWrite_of_unit _ n _ there] at checked
        split at checked
        · cases checked
        · exact checked
  rw [DiskController.checkRead_of_unit _ n _ there] at read
  split at read
  · cases read
  · next inside =>
    have below : d.seek.toNat < d.totalSectors.toNat := UInt32.not_le.1 inside
    have sectors := d.totalSectors.toNat_lt
    omega

/-- The round of a unit, with sums of numbers in the place of those of registers. -/
theorem move_of_unit {d : DiskUnit} (there : t.disks.unit n = .ok d) :
    t.move write n =
      { disks := (t.disks.disksMoved write n d.seek t.memory t.address).setSeek n
          (d.seek.toNat + 1).toUInt32
        memory := t.disks.memoryMoved write n d.seek t.memory t.address
        address := t.address +
          (t.disks.disksMoved write n d.seek t.memory t.address).sectorSize.toUInt16
        moved := (t.moved.toNat + 1).toUInt8 } := by
  have next : (d.seek.toNat + 1).toUInt32 = d.seek + 1 := by
    rw [Nat.toUInt32_eq, UInt32.ofNat_add, UInt32.ofNat_toNat]
    rfl
  have moved : (t.moved.toNat + 1).toUInt8 = t.moved + 1 := by
    rw [Nat.toUInt8_eq, UInt8.ofNat_add, UInt8.ofNat_toNat]
    rfl
  rw [move_eq, DiskController.seek_of_unit t.disks n there, next, moved]

theorem moveM_eq (disks : t.disks.WellFormed) (pages : t.memory.WellFormed)
    (room : t.moved.toNat < 255) :
    t.moveM write n = refusable ((t.check write n).map fun _ => t.move write n) := by
  rw [moveM, DiskController.unitM_eq]
  cases there : t.disks.unit n with
  | error e =>
      rw [check_of_error there]
      rfl
  | ok d =>
      rw [refusable_ok, ok_bind, check_of_unit there, DiskController.moveSectorM_eq disks pages]
      cases checked : t.disks.checkSector write n d.seek with
      | error e => rfl
      | ok u =>
          have count : t.moved.toNat + 1 < 2 ^ 8 := by omega
          rw [Except.map, refusable_ok, ok_bind, Except.map, refusable_ok, move_of_unit there]
          dsimp only
          rw [add_eq (seek_lt there checked), ok_bind, add_eq count]
          rfl

/-- A round that passes its check leaves the disks well-formed. -/
theorem wellFormed_move (disks : t.disks.WellFormed) (ok : t.check write n = .ok ()) :
    (t.move write n).disks.WellFormed := by
  cases write with
  | true =>
      have written := disks.change (t.disks.change_copyIn t.memory t.address (checkWrite_of_check ok))
      exact written.of_resetRegisters (DiskController.setSeek_resetRegisters _ n _)
  | false => exact disks.of_resetRegisters (DiskController.setSeek_resetRegisters _ n _)

theorem samePages_move (t : Transfer) (write : Bool) (n : Nat) :
    Memory.SamePages t.memory (t.move write n).memory := by
  cases write with
  | true => exact .refl t.memory
  | false => exact .loadAt t.memory t.address _

theorem samePages_moveMany (t : Transfer) (write : Bool) (n count : Nat) :
    Memory.SamePages t.memory (t.moveMany write n count).2.memory := by
  induction count generalizing t with
  | zero => exact .refl t.memory
  | succ count ih =>
      rw [moveMany]
      cases t.check write n with
      | error e => exact .refl t.memory
      | ok u => exact (samePages_move t write n).trans (ih (t.move write n))

/-- By induction on the sectors that are left; `room` keeps their count from overflowing. -/
theorem moveManyM_eq (disks : t.disks.WellFormed) (pages : t.memory.WellFormed) (count : Nat)
    (room : t.moved.toNat + count ≤ 255) :
    t.moveManyM write n count = .ok (t.moveMany write n count) := by
  induction count generalizing t with
  | zero => rfl
  | succ count ih =>
      rw [moveManyM, moveM_eq disks pages (by omega), attempt_refusable, ok_bind, moveMany]
      cases checked : t.check write n with
      | error e => rfl
      | ok u =>
          have one := t.moved_move write n (by omega)
          exact ih (t := t.move write n) (wellFormed_move disks checked)
            ((samePages_move t write n).wellFormed pages) (by omega)

end Transfer

variable {s : HbiosState}

theorem transferM_eq (h : s.board.WellFormed) (write : Bool) :
    transferM s write = .ok (transfer s write) := by
  have moved : (Transfer.ofCall s).moveManyM write s.core.c.toNat s.core.e.toNat =
      .ok ((Transfer.ofCall s).moveMany write s.core.c.toNat s.core.e.toNat) :=
    Transfer.moveManyM_eq h.disks h.memory s.core.e.toNat (Transfer.room_ofCall s)
  unfold Transfer.ofCall at moved
  rw [transferM, transfer, moved]
  rfl

/-! ### Other calls -/

/-- A disk function other than a transfer. -/
def diskCallM (s : HbiosState) (f : HbiosFunction) : Checked (HbiosState × HbiosAction) := do
  let disks := s.board.devices.disks
  let n := s.core.c.toNat
  match f, ← attempt (disks.unitM n) with
  | .diskSeek, .ok _ =>
    let lba := (s.core.de.toNat * 65536 + s.core.hl.toNat) % 2 ^ 31
    return finish (withDisks s (disks.setSeek n lba.toUInt32)) .success
  | .diskMedia, .ok _ => return finish { s with core := { s.core with e := hardDisk } } .success
  | .diskMedia, .error e => return finish { s with core := { s.core with e := 0 } } (resultOf e)
  | .diskCapacity, .ok d =>
    let sectors := (← d.totalSectorsM).toNat
    let core := (s.core.setDE (sectors / 65536).toUInt16).setHL sectors.toUInt16
    return finish { s with core := core.setBC d.sectorSize.toUInt16 } .success
  | _, .ok _ => return finish s .success
  | _, .error e => return finish s (resultOf e)

/-- The number that a system query asks for; that of the drive letters has to be calculated. -/
def systemCountM (disks : DiskController) (query : UInt8) : Checked (Option Nat) := do
  if query.toNat = 0x20 then return some (← disks.driveMapM).length
  else return systemCount? disks query

/-- A system function; only a query looks at the disks. -/
def systemCallM (s : HbiosState) (f : HbiosFunction) : Checked (HbiosState × HbiosAction) :=
  match f with
  | .systemReset | .systemVersion | .systemSetBank | .systemGetBank => return systemCall s f
  | _ => do
    match ← systemCountM s.board.devices.disks s.core.c with
    | some n => return finish { s with core := { s.core with e := n.toUInt8 } } .success
    | none => return finish s .noFunction

/-- Serve the call that the registers describe. -/
def callM (now : UInt64) (s : HbiosState) : Checked (HbiosState × HbiosAction) :=
  match HbiosFunction.ofCode? s.core.b with
  | none => return finish s .noFunction
  | some f =>
    match f with
    | .charInput | .charOutput | .charInputStatus | .charOutputStatus => return consoleCall s f
    | .diskRead => transferM s false
    | .diskWrite => transferM s true
    | .diskStatus | .diskSeek | .diskMedia | .diskCapacity => diskCallM s f
    | .clockRead => do
      let buffer := (DateTime.ofUnix now).toBuffer
      let memory ← s.board.memory.loadAtM s.core.hl buffer
      return finish { s with board := { s.board with memory } } .success
    | .systemReset | .systemVersion | .systemSetBank | .systemGetBank | .systemGet =>
      systemCallM s f

section

variable (h : s.board.WellFormed)
include h

theorem diskCallM_eq (f : HbiosFunction) : diskCallM s f = .ok (diskCall s f) := by
  unfold diskCallM diskCall
  dsimp only
  rw [DiskController.unitM_eq, attempt_refusable, ok_bind]
  cases there : s.board.devices.disks.unit s.core.c.toNat with
  | error e => cases f <;> rfl
  | ok d =>
      have unit := h.disks.units _ d (DiskController.unit?_of_unit _ _ there)
      cases f with
      | diskCapacity =>
          dsimp only
          rw [DiskUnit.totalSectorsM_eq unit h.disks.sectorSize_pos]
          rfl
      | _ => rfl

theorem systemCountM_eq (query : UInt8) :
    systemCountM s.board.devices.disks query = .ok (systemCount? s.board.devices.disks query) := by
  unfold systemCountM
  split
  · next drives =>
    rw [DiskController.driveMapM_eq h.disks, systemCount?, drives]
    rfl
  · rfl

theorem systemCallM_eq (f : HbiosFunction) : systemCallM s f = .ok (systemCall s f) := by
  cases f with
  | systemReset | systemVersion | systemSetBank | systemGetBank => rfl
  | _ =>
      simp only [systemCallM, systemCountM_eq h, ok_bind, systemCall]
      cases systemCount? s.board.devices.disks s.core.c <;> rfl

/-- **No firmware call crashes**, whatever the registers say. -/
theorem callM_eq (now : UInt64) : callM now s = .ok (call now s) := by
  unfold callM call
  cases HbiosFunction.ofCode? s.core.b with
  | none => rfl
  | some f =>
      cases f with
      | diskRead => exact transferM_eq h false
      | diskWrite => exact transferM_eq h true
      | diskStatus | diskSeek | diskMedia | diskCapacity => exact diskCallM_eq h _
      | clockRead =>
          dsimp only
          rw [Memory.loadAtM_eq h.memory]
          rfl
      | systemReset | systemVersion | systemSetBank | systemGetBank | systemGet =>
          exact systemCallM_eq h _
      | _ => rfl

end

end Hbios

end BankedZ80
