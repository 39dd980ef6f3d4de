import BankedZ80.Hbios.Call
import BankedZ80.Proofs.Disk.Command

/-!
# Two ways to a disk

A guest can move sectors through the firmware, with a seek and a transfer of several sectors, or through
the disk ports, with one command for each sector. The firmware keeps its place in the seek position of
the unit and in its own address counter, the ports in the registers of the controller.

* `PortTransfer` is a guest at the ports: it selects a unit, a block address and a memory address, and
  issues the command until one fails.
* `Hbios.seekAndTransfer` are the two firmware calls.
* `Coupled` relates the two in the midst of a transfer: same contents and memory, and the same place. A
  sector moved, or refused, on both sides keeps them coupled (`Coupled.move`, `Coupled.refuse`).
* `Coupled.many` follows by induction on the number of sectors, and `Hbios.seekAndTransfer_agrees`
  reads the agreement off it.
-/

namespace BankedZ80

/-- The result of a firmware call that stands for a status. -/
def DiskStatus.result : DiskStatus → HbiosResult
  | ok => .success
  | noMedia => .noMedia
  | outOfRange => .outOfRange
  | badUnit => .noUnit
  | badCommand => .failure

/-- Both paths report an error in the same words. -/
theorem DiskStatus.result_ofError (e : MachineError) :
    (DiskStatus.ofError e).result = Hbios.resultOf e := by
  cases e <;> rfl

/-! ### Through the ports -/

/-- What a guest at the disk ports works on, and how many of its commands have succeeded. -/
structure PortTransfer where
  disks : DiskController
  memory : Memory
  moved : Nat := 0

namespace PortTransfer

/-- Write a register. -/
def write (t : PortTransfer) (register v : UInt8) : PortTransfer :=
  let (disks, memory) := t.disks.writeRegister register v t.memory
  { t with disks, memory }

/-- Select a unit, a block address and a memory address, byte by byte. -/
def select (t : PortTransfer) (u : UInt8) (lba : UInt32) (address : UInt16) : PortTransfer :=
  let t := t.write 0 u
  let t := t.write 1 (DiskController.lbaByte lba 0)
  let t := t.write 2 (DiskController.lbaByte lba 1)
  let t := t.write 3 (DiskController.lbaByte lba 2)
  let t := t.write 4 (DiskController.lbaByte lba 3)
  (t.write 5 (lowByte address)).write 6 (highByte address)

/-- Issue a command up to so many times, and stop at the first status other than zero. -/
def commandMany (t : PortTransfer) (command : UInt8) : Nat → PortTransfer
  | 0 => t
  | count + 1 =>
    let t := t.write 7 command
    if t.disks.readRegister 7 = 0 then { t with moved := t.moved + 1 }.commandMany command count
    else t

end PortTransfer

/-- Move up to `count` sectors through the ports. -/
def DiskController.portTransfer (c : DiskController) (m : Memory) (write : Bool) (u : UInt8)
    (lba : UInt32) (address : UInt16) (count : UInt8) : PortTransfer :=
  (({ disks := c, memory := m } : PortTransfer).select u lba address).commandMany
    (sectorCommand write) count.toNat

/-! ### Through the firmware -/

namespace Hbios

/-- The registers of a seek. -/
def seekCore (core : Core) (u : UInt8) (lba : UInt32) : Core :=
  { (core.setDE (lba.toNat / 65536).toUInt16).setHL lba.toNat.toUInt16 with
    b := HbiosFunction.diskSeek.code, c := u }

/-- The registers of a transfer. -/
def transferCore (core : Core) (write : Bool) (u : UInt8) (address : UInt16) (count : UInt8) :
    Core :=
  { core.setHL address with
    b := (if write then HbiosFunction.diskWrite else .diskRead).code, c := u, e := count }

/-- A seek and a transfer, at any two times and with anything in the other registers. -/
def seekAndTransfer (now later : UInt64) (core other : Core) (board : Board) (write : Bool)
    (u : UInt8) (lba : UInt32) (address : UInt16) (count : UInt8) : HbiosState :=
  let sought := (call now ⟨seekCore core u lba, board⟩).1
  (call later ⟨transferCore other write u address count, sought.board⟩).1

/-- The transfer that starts behind a seek. -/
def Transfer.startAt (disks : DiskController) (memory : Memory) (u : UInt8) (lba : UInt32)
    (address : UInt16) : Transfer :=
  { disks := disks.setSeek u.toNat lba, memory, address, moved := 0 }

/-- A round moves the sector at the seek position and goes on to the next one. -/
theorem Transfer.move_eq (t : Transfer) (write : Bool) (n : Nat) :
    t.move write n =
      { disks := (t.disks.disksMoved write n (t.disks.seek n) t.memory t.address).setSeek n
          (t.disks.seek n + 1)
        memory := t.disks.memoryMoved write n (t.disks.seek n) t.memory t.address
        address := t.address + (t.disks.disksMoved write n (t.disks.seek n) t.memory
          t.address).sectorSize.toUInt16
        moved := t.moved + 1 } := by
  simp only [move, DiskController.disksMoved, DiskController.memoryMoved]
  cases write with
  | false => simp only [Bool.false_eq_true, if_false]
  | true => simp only [if_true]

end Hbios

namespace PortTransfer

/-- The transfer that starts behind a selection. -/
def startAt (disks : DiskController) (memory : Memory) (u : UInt8) (lba : UInt32)
    (address : UInt16) : PortTransfer :=
  { disks := { disks with selected := u, lba := lba, address := address }, memory }

variable (t : PortTransfer) (v : UInt8)

theorem write_unit : t.write 0 v = { t with disks := { t.disks with selected := v } } := rfl

theorem write_lba0 :
    t.write 1 v =
      { t with disks := { t.disks with lba := DiskController.setLbaByte t.disks.lba 0 v } } := rfl

theorem write_lba1 :
    t.write 2 v =
      { t with disks := { t.disks with lba := DiskController.setLbaByte t.disks.lba 1 v } } := rfl

theorem write_lba2 :
    t.write 3 v =
      { t with disks := { t.disks with lba := DiskController.setLbaByte t.disks.lba 2 v } } := rfl

theorem write_lba3 :
    t.write 4 v =
      { t with disks := { t.disks with lba := DiskController.setLbaByte t.disks.lba 3 v } } := rfl

theorem write_low :
    t.write 5 v =
      { t with disks := { t.disks with address := word (highByte t.disks.address) v } } := rfl

theorem write_high :
    t.write 6 v =
      { t with disks := { t.disks with address := word v (lowByte t.disks.address) } } := rfl

theorem write_command :
    t.write 7 v =
      { t with
        disks := (t.disks.command v t.memory).1
        memory := (t.disks.command v t.memory).2 } := rfl

/-- Selecting changes the selected unit and the two addresses, and nothing else. -/
theorem select_eq (u : UInt8) (lba : UInt32) (address : UInt16) :
    t.select u lba address =
      { t with disks := { t.disks with selected := u, lba := lba, address := address } } := by
  simp only [select, write_unit, write_lba0, write_lba1, write_lba2, write_lba3, write_low,
    write_high, DiskController.setLbaByte_all, lowByte_word, word_highByte_lowByte]

end PortTransfer

/-! ### The two paths side by side -/

/-- The two paths in the midst of a transfer. -/
structure Coupled (u : UInt8) (t : Hbios.Transfer) (p : PortTransfer) : Prop where
  contents : t.disks.resetRegisters = p.disks.resetRegisters
  memory : t.memory = p.memory
  selected : p.disks.selected = u
  /-- The seek position, if there is a unit, is the block address. -/
  seek : ∀ d, t.disks.unit u.toNat = .ok d → d.seek = p.disks.lba
  address : t.address = p.disks.address
  moved : t.moved.toNat = p.moved

namespace Coupled

variable {u : UInt8} {t : Hbios.Transfer} {p : PortTransfer}

theorem sectorSize (h : Coupled u t p) : t.disks.sectorSize = p.disks.sectorSize := by
  rw [← DiskController.sectorSize_resetRegisters, h.contents,
    DiskController.sectorSize_resetRegisters]

/-- Both paths check the same. -/
theorem check (h : Coupled u t p) (write : Bool) :
    t.check write u.toNat = p.disks.checkSector write p.disks.selected.toNat p.disks.lba := by
  rw [h.selected, ← DiskController.checkSector_resetRegisters, ← h.contents,
    DiskController.checkSector_resetRegisters]
  unfold Hbios.Transfer.check
  cases hd : t.disks.unit u.toNat with
  | error e => exact (DiskController.checkSector_of_error t.disks write p.disks.lba hd).symm
  | ok d =>
      rw [← h.seek d hd]
      cases write <;> rfl

/-- A sector that can be moved is moved alike. -/
theorem move (h : Coupled u t p) (write : Bool) (room : p.moved < 255)
    (ok : p.disks.checkSector write p.disks.selected.toNat p.disks.lba = .ok ()) :
    Coupled u (t.move write u.toNat)
      { p.write 7 (DiskController.sectorCommand write) with moved := p.moved + 1 } := by
  have place : t.disks.seek u.toNat = p.disks.lba := by
    rw [← h.check] at ok
    unfold Hbios.Transfer.check at ok
    cases hd : t.disks.unit u.toNat with
    | error e =>
        rw [hd] at ok
        cases ok
    | ok d =>
        rw [DiskController.seek_of_unit t.disks u.toNat hd]
        exact h.seek d hd
  have ports : p.write 7 (DiskController.sectorCommand write) =
      { p with
        disks := { (p.disks.disksMoved write u.toNat p.disks.lba p.memory p.disks.address).advance with
          status := DiskStatus.ok.code }
        memory := p.disks.memoryMoved write u.toNat p.disks.lba p.memory p.disks.address } := by
    rw [PortTransfer.write_command, DiskController.command_of_ok _ _ _ ok, h.selected]
  obtain ⟨-, -, -, size⟩ :=
    t.disks.disksMoved_registers write t.memory u.toNat p.disks.lba t.address
  obtain ⟨selected, lba, address, size'⟩ :=
    p.disks.disksMoved_registers write p.memory u.toNat p.disks.lba p.disks.address
  rw [Hbios.Transfer.move_eq, place, ports]
  constructor
  case contents =>
      have forget : ({ (p.disks.disksMoved write u.toNat p.disks.lba p.memory p.disks.address).advance
          with status := DiskStatus.ok.code } : DiskController).resetRegisters =
          (p.disks.disksMoved write u.toNat p.disks.lba p.memory p.disks.address).resetRegisters :=
        rfl
      rw [forget, DiskController.setSeek_resetRegisters, DiskController.disksMoved_resetRegisters,
        DiskController.disksMoved_resetRegisters, h.contents, h.memory, h.address]
  case memory =>
      show t.disks.memoryMoved write u.toNat p.disks.lba t.memory t.address =
        p.disks.memoryMoved write u.toNat p.disks.lba p.memory p.disks.address
      rw [← DiskController.memoryMoved_resetRegisters, h.contents,
        DiskController.memoryMoved_resetRegisters, h.memory, h.address]
  case selected => exact selected.trans h.selected
  case seek =>
      intro d hd
      obtain ⟨d', -, rfl⟩ := DiskController.unit_of_modifyUnit _ u.toNat hd
      show p.disks.lba + 1 = _ + 1
      rw [lba]
  case address =>
      show t.address + _ = _ + _
      rw [size, address, size', h.address, h.sectorSize]
  case moved =>
      show (t.moved + 1).toNat = p.moved + 1
      have one : (1 : UInt8).toNat = 1 := rfl
      have moved := h.moved
      rw [UInt8.toNat_add, one]
      omega

/-- A sector that is refused changes nothing but the status of the ports. -/
theorem refuse (h : Coupled u t p) {write : Bool} {e : MachineError}
    (error : p.disks.checkSector write p.disks.selected.toNat p.disks.lba = .error e) :
    Coupled u t (p.write 7 (DiskController.sectorCommand write)) := by
  rw [PortTransfer.write_command, DiskController.command_of_error _ _ _ error]
  obtain ⟨contents, memory, selected, seek, address, moved⟩ := h
  exact ⟨contents, memory, selected, seek, address, moved⟩

/-- Whole transfers stay coupled, and the status of the last command stands for the result. By
induction on the number of sectors that are left. -/
theorem many (h : Coupled u t p) (write : Bool) (count : Nat) (room : p.moved + count ≤ 255) :
    Coupled u (t.moveMany write u.toNat count).2
        (p.commandMany (DiskController.sectorCommand write) count) ∧
      ((count = 0 → p.disks.status = DiskStatus.ok.code) →
        ∃ status : DiskStatus,
          (p.commandMany (DiskController.sectorCommand write) count).disks.status = status.code ∧
          (t.moveMany write u.toNat count).1 = status.result ∧
          (p.disks.Matched u.toNat → status ≠ .badCommand)) := by
  induction count generalizing t p with
  | zero => exact ⟨h, fun idle => ⟨.ok, idle rfl, rfl, fun _ => nofun⟩⟩
  | succ count ih =>
      rw [Hbios.Transfer.moveMany, PortTransfer.commandMany, h.check]
      cases hs : p.disks.checkSector write p.disks.selected.toNat p.disks.lba with
      | error e =>
          have status : (p.write 7 (DiskController.sectorCommand write)).disks.status =
              (DiskStatus.ofError e).code := by
            rw [PortTransfer.write_command, DiskController.command_of_error _ _ _ hs]
          have stops : (p.write 7 (DiskController.sectorCommand write)).disks.readRegister 7 ≠ 0 := by
            show (p.write 7 (DiskController.sectorCommand write)).disks.status ≠ 0
            rw [status]
            exact DiskStatus.code_ofError_ne_zero e
          dsimp only
          rw [if_neg stops]
          refine ⟨h.refuse hs, fun _ => ⟨DiskStatus.ofError e, status, ?_, fun matched => ?_⟩⟩
          · exact (DiskStatus.result_ofError e).symm
          · rw [h.selected] at hs
            exact DiskController.ofError_ne_badCommand _ _ matched hs
      | ok _ =>
          have status : (p.write 7 (DiskController.sectorCommand write)).disks.status =
              DiskStatus.ok.code := by
            rw [PortTransfer.write_command, DiskController.command_of_ok _ _ _ hs]
          have goes_on : (p.write 7 (DiskController.sectorCommand write)).disks.readRegister 7 = 0 :=
            status
          have step := h.move write (by omega) hs
          dsimp only
          rw [if_pos goes_on]
          obtain ⟨coupled, stated⟩ := ih step (by show p.moved + 1 + count ≤ 255; omega)
          obtain ⟨last, last_status, result, known⟩ := stated fun _ => status
          refine ⟨coupled, fun _ => ⟨last, last_status, result, fun matched => known ?_⟩⟩
          show (p.write 7 (DiskController.sectorCommand write)).disks.Matched u.toNat
          rw [PortTransfer.write_command, DiskController.command_of_ok _ _ _ hs]
          rw [h.selected]
          exact matched.disksMoved write p.memory p.disks.lba p.disks.address

/-- Before the first sector, the seek position is the block address that the ports select. -/
theorem start (disks : DiskController) (memory : Memory) (u : UInt8) (lba : UInt32)
    (address : UInt16) :
    Coupled u (Hbios.Transfer.startAt disks memory u lba address)
      (PortTransfer.startAt disks memory u lba address) := by
  constructor
  case contents => exact DiskController.setSeek_resetRegisters disks u.toNat lba
  case memory => rfl
  case selected => rfl
  case seek =>
      intro d hd
      obtain ⟨d', -, rfl⟩ := DiskController.unit_of_modifyUnit disks u.toNat hd
      rfl
  case address => rfl
  case moved => rfl

end Coupled

/-! ### The two calls -/

namespace Hbios

variable (core : Core) (board : Board) (u : UInt8)

theorem de_seekCore (lba : UInt32) : (seekCore core u lba).de = (lba.toNat / 65536).toUInt16 :=
  word_highByte_lowByte _

theorem hl_seekCore (lba : UInt32) : (seekCore core u lba).hl = lba.toNat.toUInt16 :=
  word_highByte_lowByte _

/-- A seek sets the seek position of the unit, if there is one. -/
theorem call_seek (now : UInt64) {lba : UInt32} (h : lba.toNat < 2 ^ 31) :
    (call now ⟨seekCore core u lba, board⟩).1.board =
      { board with
        devices := { board.devices with disks := board.devices.disks.setSeek u.toNat lba } } := by
  have function : HbiosFunction.ofCode? (seekCore core u lba).b = some .diskSeek :=
    HbiosFunction.ofCode?_code .diskSeek
  have position : ((seekCore core u lba).de.toNat * 65536 + (seekCore core u lba).hl.toNat) %
      2 ^ 31 = lba.toNat := by
    rw [de_seekCore, hl_seekCore, Nat.toUInt16_eq, Nat.toUInt16_eq, UInt16.toNat_ofNat',
      UInt16.toNat_ofNat']
    omega
  rw [call, function]
  dsimp only
  unfold diskCall
  dsimp only
  rw [position, show (seekCore core u lba).c = u from rfl]
  cases hd : board.devices.disks.unit u.toNat with
  | ok d =>
      dsimp only [finish, withDisks]
      rw [Nat.toUInt32_eq, UInt32.ofNat_toNat]
  | error e =>
      dsimp only [finish]
      rw [DiskController.setSeek, DiskController.modifyUnit_of_error _ _ hd]

theorem call_transfer (now : UInt64) (write : Bool) (address : UInt16) (count : UInt8) :
    call now ⟨transferCore core write u address count, board⟩ =
      transfer ⟨transferCore core write u address count, board⟩ write := by
  cases write with
  | false =>
      have function : HbiosFunction.ofCode? (transferCore core false u address count).b =
        some .diskRead := HbiosFunction.ofCode?_code .diskRead
      rw [call, function]
  | true =>
      have function : HbiosFunction.ofCode? (transferCore core true u address count).b =
        some .diskWrite := HbiosFunction.ofCode?_code .diskWrite
      rw [call, function]

/-- The two calls end as the transfer does. -/
theorem seekAndTransfer_eq (now later : UInt64) (other : Core) (write : Bool) {lba : UInt32}
    (h : lba.toNat < 2 ^ 31) (address : UInt16) (count : UInt8) :
    let last := seekAndTransfer now later core other board write u lba address count
    let r := (Transfer.startAt board.devices.disks board.memory u lba address).moveMany write
      u.toNat count.toNat
    last.board.memory = r.2.memory ∧ last.board.devices.disks = r.2.disks ∧
      last.core.e = r.2.moved ∧ last.core.a = r.1.code := by
  have hl : (transferCore other write u address count).hl = address := word_highByte_lowByte address
  rw [seekAndTransfer, call_seek core board u now h, call_transfer, transfer]
  dsimp only
  rw [hl]
  exact ⟨rfl, rfl, rfl, rfl⟩

/-- What the two paths have in common after a transfer of so many sectors. -/
structure PathsAgree (disks : DiskController) (u count : UInt8) (firmware : HbiosState)
    (ports : PortTransfer) : Prop where
  memory : firmware.board.memory = ports.memory
  images : ∀ n, firmware.board.devices.disks.image n = ports.disks.image n
  dirty : ∀ n, firmware.board.devices.disks.isDirty n = ports.disks.isDirty n
  warning : firmware.board.devices.disks.pendingWarning = ports.disks.pendingWarning
  /-- E is left with the number of commands that succeeded. -/
  moved : firmware.core.e.toNat = ports.moved
  /-- A is left with the result that the last status stands for. -/
  status : count ≠ 0 → ∃ status : DiskStatus,
    ports.disks.readRegister 7 = status.code ∧ firmware.core.a = status.result.code ∧
      (disks.Matched u.toNat → status ≠ .badCommand)

/-- **The two ways to a disk agree.** A seek and a transfer through the firmware, and the commands for
as many sectors through the ports, leave the same memory and the same disks, move the same number of
sectors and end alike. -/
theorem seekAndTransfer_agrees (now later : UInt64) (core other : Core) (board : Board)
    (write : Bool) (u : UInt8) {lba : UInt32} (h : lba.toNat < 2 ^ 31) (address : UInt16)
    (count : UInt8) :
    PathsAgree board.devices.disks u count
      (seekAndTransfer now later core other board write u lba address count)
      (board.devices.disks.portTransfer board.memory write u lba address count) := by
  have start := Coupled.start board.devices.disks board.memory u lba address
  have room : 0 + count.toNat ≤ 255 := by
    have := count.toNat_lt
    omega
  obtain ⟨coupled, stated⟩ := start.many write count.toNat room
  obtain ⟨memory, disks, moved, result⟩ :=
    seekAndTransfer_eq core board u now later other write h address count
  have ports : board.devices.disks.portTransfer board.memory write u lba address count =
      (PortTransfer.startAt board.devices.disks board.memory u lba address).commandMany
        (DiskController.sectorCommand write) count.toNat := by
    rw [DiskController.portTransfer, PortTransfer.select_eq]
    rfl
  rw [ports]
  generalize seekAndTransfer now later core other board write u lba address count = last at *
  constructor
  case memory => rw [memory, coupled.memory]
  case images =>
      intro n
      rw [disks, ← DiskController.image_resetRegisters, coupled.contents,
        DiskController.image_resetRegisters]
  case dirty =>
      intro n
      rw [disks, ← DiskController.isDirty_resetRegisters, coupled.contents,
        DiskController.isDirty_resetRegisters]
  case warning =>
      rw [disks, ← DiskController.pendingWarning_resetRegisters, coupled.contents,
        DiskController.pendingWarning_resetRegisters]
  case moved => rw [moved, coupled.moved]
  case status =>
      intro some_sector
      have not_none : count.toNat ≠ 0 := fun h0 => some_sector (UInt8.toNat_inj.1 h0)
      obtain ⟨status, last_status, stands, known⟩ := stated fun h0 => absurd h0 not_none
      refine ⟨status, last_status, ?_, known⟩
      rw [result, stands]

/-- A board with a disk of two short sectors in slot 3. -/
def twoSectorBoard : Board where
  memory := Memory.new 0
  devices :=
    { ports := PortTable.empty
      disks :=
        { units := (Vector.replicate maxUnits none).set 3
            (some { image := Bytes.ofList [1, 2, 3, 4, 5, 6, 7, 8], sectorSize := 4 })
          sectorSize := 4, sectorsPerSlice := 2, autoSlices := true } }

/-- A transfer that runs past the end of the disk. -/
theorem twoSectorBoard_agrees :
    (1 : UInt32).toNat < 2 ^ 31 ∧
      PathsAgree twoSectorBoard.devices.disks 3 2
        (seekAndTransfer 0 0 {} {} twoSectorBoard true 3 1 0xFFFE 2)
        (twoSectorBoard.devices.disks.portTransfer twoSectorBoard.memory true 3 1 0xFFFE 2) :=
  ⟨by decide, seekAndTransfer_agrees 0 0 {} {} twoSectorBoard true 3 (by decide) 0xFFFE 2⟩

end Hbios

end BankedZ80
