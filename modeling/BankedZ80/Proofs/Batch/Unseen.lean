import BankedZ80.Proofs.Batch.Indistinguishable

/-!
# Changes that the guest cannot see

Some of what a device holds is for the host alone. A change of it is unseen when every operation that
the guest has on the device gives the same answer before and after the change, and commutes with it.
The guest reaches a device in two ways, by its registers and by the firmware, so each device lists the
operations of both (`Uart.Unseen`, `DiskController.Unseen`, `Nvram.Unseen`).

`DeviceChange` collects a change of each device. If all are unseen, a board and the changed board are
indistinguishable (`DeviceChange.Unseen.indistinguishable`), and stay each other's counterpart.
-/

namespace BankedZ80

/-! ### Devices -/

/-- The guest does not notice the change of the serial port. -/
structure Uart.Unseen (f : Uart → Uart) : Prop where
  readRegister (u : Uart) (register : UInt8) :
    (f u).readRegister register = ((u.readRegister register).1, f (u.readRegister register).2)
  writeRegister (u : Uart) (register v : UInt8) :
    (f u).writeRegister register v = f (u.writeRegister register v)
  takeInput (u : Uart) : (f u).takeInput = u.takeInput.map fun r => (r.1, f r.2)
  putOutput (u : Uart) (v : UInt8) : (f u).putOutput v = f (u.putOutput v)
  pendingInput (u : Uart) : (f u).pendingInput = u.pendingInput

/-- What a firmware call tells of a disk: its number of sectors, and their size. -/
def DiskUnit.capacity (d : DiskUnit) : UInt32 × Nat := (d.totalSectors, d.sectorSize)

/-- A transfer whose disks are changed. -/
def Hbios.Transfer.onDisks (f : DiskController → DiskController) (t : Hbios.Transfer) :
    Hbios.Transfer :=
  { t with disks := f t.disks }

/-- The guest does not notice the change of the disks. -/
structure DiskController.Unseen (f : DiskController → DiskController) : Prop where
  readRegister (c : DiskController) (register : UInt8) :
    (f c).readRegister register = c.readRegister register
  writeRegister (c : DiskController) (register v : UInt8) (m : Memory) :
    (f c).writeRegister register v m =
      (f (c.writeRegister register v m).1, (c.writeRegister register v m).2)
  capacity (c : DiskController) (n : Nat) :
    ((f c).unit n).map (·.capacity) = (c.unit n).map (·.capacity)
  setSeek (c : DiskController) (n : Nat) (lba : UInt32) :
    (f c).setSeek n lba = f (c.setSeek n lba)
  moveMany (t : Hbios.Transfer) (write : Bool) (n count : Nat) :
    (t.onDisks f).moveMany write n count =
      ((t.moveMany write n count).1, (t.moveMany write n count).2.onDisks f)
  systemCount? (c : DiskController) (query : UInt8) :
    Hbios.systemCount? (f c) query = Hbios.systemCount? c query

/-- The guest does not notice the change of the boot record. -/
structure Nvram.Unseen (f : Nvram → Nvram) : Prop where
  readRegister (n : Nvram) (register : UInt8) :
    (f n).readRegister register = n.readRegister register
  writeRegister (n : Nvram) (register v : UInt8) :
    (f n).writeRegister register v = f (n.writeRegister register v)

theorem Uart.Unseen.unchanged : Uart.Unseen id where
  readRegister _ _ := rfl
  writeRegister _ _ _ := rfl
  takeInput _ := Option.map_id'.symm
  putOutput _ _ := rfl
  pendingInput _ := rfl

theorem DiskController.Unseen.unchanged : DiskController.Unseen id where
  readRegister _ _ := rfl
  writeRegister _ _ _ _ := rfl
  capacity _ _ := rfl
  setSeek _ _ _ := rfl
  moveMany _ _ _ _ := rfl
  systemCount? _ _ := rfl

theorem Nvram.Unseen.unchanged : Nvram.Unseen id where
  readRegister _ _ := rfl
  writeRegister _ _ _ := rfl

/-! ### All devices -/

/-- A change of each device that holds something for the host alone. -/
structure DeviceChange where
  uart : Uart → Uart := id
  disks : DiskController → DiskController := id
  nvram : Nvram → Nvram := id

namespace DeviceChange

variable (f : DeviceChange)

/-- The changed devices. -/
def onDevices (d : Devices) : Devices :=
  { d with uart := f.uart d.uart, disks := f.disks d.disks, nvram := f.nvram d.nvram }

/-- The board with the changed devices. -/
def onBoard (b : Board) : Board := { b with devices := f.onDevices b.devices }

/-- The board of a call with the changed devices. -/
def onCall (s : HbiosState) : HbiosState := { s with board := f.onBoard s.board }

/-- The guest notices none of the changes. -/
structure Unseen : Prop where
  uart : Uart.Unseen f.uart
  disks : DiskController.Unseen f.disks
  nvram : Nvram.Unseen f.nvram

namespace Unseen

variable {f} (h : f.Unseen)
include h

/-! ### Ports -/

theorem input (d : Devices) (m : Memory) (port : UInt8) :
    (f.onDevices d).input m port = ((d.input m port).1, f.onDevices (d.input m port).2) := by
  unfold Devices.input
  rw [show (f.onDevices d).ports = d.ports from rfl]
  split
  case h_1 register _ =>
    rw [show (f.onDevices d).uart = f.uart d.uart from rfl, h.uart.readRegister]
    rfl
  case h_3 register _ =>
    exact congrArg (·, f.onDevices d) (h.disks.readRegister d.disks register)
  case h_4 register _ =>
    exact congrArg (·, f.onDevices d) (h.nvram.readRegister d.nvram register)
  all_goals rfl

theorem output (d : Devices) (m : Memory) (port v : UInt8) :
    (f.onDevices d).output m port v =
      ((d.output m port v).1, f.onDevices (d.output m port v).2.1, (d.output m port v).2.2) := by
  unfold Devices.output
  rw [show (f.onDevices d).ports = d.ports from rfl]
  split
  case h_1 register _ =>
    rw [show (f.onDevices d).uart = f.uart d.uart from rfl, h.uart.writeRegister]
    rfl
  case h_3 register _ =>
    rw [show (f.onDevices d).disks = f.disks d.disks from rfl, h.disks.writeRegister]
    rfl
  case h_4 register _ =>
    rw [show (f.onDevices d).nvram = f.nvram d.nvram from rfl, h.nvram.writeRegister]
    rfl
  all_goals rfl

/-! ### Firmware calls -/

variable (s : HbiosState)

theorem consoleCall (function : HbiosFunction) :
    Hbios.consoleCall (f.onCall s) function =
      (f.onCall (Hbios.consoleCall s function).1, (Hbios.consoleCall s function).2) := by
  unfold Hbios.consoleCall
  rw [show (f.onCall s).core = s.core from rfl,
    show (f.onCall s).board.devices.uart = f.uart s.board.devices.uart from rfl]
  dsimp only
  split
  · rfl
  · split
    · rw [h.uart.takeInput]
      cases s.board.devices.uart.takeInput <;> rfl
    · rw [h.uart.putOutput]
      rfl
    · rw [h.uart.pendingInput]
      rfl
    · rfl

theorem transfer (write : Bool) :
    Hbios.transfer (f.onCall s) write =
      (f.onCall (Hbios.transfer s write).1, (Hbios.transfer s write).2) := by
  unfold Hbios.transfer
  dsimp only
  rw [show (f.onCall s).core = s.core from rfl,
    show (⟨(f.onCall s).board.devices.disks, (f.onCall s).board.memory, s.core.hl, 0⟩ :
        Hbios.Transfer) =
      Hbios.Transfer.onDisks f.disks ⟨s.board.devices.disks, s.board.memory, s.core.hl, 0⟩ from rfl,
    h.disks.moveMany]
  generalize Hbios.Transfer.moveMany _ _ _ _ = r
  rfl

theorem diskCall (function : HbiosFunction) :
    Hbios.diskCall (f.onCall s) function =
      (f.onCall (Hbios.diskCall s function).1, (Hbios.diskCall s function).2) := by
  have capacity := h.disks.capacity s.board.devices.disks s.core.c.toNat
  unfold Hbios.diskCall
  rw [show (f.onCall s).core = s.core from rfl,
    show (f.onCall s).board.devices.disks = f.disks s.board.devices.disks from rfl]
  dsimp only
  rw [h.disks.setSeek]
  cases hd : s.board.devices.disks.unit s.core.c.toNat with
  | error e =>
      rw [hd] at capacity
      cases hd' : (f.disks s.board.devices.disks).unit s.core.c.toNat with
      | error e' =>
          rw [hd'] at capacity
          cases capacity
          cases function <;> rfl
      | ok d' =>
          rw [hd'] at capacity
          cases capacity
  | ok d =>
      rw [hd] at capacity
      cases hd' : (f.disks s.board.devices.disks).unit s.core.c.toNat with
      | error e' =>
          rw [hd'] at capacity
          cases capacity
      | ok d' =>
          rw [hd'] at capacity
          obtain ⟨sectors, size⟩ := Prod.mk.inj (Except.ok.inj capacity)
          cases function
          case diskCapacity =>
            dsimp only
            rw [sectors, size]
            rfl
          all_goals rfl

theorem systemCall (function : HbiosFunction) :
    Hbios.systemCall (f.onCall s) function =
      (f.onCall (Hbios.systemCall s function).1, (Hbios.systemCall s function).2) := by
  unfold Hbios.systemCall
  rw [show (f.onCall s).core = s.core from rfl,
    show (f.onCall s).board.devices.disks = f.disks s.board.devices.disks from rfl]
  split
  · split
    · rfl
    · split <;> rfl
  · rfl
  · rfl
  · rfl
  · rw [h.disks.systemCount?]
    split <;> rfl

theorem call (now : UInt64) :
    Hbios.call now (f.onCall s) = (f.onCall (Hbios.call now s).1, (Hbios.call now s).2) := by
  unfold Hbios.call
  rw [show (f.onCall s).core = s.core from rfl]
  split
  · rfl
  · next function _ =>
      cases function with
      | charInput | charOutput | charInputStatus | charOutputStatus => exact h.consoleCall s _
      | diskRead => exact h.transfer s false
      | diskWrite => exact h.transfer s true
      | clockRead =>
          dsimp only
          generalize (DateTime.ofUnix now).toBuffer = buffer
          rfl
      | diskStatus | diskSeek | diskMedia | diskCapacity => exact h.diskCall s _
      | systemReset | systemVersion | systemSetBank | systemGetBank | systemGet =>
          exact h.systemCall s _

/-! ### The guest's view -/

omit h in
theorem devices_onBoard (b : Board) : (f.onBoard b).devices = f.onDevices b.devices := rfl

omit h in
theorem memory_onBoard (b : Board) : (f.onBoard b).memory = b.memory := rfl

/-- **The guest cannot tell the changed board from the other.** -/
theorem indistinguishable : Board.Indistinguishable fun b b' => b' = f.onBoard b where
  bus :=
    { read := by
        rintro ⟨b, trap⟩ ⟨_, _⟩ ⟨-, rfl⟩ a
        rfl
      write := by
        rintro ⟨b, trap⟩ ⟨_, _⟩ ⟨rfl, rfl⟩ a v
        exact ⟨rfl, rfl⟩
      input_value := by
        rintro ⟨b, trap⟩ ⟨_, _⟩ ⟨-, rfl⟩ p
        rw [Board.bus_input, Board.bus_input, devices_onBoard, memory_onBoard, h.input]
      input := by
        rintro ⟨b, trap⟩ ⟨_, _⟩ ⟨rfl, rfl⟩ p
        rw [Board.bus_input, Board.bus_input, devices_onBoard, memory_onBoard, h.input]
        exact ⟨rfl, rfl⟩
      output := by
        rintro ⟨b, trap⟩ ⟨_, _⟩ ⟨rfl, rfl⟩ p v
        rw [Board.bus_output, Board.bus_output, devices_onBoard, memory_onBoard, h.output]
        exact ⟨rfl, rfl⟩ }
  call := by
    rintro b _ rfl now core
    have eq := h.call ⟨core, b⟩ now
    rw [show (⟨core, f.onBoard b⟩ : HbiosState) = f.onCall ⟨core, b⟩ from rfl, eq]
    exact ⟨rfl, rfl, rfl⟩
  restart := by
    rintro b _ rfl cold
    rfl

end Unseen

end DeviceChange

end BankedZ80
