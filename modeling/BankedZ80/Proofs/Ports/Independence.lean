import BankedZ80.Proofs.Hbios.Frame
import BankedZ80.Proofs.Ports.Decoding

/-!
# Devices do not interfere

A port access reaches the device that decodes the port and nothing else, except that a disk command may
store bytes in memory and the bank port selects the bank.

* `PortWork` says once what an access can be: work on one part of the board. `Board.access_eq` finds the
  work of an access by looking its port up.
* `PortAccess.Confined` is what an access leaves alone, and `Board.confined_access` says so of every
  access.
* Work on different parts can be done in either order (`PortWork.on_comm`), and so can accesses whose
  devices share nothing (`Board.commute_of_apart`). The disk controller and the bank port do share
  something, as it depends on the bank where a disk command stores its bytes.
-/

namespace BankedZ80

namespace DiskController

/-- A command stores some bytes in memory, or none. -/
theorem memory_command (c : DiskController) (v : UInt8) (m : Memory) :
    ∃ bytes, (c.command v m).2 = m.loadAt c.address bytes := by
  unfold command
  split
  · split
    · unfold runCommand
      dsimp only
      split
      · exact ⟨_, rfl⟩
      · exact ⟨[], rfl⟩
      · exact ⟨[], rfl⟩
    · exact ⟨[], rfl⟩
  · exact ⟨[], rfl⟩

/-- Only a write to the command register stores anything. -/
theorem memory_writeRegister (c : DiskController) {register : UInt8} (v : UInt8) (m : Memory)
    (other : register ≠ 7) : (c.writeRegister register v m).2 = m := by
  unfold writeRegister
  split
  case h_8 seven => exact absurd (UInt8.toNat_inj.1 seven) other
  all_goals rfl

/-- Whatever is written to a register, pages and bank stay. -/
theorem pages_writeRegister (c : DiskController) (register v : UInt8) (m : Memory) :
    m.SamePages (c.writeRegister register v m).2 ∧
      (c.writeRegister register v m).2.bank = m.bank := by
  by_cases command : register = 7
  · subst command
    obtain ⟨bytes, stored⟩ := c.memory_command v m
    rw [show c.writeRegister 7 v m = c.command v m from rfl, stored]
    exact ⟨Memory.SamePages.loadAt m c.address bytes, Memory.bank_loadAt m c.address bytes⟩
  · rw [c.memory_writeRegister v m command]
    exact ⟨Memory.SamePages.refl m, rfl⟩

end DiskController

/-! ### Port accesses -/

/-- A read or a write of a port. -/
inductive PortAccess where
  | input (port : UInt8)
  | output (port v : UInt8)
deriving DecidableEq

/-- The port that is accessed. -/
def PortAccess.port : PortAccess → UInt8
  | input port => port
  | output port _ => port

/-- Carry out a port access. A read is answered with the value read, a write with the value written if
it went to the trap port. -/
def Board.access (b : Board) : PortAccess → Option UInt8 × Board
  | .input port =>
    (some (b.devices.input b.memory port).1,
      { b with devices := (b.devices.input b.memory port).2 })
  | .output port v =>
    let (memory, devices, trap) := b.devices.output b.memory port v
    (trap, { memory, devices })

/-- The processor's port accesses are these, at the low byte of its port number. -/
theorem Board.bus_access (s : BoardAccess) (port : UInt16) (v : UInt8) :
    s.board.access (.input (lowByte port)) =
        (some (bus.input port s).1, (bus.input port s).2.board) ∧
      (s.board.access (.output (lowByte port) v)).2 = (bus.output port v s).board ∧
      (bus.output port v s).trap =
        (s.board.access (.output (lowByte port) v)).1.or s.trap :=
  ⟨rfl, rfl, rfl⟩

/-! ### Work on one part of the board -/

/-- What a port access does: work on the part of the board that it reaches. -/
inductive PortWork where
  /-- Nothing is reached. -/
  | nothing (answer : Option UInt8)
  | uart (work : Uart → Option UInt8 × Uart)
  | bankSelect (work : UInt8 → Option UInt8 × UInt8)
  | disk (work : DiskController → Memory → Option UInt8 × DiskController × Memory)
  | nvram (work : Nvram → Option UInt8 × Nvram)
  | hostFile (work : HostFile → Option UInt8 × HostFile)

namespace PortWork

/-- The device that is worked on. -/
def device : PortWork → Option Device
  | nothing _ => none
  | uart _ => some .uart
  | bankSelect _ => some .bankSelect
  | disk _ => some .disk
  | nvram _ => some .nvram
  | hostFile _ => some .hostFile

/-- Do the work on its part of a board. -/
def on (b : Board) : PortWork → Option UInt8 × Board
  | nothing answer => (answer, b)
  | uart work =>
    ((work b.devices.uart).1,
      { b with devices := { b.devices with uart := (work b.devices.uart).2 } })
  | bankSelect work =>
    ((work b.memory.bank).1, { b with memory := b.memory.selectBank (work b.memory.bank).2 })
  | disk work =>
    ((work b.devices.disks b.memory).1,
      { memory := (work b.devices.disks b.memory).2.2
        devices := { b.devices with disks := (work b.devices.disks b.memory).2.1 } })
  | nvram work =>
    ((work b.devices.nvram).1,
      { b with devices := { b.devices with nvram := (work b.devices.nvram).2 } })
  | hostFile work =>
    ((work b.devices.hostFile).1,
      { b with devices := { b.devices with hostFile := (work b.devices.hostFile).2 } })

end PortWork

/-- The work of an access, by the device and register that it reaches. -/
def PortAccess.work : PortAccess → Option (Device × UInt8) → PortWork
  | input _, some (.uart, register) => .uart fun u =>
    (some (u.readRegister register).1, (u.readRegister register).2)
  | input _, some (.bankSelect, _) => .bankSelect fun bank => (some bank, bank)
  | input _, some (.disk, register) => .disk fun c m => (some (c.readRegister register), c, m)
  | input _, some (.nvram, register) => .nvram fun n => (some (n.readRegister register), n)
  | input _, some (.hostFile, register) => .hostFile fun h =>
    (some (h.readRegister register).1, (h.readRegister register).2)
  | input _, some (.hbiosTrap, _) => .nothing (some Devices.idleByte)
  | input _, none => .nothing (some Devices.idleByte)
  | output _ v, some (.uart, register) => .uart fun u => (none, u.writeRegister register v)
  | output _ v, some (.bankSelect, _) => .bankSelect fun _ => (none, v)
  | output _ v, some (.disk, register) => .disk fun c m =>
    (none, (c.writeRegister register v m).1, (c.writeRegister register v m).2)
  | output _ v, some (.nvram, register) => .nvram fun n => (none, n.writeRegister register v)
  | output _ v, some (.hostFile, register) => .hostFile fun h =>
    (none, h.writeRegister register v)
  | output _ v, some (.hbiosTrap, _) => .nothing (some v)
  | output _ _, none => .nothing none

/-- **What an access can be**: the work that its port stands for. -/
theorem Board.access_eq (b : Board) (a : PortAccess) :
    b.access a = (a.work (b.devices.ports.resolve a.port)).on b := by
  cases a with
  | input port =>
      show (some (b.devices.input b.memory port).1, _) =
        PortWork.on b (PortAccess.work _ (b.devices.ports.resolve port))
      unfold Devices.input
      rcases b.devices.ports.resolve port with _ | ⟨device, register⟩
      · rfl
      · cases device <;> rfl
  | output port v =>
      show ((b.devices.output b.memory port v).2.2, Board.mk _ _) =
        PortWork.on b (PortAccess.work _ (b.devices.ports.resolve port))
      unfold Devices.output
      rcases b.devices.ports.resolve port with _ | ⟨device, register⟩
      · rfl
      · cases device <;> rfl

/-- The work is on the device that was looked up. -/
theorem PortAccess.device_work {a : PortAccess} {target : Option (Device × UInt8)} {device : Device}
    (h : (a.work target).device = some device) :
    device ≠ .hbiosTrap ∧ ∃ register, target = some (device, register) := by
  rcases target with _ | ⟨found, register⟩
  · cases a <;> cases h
  · cases a <;> cases found <;> cases h <;> exact ⟨nofun, register, rfl⟩

section

variable {layout : PortLayout} {b : Board}

theorem PortAccess.decodes_of_work (made : PortTable.ofLayout layout = .ok b.devices.ports)
    {a : PortAccess} {device : Device}
    (h : (a.work (b.devices.ports.resolve a.port)).device = some device) :
    device ≠ .hbiosTrap ∧ layout.Decodes device a.port := by
  obtain ⟨real, register, found⟩ := device_work h
  exact ⟨real, ((PortTable.resolve_eq_some made).1 found).1⟩

/-! ### What an access leaves alone -/

/-- Does an access write to the command register of the disk controller? -/
def PortAccess.CommandsDisk (layout : PortLayout) : PortAccess → Prop
  | input _ => False
  | output port _ => layout.Decodes .disk port ∧ port - layout.disk = 7

/-- Does an access write to the bank port? -/
def PortAccess.SelectsBank (layout : PortLayout) : PortAccess → Prop
  | input _ => False
  | output port _ => layout.Decodes .bankSelect port

/-- What an access leaves alone: all devices but the one that decodes the port, and the memory, except
that a disk command may change bytes of the RAM and a write to the bank port changes the bank. -/
structure PortAccess.Confined (layout : PortLayout) (a : PortAccess) (b b' : Board) : Prop where
  ports : b'.devices.ports = b.devices.ports
  uart : ¬layout.Decodes .uart a.port → b'.devices.uart = b.devices.uart
  disks : ¬layout.Decodes .disk a.port → b'.devices.disks = b.devices.disks
  nvram : ¬layout.Decodes .nvram a.port → b'.devices.nvram = b.devices.nvram
  hostFile : ¬layout.Decodes .hostFile a.port → b'.devices.hostFile = b.devices.hostFile
  memory_input : ∀ port, a = .input port → b'.memory = b.memory
  pages : b.memory.SamePages b'.memory
  ram : ¬a.CommandsDisk layout → b'.memory.ram = b.memory.ram
  bank : ¬a.SelectsBank layout → b'.memory.bank = b.memory.bank
  /-- Where no device answers, or only the firmware trap, nothing changes. -/
  unmapped : (∀ device, layout.Decodes device a.port → device = .hbiosTrap) → b' = b

/-- All devices but one are as before. -/
structure Devices.SameBut (device : Option Device) (d d' : Devices) : Prop where
  ports : d'.ports = d.ports
  uart : device ≠ some .uart → d'.uart = d.uart
  disks : device ≠ some .disk → d'.disks = d.disks
  nvram : device ≠ some .nvram → d'.nvram = d.nvram
  hostFile : device ≠ some .hostFile → d'.hostFile = d.hostFile

theorem PortWork.sameBut_on (w : PortWork) (b : Board) :
    b.devices.SameBut w.device (w.on b).2.devices := by
  cases w with
  | nothing answer => exact ⟨rfl, fun _ => rfl, fun _ => rfl, fun _ => rfl, fun _ => rfl⟩
  | uart work =>
      exact ⟨rfl, fun other => absurd rfl other, fun _ => rfl, fun _ => rfl, fun _ => rfl⟩
  | bankSelect work => exact ⟨rfl, fun _ => rfl, fun _ => rfl, fun _ => rfl, fun _ => rfl⟩
  | disk work =>
      exact ⟨rfl, fun _ => rfl, fun other => absurd rfl other, fun _ => rfl, fun _ => rfl⟩
  | nvram work =>
      exact ⟨rfl, fun _ => rfl, fun _ => rfl, fun other => absurd rfl other, fun _ => rfl⟩
  | hostFile work =>
      exact ⟨rfl, fun _ => rfl, fun _ => rfl, fun _ => rfl, fun other => absurd rfl other⟩

theorem PortWork.on_of_device_eq_none {w : PortWork} (none : w.device = none) (b : Board) :
    (w.on b).2 = b := by
  cases w with
  | nothing answer => rfl
  | _ => cases none

/-- What a write does to the memory, by the device that it reaches. -/
theorem Board.memory_output (b : Board) (port v : UInt8) :
    (b.access (.output port v)).2.memory =
      match b.devices.ports.resolve port with
      | some (.bankSelect, _) => b.memory.selectBank v
      | some (.disk, register) => (b.devices.disks.writeRegister register v b.memory).2
      | _ => b.memory := by
  rw [access_eq]
  show (PortWork.on b ((PortAccess.output port v).work (b.devices.ports.resolve port))).2.memory = _
  rcases b.devices.ports.resolve port with _ | ⟨device, register⟩
  · rfl
  · cases device <;> rfl

/-- **An access is confined** to the device that decodes its port. -/
theorem Board.confined_access (made : PortTable.ofLayout layout = .ok b.devices.ports)
    (a : PortAccess) : a.Confined layout b (b.access a).2 := by
  have reached {device : Device} (elsewhere : ¬layout.Decodes device a.port) :
      (a.work (b.devices.ports.resolve a.port)).device ≠ some device :=
    fun here => elsewhere (PortAccess.decodes_of_work made here).2
  have devices := (a.work (b.devices.ports.resolve a.port)).sameBut_on b
  rw [← access_eq] at devices
  have unmapped : (∀ device, layout.Decodes device a.port → device = .hbiosTrap) →
      (b.access a).2 = b := by
    intro nobody
    rw [access_eq]
    refine PortWork.on_of_device_eq_none (Option.eq_none_iff_forall_ne_some.2 fun device here => ?_) b
    obtain ⟨real, decodes⟩ := PortAccess.decodes_of_work made here
    exact real (nobody device decodes)
  cases a with
  | input port =>
      exact ⟨devices.ports, devices.uart ∘ reached, devices.disks ∘ reached,
        devices.nvram ∘ reached, devices.hostFile ∘ reached, fun _ _ => rfl,
        Memory.SamePages.refl b.memory, fun _ => rfl, fun _ => rfl, unmapped⟩
  | output port v =>
      refine ⟨devices.ports, devices.uart ∘ reached, devices.disks ∘ reached,
        devices.nvram ∘ reached, devices.hostFile ∘ reached, nofun, ?pages, ?ram, ?bank, unmapped⟩
      all_goals rw [memory_output]
      case pages =>
          split
          · exact Memory.SamePages.selectBank b.memory v
          · exact (b.devices.disks.pages_writeRegister _ v b.memory).1
          · exact Memory.SamePages.refl b.memory
      case ram =>
          intro quiet
          split
          · rfl
          · next register found =>
              obtain ⟨decodes, register_eq⟩ := (PortTable.resolve_eq_some made).1 found
              have other : register ≠ 7 := fun seven => quiet ⟨decodes, register_eq ▸ seven⟩
              rw [b.devices.disks.memory_writeRegister v b.memory other]
          · rfl
      case bank =>
          intro quiet
          split
          · next found => exact absurd ((PortTable.resolve_eq_some made).1 found).1 quiet
          · exact (b.devices.disks.pages_writeRegister _ v b.memory).2
          · rfl

/-! ### Accesses in either order -/

/-- Two devices that share nothing: any two but the disk controller and the bank port, both of which
have to do with the memory. -/
def Device.Apart (device other : Device) : Prop :=
  device ≠ other ∧ ¬(device = .disk ∧ other = .bankSelect) ∧ ¬(device = .bankSelect ∧ other = .disk)

instance (device other : Device) : Decidable (device.Apart other) :=
  inferInstanceAs (Decidable (_ ∧ _))

/-- Two accesses in either order give the same answers and leave the same board. -/
structure Board.Commute (b : Board) (a a' : PortAccess) : Prop where
  answer : ((b.access a').2.access a).1 = (b.access a).1
  answer' : ((b.access a).2.access a').1 = (b.access a').1
  board : ((b.access a').2.access a).2 = ((b.access a).2.access a').2

/-- **Work on different parts** can be done in either order. The parts are separate fields of the board,
save that the disk controller's is the whole memory. -/
theorem PortWork.on_comm (b : Board) (w w' : PortWork)
    (apart : ∀ device other, w.device = some device → w'.device = some other → device.Apart other) :
    (w.on (w'.on b).2).1 = (w.on b).1 ∧ (w'.on (w.on b).2).1 = (w'.on b).1 ∧
      (w.on (w'.on b).2).2 = (w'.on (w.on b).2).2 := by
  cases w <;> cases w' <;>
    first
    | exact ⟨rfl, rfl, rfl⟩
    | exact absurd (apart _ _ rfl rfl) (by decide)

/-- Accesses whose devices share nothing can be made in either order. -/
theorem Board.commute_of_apart (made : PortTable.ofLayout layout = .ok b.devices.ports)
    {a a' : PortAccess}
    (apart : ∀ device other, layout.Decodes device a.port → layout.Decodes other a'.port →
      device.Apart other) : b.Commute a a' := by
  -- The table is the same after either access, so each does the same work first and second.
  have later (c c' : PortAccess) : (b.access c).2.access c' =
      (c'.work (b.devices.ports.resolve c'.port)).on
        ((c.work (b.devices.ports.resolve c.port)).on b).2 := by
    rw [access_eq (b.access c).2 c', (confined_access made c).ports, access_eq b c]
  obtain ⟨answer, answer', board⟩ := PortWork.on_comm b (a.work (b.devices.ports.resolve a.port))
    (a'.work (b.devices.ports.resolve a'.port)) fun device other here there =>
      apart device other (PortAccess.decodes_of_work made here).2
        (PortAccess.decodes_of_work made there).2
  constructor
  case answer => rwa [later, access_eq b a]
  case answer' => rwa [later, access_eq b a']
  case board => rwa [later, later]

end

/-- **Devices do not interfere.** In whatever layout, and whatever state memory and devices are in, a
read or write of a port is confined to the device that decodes it; and two of them whose devices share
nothing have the same answers and leave the same board in either order. -/
theorem Board.no_interference (layout : PortLayout) (b : Board)
    (made : PortTable.ofLayout layout = .ok b.devices.ports) :
    (∀ a : PortAccess, a.Confined layout b (b.access a).2) ∧
      ∀ a a' : PortAccess,
        (∀ device other, layout.Decodes device a.port → layout.Decodes other a'.port →
          device.Apart other) → b.Commute a a' :=
  ⟨confined_access made, fun _ _ => commute_of_apart made⟩

/-- A board without disks, with a byte of input waiting. -/
def Board.keyPressed (ports : PortTable) : Board where
  memory := Memory.new 0
  devices :=
    { ports
      uart := { input := [0x0A] }
      disks := { sectorSize := 512, sectorsPerSlice := 16384, autoSlices := false } }

/-- With the ports where they usually are, a disk command and taking the byte of input have an effect,
and neither interferes with the other. -/
theorem Board.keyPressed_no_interference :
    ∃ b : Board, PortTable.ofLayout {} = .ok b.devices.ports ∧
      (b.access (.output 0x97 0x01)).2.devices.disks.status = 1 ∧
      (b.access (.input 0x68)).1 = some 0x0D ∧
      (PortAccess.output 0x97 0x01).Confined {} b (b.access (.output 0x97 0x01)).2 ∧
      b.Commute (.output 0x97 0x01) (.input 0x68) := by
  have accepted : Config.validate {} = .ok () := by rfl
  obtain ⟨ports, made⟩ := (Config.valid_of_validate accepted).ports
  have disk : ports.resolve 0x97 = some (.disk, 7) :=
    (PortTable.resolve_eq_some made).2 (by decide)
  have uart : ports.resolve 0x68 = some (.uart, 0) :=
    (PortTable.resolve_eq_some made).2 (by decide)
  refine ⟨keyPressed ports, made, ?_, ?_, (no_interference {} (keyPressed ports) made).1 _,
    (no_interference {} (keyPressed ports) made).2 _ _ fun device other => ?_⟩
  · rw [access_eq]
    show (PortWork.on _ (PortAccess.work _ (ports.resolve 0x97))).2.devices.disks.status = 1
    rw [disk]
    rfl
  · rw [access_eq]
    show (PortWork.on _ (PortAccess.work _ (ports.resolve 0x68))).1 = some 0x0D
    rw [uart]
    show some (Uart.readRegister { input := [0x0A] } 0).1 = some 0x0D
    decide
  · cases device <;> cases other <;> decide

end BankedZ80
