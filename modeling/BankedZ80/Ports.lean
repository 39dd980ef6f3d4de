import BankedZ80.Error

/-!
# The port table

Each device decodes a run of consecutive ports from its base on. `PortTable.ofLayout` fills a table
of all 256 ports device by device, and refuses a layout in which a device passes the last port or
meets a port that is taken; `PortTable.resolve` looks a port up.
-/

namespace BankedZ80

/-- Devices attached to the ports. -/
inductive Device where
  | uart
  | bankSelect
  | disk
  | nvram
  | hostFile
  | hbiosTrap
deriving DecidableEq, Repr

/-- Number of consecutive ports that a device decodes. -/
def Device.width : Device → Nat
  | uart => 8
  | bankSelect => 1
  | disk => 10
  | nvram => 2
  | hostFile => 4
  | hbiosTrap => 1

/-- All devices, in the order in which they take their ports. -/
def Device.all : List Device := [uart, bankSelect, disk, nvram, hostFile, hbiosTrap]

/-- First port of each device. -/
structure PortLayout where
  uart : UInt8 := 0x68
  bankSelect : UInt8 := 0x78
  disk : UInt8 := 0x90
  nvram : UInt8 := 0xA0
  hostFile : UInt8 := 0xB0
  hbiosTrap : UInt8 := 0xEF
deriving DecidableEq, Repr

/-- First port of a device. -/
def PortLayout.base (l : PortLayout) : Device → UInt8
  | .uart => l.uart
  | .bankSelect => l.bankSelect
  | .disk => l.disk
  | .nvram => l.nvram
  | .hostFile => l.hostFile
  | .hbiosTrap => l.hbiosTrap

/-- For every port, the device that decodes it and the register it is there. -/
structure PortTable where
  slots : Vector (Option (Device × UInt8)) 256
deriving DecidableEq

namespace PortTable

/-- No port decoded. -/
def empty : PortTable := ⟨Vector.replicate 256 none⟩

/-- The device and register behind a port. -/
def resolve (t : PortTable) (port : UInt8) : Option (Device × UInt8) :=
  t.slots.get ⟨port.toNat, port.toNat_lt⟩

/-- Give one port to a register of a device. -/
def claim (device : Device) (base : UInt8) (t : PortTable) (register : Nat) :
    Except MachineError PortTable :=
  let port := base.toNat + register
  if h : port < 256 then
    match t.slots[port] with
    | some _ => .error (.portConflict port.toUInt8)
    | none => .ok ⟨t.slots.set port (some (device, register.toUInt8))⟩
  else .error (.portConflict base)

/-- Give a device its ports, in ascending order. -/
def register (layout : PortLayout) (t : PortTable) (device : Device) :
    Except MachineError PortTable :=
  (List.range device.width).foldlM (claim device (layout.base device)) t

/-- The table of a layout, or the first conflict met. -/
def ofLayout (layout : PortLayout) : Except MachineError PortTable :=
  Device.all.foldlM (register layout) empty

/-- The decoded ports in ascending order, each with its device and register. -/
def entries (t : PortTable) : List (UInt8 × Device × UInt8) :=
  (List.range 256).filterMap fun p =>
    (t.resolve p.toUInt8).map fun (device, register) => (p.toUInt8, device, register)

end PortTable

end BankedZ80
