import BankedZ80.Cpu.BusProgram
import BankedZ80.Disk.Controller
import BankedZ80.HostFile
import BankedZ80.Memory
import BankedZ80.Nvram
import BankedZ80.Ports
import BankedZ80.Uart

/-!
# Devices and the bus

`Devices` holds every device and the port table. A port access goes to the one device that decodes
the low byte of the port; a write to the trap port reaches no device and is reported instead, so that
the firmware can be called when the instruction is over.

`Board` is the memory together with the devices, and `Board.bus` answers the processor's accesses.
-/

namespace BankedZ80

/-- All devices and the ports they answer on. -/
structure Devices where
  ports : PortTable
  uart : Uart := {}
  disks : DiskController
  nvram : Nvram := {}
  hostFile : HostFile := {}
deriving DecidableEq

namespace Devices

/-- The value read where no device answers. -/
def idleByte : UInt8 := 0xFF

/-- Read a port. -/
def input (d : Devices) (m : Memory) (port : UInt8) : UInt8 × Devices :=
  match d.ports.resolve port with
  | some (.uart, register) =>
    let (v, uart) := d.uart.readRegister register
    (v, { d with uart })
  | some (.bankSelect, _) => (m.bank, d)
  | some (.disk, register) => (d.disks.readRegister register, d)
  | some (.nvram, register) => (d.nvram.readRegister register, d)
  | some (.hostFile, register) =>
    let (v, hostFile) := d.hostFile.readRegister register
    (v, { d with hostFile })
  | some (.hbiosTrap, _) => (idleByte, d)
  | none => (idleByte, d)

/-- Write a port; the last part of the result is the value written if it was the trap port. -/
def output (d : Devices) (m : Memory) (port v : UInt8) : Memory × Devices × Option UInt8 :=
  match d.ports.resolve port with
  | some (.uart, register) => (m, { d with uart := d.uart.writeRegister register v }, none)
  | some (.bankSelect, _) => (m.selectBank v, d, none)
  | some (.disk, register) =>
    let (disks, m) := d.disks.writeRegister register v m
    (m, { d with disks }, none)
  | some (.nvram, register) => (m, { d with nvram := d.nvram.writeRegister register v }, none)
  | some (.hostFile, register) =>
    (m, { d with hostFile := d.hostFile.writeRegister register v }, none)
  | some (.hbiosTrap, _) => (m, d, some v)
  | none => (m, d, none)

end Devices

/-- Memory and devices: all that the processor's bus leads to. -/
structure Board where
  memory : Memory
  devices : Devices
deriving DecidableEq

/-- The board during an instruction, with the value written to the trap port by it. -/
structure BoardAccess where
  board : Board
  trap : Option UInt8 := none
deriving DecidableEq

/-- How the board answers the processor. Only the low byte of a port number is decoded. -/
def Board.bus : BusProgram.Bus BoardAccess where
  read address s := s.board.memory.read address
  write address v s :=
    { s with board := { s.board with memory := s.board.memory.write address v } }
  input port s :=
    let (v, devices) := s.board.devices.input s.board.memory (lowByte port)
    (v, { s with board := { s.board with devices } })
  output port v s :=
    let (memory, devices, trap) := s.board.devices.output s.board.memory (lowByte port) v
    { board := { memory, devices }, trap := trap.or s.trap }

namespace Board

variable (s : BoardAccess)

theorem bus_input (p : UInt16) :
    bus.input p s =
      ((s.board.devices.input s.board.memory (lowByte p)).1,
        { s with
          board :=
            { s.board with
              devices := (s.board.devices.input s.board.memory (lowByte p)).2 } }) := rfl

theorem bus_output (p : UInt16) (v : UInt8) :
    bus.output p v s =
      { board :=
          { memory := (s.board.devices.output s.board.memory (lowByte p) v).1
            devices := (s.board.devices.output s.board.memory (lowByte p) v).2.1 }
        trap := (s.board.devices.output s.board.memory (lowByte p) v).2.2.or s.trap } := rfl

end Board

end BankedZ80
