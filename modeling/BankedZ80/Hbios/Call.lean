import BankedZ80.Cpu.Processor
import BankedZ80.Hbios.Calendar
import BankedZ80.Hbios.Function

/-!
# Firmware calls

The guest calls the firmware by loading B with a function number and writing to the trap port; when
that instruction is over, `Hbios.call` serves the call on the registers, the memory and the devices.

* A call on an unknown function, or for a unit that is not there, changes only the result in A (and,
  where a function counts something in E, that count).
* A character input that finds nothing moves PC back onto the trapping instruction, so that it is
  executed again, and nothing else.
-/

namespace BankedZ80

/-- What remains to be done after a call. -/
inductive HbiosAction where
  | proceed
  /-- The guest waits for console input. -/
  | waitForInput
  /-- The guest asked for a restart, clearing memory or not. -/
  | restart (cold : Bool)
deriving DecidableEq, Repr

/-- The registers and the board that a call works on. -/
structure HbiosState where
  core : Core
  board : Board
deriving DecidableEq

namespace Hbios

/-- Length of the trapping instruction. -/
def trapLength : UInt16 := 2

/-- Firmware version 3.5.1.0. -/
def version : UInt16 := 0x3510

/-- Platform number. -/
def platform : UInt8 := 0x11

/-- Media number of a hard disk. -/
def hardDisk : UInt8 := 4

/-- Does the unit number name the console? -/
def isConsole (unit : UInt8) : Bool := unit == 0x00 || unit == 0x80

/-- The result that reports an error. -/
def resultOf : MachineError → HbiosResult
  | .invalidUnit _ => .noUnit
  | .noMedia _ => .noMedia
  | .sectorOutOfRange _ _ => .outOfRange
  | _ => .failure

/-- Put a result into A. -/
def setResult (c : Core) (r : HbiosResult) : Core := { c with a := r.code }

/-- End a call with a result. -/
def finish (s : HbiosState) (r : HbiosResult) : HbiosState × HbiosAction :=
  ({ s with core := setResult s.core r }, .proceed)

/-- Change the disks of the board. -/
def withDisks (s : HbiosState) (disks : DiskController) : HbiosState :=
  { s with board := { s.board with devices := { s.board.devices with disks } } }

/-- Change the serial port of the board. -/
def withUart (s : HbiosState) (uart : Uart) : HbiosState :=
  { s with board := { s.board with devices := { s.board.devices with uart } } }

/-! ### Disk transfers -/

/-- What a transfer changes: the disks, the memory and the address that comes next. -/
structure Transfer where
  disks : DiskController
  memory : Memory
  address : UInt16
  /-- Sectors moved so far. -/
  moved : UInt8
deriving DecidableEq

/-- Check that the sector at the unit's seek position can be moved. -/
def Transfer.check (t : Transfer) (write : Bool) (n : Nat) : Except MachineError Unit := do
  let d ← t.disks.unit n
  if write then t.disks.checkWrite n d.seek t.disks.sectorSize else t.disks.checkRead n d.seek

/-- Move the sector at the unit's seek position, which passed the check, and go on to the next. -/
def Transfer.move (t : Transfer) (write : Bool) (n : Nat) : Transfer :=
  let lba := t.disks.seek n
  let memory := if write then t.memory else t.disks.copyOut n lba t.memory t.address
  let disks := if write then t.disks.copyIn n lba memory t.address else t.disks
  { disks := disks.setSeek n (lba + 1)
    memory
    address := t.address + disks.sectorSize.toUInt16
    moved := t.moved + 1 }

/-- Move up to `count` sectors and stop at the first that cannot be moved. -/
def Transfer.moveMany (t : Transfer) (write : Bool) (n : Nat) : Nat → HbiosResult × Transfer
  | 0 => (.success, t)
  | count + 1 =>
    match t.check write n with
    | .ok () => (t.move write n).moveMany write n count
    | .error e => (resultOf e, t)

/-- Move E sectors; E is left with the number moved. -/
def transfer (s : HbiosState) (write : Bool) : HbiosState × HbiosAction :=
  let start : Transfer :=
    { disks := s.board.devices.disks, memory := s.board.memory, address := s.core.hl, moved := 0 }
  let (r, t) := start.moveMany write s.core.c.toNat s.core.e.toNat
  finish
    { core := { s.core with e := t.moved }
      board := { memory := t.memory, devices := { s.board.devices with disks := t.disks } } } r

/-! ### Calls -/

/-- A console function. -/
def consoleCall (s : HbiosState) (f : HbiosFunction) : HbiosState × HbiosAction :=
  let uart := s.board.devices.uart
  if !isConsole s.core.c then finish s .noUnit
  else match f with
    | .charInput =>
      match uart.takeInput with
      | some (v, uart) => finish (withUart { s with core := { s.core with e := v } } uart) .success
      | none => ({ s with core := { s.core with pc := s.core.pc - trapLength } }, .waitForInput)
    | .charOutput => finish (withUart s (uart.putOutput s.core.e)) .success
    | .charInputStatus =>
      ({ s with core := { s.core with a := (min uart.pendingInput 0xFF).toUInt8 } }, .proceed)
    | _ => ({ s with core := { s.core with a := 1 } }, .proceed)

/-- A disk function other than a transfer, on the unit in C or for the error that it is not there. -/
def diskCall (s : HbiosState) (f : HbiosFunction) : HbiosState × HbiosAction :=
  let disks := s.board.devices.disks
  let n := s.core.c.toNat
  match f, disks.unit n with
  | .diskSeek, .ok _ =>
    let lba := (s.core.de.toNat * 65536 + s.core.hl.toNat) % 2 ^ 31
    finish (withDisks s (disks.setSeek n lba.toUInt32)) .success
  | .diskMedia, .ok _ => finish { s with core := { s.core with e := hardDisk } } .success
  | .diskMedia, .error e => finish { s with core := { s.core with e := 0 } } (resultOf e)
  | .diskCapacity, .ok d =>
    let sectors := d.totalSectors.toNat
    let core := (s.core.setDE (sectors / 65536).toUInt16).setHL sectors.toUInt16
    finish { s with core := core.setBC d.sectorSize.toUInt16 } .success
  | _, .ok _ => finish s .success
  | _, .error e => finish s (resultOf e)

/-- The number that a system query asks for. -/
def systemCount? (disks : DiskController) (query : UInt8) : Option Nat :=
  match query.toNat with
  | 0x00 => some 1
  | 0x10 => some disks.loadedCount
  | 0x20 => some disks.driveMap.length
  | _ => none

/-- A system function. -/
def systemCall (s : HbiosState) (f : HbiosFunction) : HbiosState × HbiosAction :=
  match f with
  | .systemReset =>
    if s.core.c = 1 then (s, .restart false)
    else if s.core.c = 2 then (s, .restart true)
    else finish s .noFunction
  | .systemVersion => finish { s with core := { s.core.setDE version with l := platform } } .success
  | .systemSetBank =>
    let memory := s.board.memory
    finish
      { core := { s.core with c := memory.bank }
        board := { s.board with memory := memory.selectBank s.core.c } } .success
  | .systemGetBank =>
    finish { s with core := { s.core with c := s.board.memory.bank } } .success
  | _ =>
    match systemCount? s.board.devices.disks s.core.c with
    | some n => finish { s with core := { s.core with e := n.toUInt8 } } .success
    | none => finish s .noFunction

/-- Serve the call that the registers describe, at a time in seconds since 1970. -/
def call (now : UInt64) (s : HbiosState) : HbiosState × HbiosAction :=
  match HbiosFunction.ofCode? s.core.b with
  | none => finish s .noFunction
  | some f =>
    match f with
    | .charInput | .charOutput | .charInputStatus | .charOutputStatus => consoleCall s f
    | .diskRead => transfer s false
    | .diskWrite => transfer s true
    | .diskStatus | .diskSeek | .diskMedia | .diskCapacity => diskCall s f
    | .clockRead =>
      let buffer := (DateTime.ofUnix now).toBuffer
      let memory := s.board.memory.loadAt s.core.hl buffer
      finish { s with board := { s.board with memory } } .success
    | .systemReset | .systemVersion | .systemSetBank | .systemGetBank | .systemGet =>
      systemCall s f

end Hbios

end BankedZ80
