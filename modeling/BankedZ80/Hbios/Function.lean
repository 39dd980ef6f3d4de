/-!
# Firmware functions and results

The functions that the guest can ask of the firmware, by their number in register B, and the result
codes that come back in register A: zero for success, a negative number for a failure.
-/

namespace BankedZ80

/-- A firmware function. -/
inductive HbiosFunction where
  /-- Take a console character into E. -/
  | charInput
  /-- Transmit the character in E. -/
  | charOutput
  /-- Number of waiting console characters. -/
  | charInputStatus
  /-- Is the console ready to transmit? -/
  | charOutputStatus
  /-- Is there a disk in the unit? -/
  | diskStatus
  /-- Move to the block address in DE and HL. -/
  | diskSeek
  /-- Read E sectors to HL. -/
  | diskRead
  /-- Write E sectors from HL. -/
  | diskWrite
  /-- Kind of disk. -/
  | diskMedia
  /-- Number and size of sectors. -/
  | diskCapacity
  /-- The clock, to the six bytes at HL. -/
  | clockRead
  /-- Restart the machine. -/
  | systemReset
  /-- Version of the firmware. -/
  | systemVersion
  /-- Select the bank in C. -/
  | systemSetBank
  /-- The selected bank. -/
  | systemGetBank
  /-- Numbers of consoles, disks and drives. -/
  | systemGet
deriving DecidableEq, Repr

namespace HbiosFunction

/-- The number of a function. -/
def code : HbiosFunction → UInt8
  | charInput => 0x00
  | charOutput => 0x01
  | charInputStatus => 0x02
  | charOutputStatus => 0x03
  | diskStatus => 0x10
  | diskSeek => 0x12
  | diskRead => 0x13
  | diskWrite => 0x14
  | diskMedia => 0x18
  | diskCapacity => 0x1A
  | clockRead => 0x20
  | systemReset => 0xF0
  | systemVersion => 0xF1
  | systemSetBank => 0xF2
  | systemGetBank => 0xF3
  | systemGet => 0xF8

/-- All functions. -/
def all : List HbiosFunction :=
  [charInput, charOutput, charInputStatus, charOutputStatus, diskStatus, diskSeek, diskRead,
    diskWrite, diskMedia, diskCapacity, clockRead, systemReset, systemVersion, systemSetBank,
    systemGetBank, systemGet]

/-- The function with a number. -/
def ofCode? (n : UInt8) : Option HbiosFunction := all.find? fun f => f.code = n

@[simp] theorem ofCode?_code (f : HbiosFunction) : ofCode? f.code = some f := by
  cases f <;> decide

end HbiosFunction

/-- How a firmware call went. -/
inductive HbiosResult where
  | success
  | noFunction
  | noUnit
  | outOfRange
  | noMedia
  | failure
deriving DecidableEq, Repr

/-- The code of a result: 0, -3, -4, -6, -7 and -9 in eight bits. -/
def HbiosResult.code : HbiosResult → UInt8
  | success => 0x00
  | noFunction => 0xFD
  | noUnit => 0xFC
  | outOfRange => 0xFA
  | noMedia => 0xF9
  | failure => 0xF7

end BankedZ80
