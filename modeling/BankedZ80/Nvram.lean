import BankedZ80.Bytes
import BankedZ80.Error
import BankedZ80.Nvram.BootOption

/-!
# Boot record

Five bytes that survive a power cycle: a signature, the selector and flags of a boot option, and a
checksum over the first four. The guest sees them through an address latch and a data register; the
host works with the option's text.

Every write, by guest or host, seals the record anew, and a one-shot flag tells the host that
something changed.
-/

namespace BankedZ80

/-- The record, its change flag and the guest's address latch. -/
@[ext] structure Nvram where
  bytes : Vector UInt8 5 := Vector.replicate 5 0
  changed : Bool := false
  latch : UInt8 := 0
deriving DecidableEq

namespace Nvram

/-- First byte of an initialised record. -/
def signature : UInt8 := 0x57

/-- Exclusive or of the first four bytes. -/
def checksum (bytes : Vector UInt8 5) : UInt8 := bytes[0] ^^^ bytes[1] ^^^ bytes[2] ^^^ bytes[3]

/-- Is the signature present? -/
def isInitialized (n : Nvram) : Bool := n.bytes[0] == signature

/-- Are signature and checksum right? -/
def isValid (n : Nvram) : Bool := n.isInitialized && checksum n.bytes == n.bytes[4]

/-- The boot option of a valid record. -/
def bootOption (n : Nvram) : Option BootOption :=
  if n.isValid then BootOption.decode? n.bytes[1] n.bytes[2] else none

/-- The text of the boot option, empty when there is none. -/
def setting (n : Nvram) : String :=
  match n.bootOption with
  | some option => option.text
  | none => ""

/-- Put the checksum in place and note the change. -/
def reseal (n : Nvram) : Nvram := { n with bytes := n.bytes.set 4 (checksum n.bytes), changed := true }

/-- Store a boot option. -/
def setBootOption (n : Nvram) (option : BootOption) : Nvram :=
  let (low, high, flags) := option.encode
  { n with bytes := #v[signature, low, high, flags, n.bytes[4]] }.reseal

/-- Store the boot option that a text names; any other text is refused. -/
def setSetting (n : Nvram) (s : String) : Except MachineError Nvram :=
  match BootOption.parse? s with
  | some option => .ok (n.setBootOption option)
  | none => .error (.invalidBootOption s)

/-- Return to an uninitialised record. -/
def clear (n : Nvram) : Nvram := { n with bytes := Vector.replicate 5 0, changed := true }

/-- The change flag, and the device with the flag lowered. -/
def takeChange (n : Nvram) : Bool × Nvram := (n.changed, { n with changed := false })

/-- Restore a saved record as it is, without noting a change. -/
def loadBytes (n : Nvram) (saved : List UInt8) : Except MachineError Nvram :=
  if h : saved.toArray.size = 5 then .ok { n with bytes := ⟨saved.toArray, h⟩ }
  else .error (.invalidBootOption s!"{saved.length} byte record")

/-- Guest read: register 0 is the latch, any other the byte it points at. -/
def readRegister (n : Nvram) (register : UInt8) : UInt8 :=
  if register = 0 then n.latch else (n.bytes[n.latch.toNat]?).getD 0xFF

/-- Guest write: register 0 is the latch, any other the byte it points at, except the checksum. -/
def writeRegister (n : Nvram) (register v : UInt8) : Nvram :=
  if register = 0 then { n with latch := v }
  else if h : n.latch.toNat < 4 then { n with bytes := n.bytes.set n.latch.toNat v }.reseal
  else n

end Nvram

end BankedZ80
