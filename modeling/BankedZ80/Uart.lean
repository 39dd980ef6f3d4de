import BankedZ80.Bytes
import BankedZ80.Word

/-!
# Serial console

A 16550-style serial port. The host queues keystrokes for the guest and collects what the guest
transmits; the register file in between mixes with the firmware's character calls, which use the
same two queues.

* **Input** is a first-in first-out queue; a line feed may be turned into a carriage return when it
  is taken.
* **Output** collects transmitted bytes, bit 7 cleared if so configured, until it is drained.
-/

namespace BankedZ80

/-- The serial port and its two queues. -/
@[ext] structure Uart where
  lfToCr : Bool := true
  stripHighBit : Bool := true
  input : List UInt8 := []
  output : ByteArray := .empty
  interruptEnable : UInt8 := 0
  fifoControl : UInt8 := 0
  lineControl : UInt8 := 0x03
  modemControl : UInt8 := 0
  scratch : UInt8 := 0
  divisor : UInt16 := 1
deriving DecidableEq

namespace Uart

/-! ### Register contents -/

/-- Bit of the line control register that opens the divisor. -/
def divisorAccess : UInt8 := 0x80

/-- Transmitter empty and idle. -/
def transmitterReady : UInt8 := 0x60

/-- A received byte is waiting. -/
def dataReady : UInt8 := 0x01

/-- Clear to send, data set ready and carrier detect. -/
def modemLinesUp : UInt8 := 0xB0

/-! ### Queues -/

/-- Queue one byte of keyboard input. -/
def queueInput (u : Uart) (v : UInt8) : Uart := { u with input := u.input ++ [v] }

/-- The ASCII characters of a text, as bytes. -/
def asciiBytes (s : String) : List UInt8 :=
  (s.toList.filter fun c => c.toNat < 128).map fun c => c.toNat.toUInt8

/-- Queue the ASCII characters of a text and skip all others. -/
def queueText (u : Uart) (s : String) : Uart := { u with input := u.input ++ asciiBytes s }

/-- Number of bytes waiting for the guest. -/
def pendingInput (u : Uart) : Nat := u.input.length

/-- Is a byte waiting for the guest? -/
def hasInput (u : Uart) : Bool := !u.input.isEmpty

/-- An input byte as the guest sees it. -/
def seenByGuest (u : Uart) (v : UInt8) : UInt8 := if u.lfToCr && v == 0x0A then 0x0D else v

/-- The next input byte as the guest sees it, and the port without it. -/
def takeInput (u : Uart) : Option (UInt8 × Uart) :=
  match u.input with
  | [] => none
  | v :: rest => some (u.seenByGuest v, { u with input := rest })

/-- A transmitted byte as the host sees it. -/
def seenByHost (u : Uart) (v : UInt8) : UInt8 := if u.stripHighBit then v &&& 0x7F else v

/-- Record a transmitted byte. -/
def putOutput (u : Uart) (v : UInt8) : Uart :=
  let v := u.seenByHost v
  { u with output := u.output.push v }

/-- Has the guest transmitted anything since the last drain? -/
def hasOutput (u : Uart) : Bool := u.output.size != 0

/-- Everything transmitted since the last drain, and the port without it. -/
def drainOutput (u : Uart) : ByteArray × Uart := (u.output, { u with output := .empty })

/-- As `drainOutput`, for a receiver that is told nothing when there is nothing. -/
def flushOutput (u : Uart) : Option ByteArray × Uart :=
  if u.hasOutput then (some u.output, { u with output := .empty }) else (none, u)

theorem output_of_not_hasOutput {u : Uart} (h : ¬u.hasOutput) : u.output = .empty := by
  rw [← ByteArray.size_eq_zero_iff]
  simpa [hasOutput] using h

/-- A flush hands over all output, and nothing is told when that is none. -/
theorem getD_flushOutput (u : Uart) : u.flushOutput.1.getD .empty = u.output := by
  unfold flushOutput
  split
  · rfl
  · next none => exact (output_of_not_hasOutput none).symm

/-- A flush empties the output whether there is any or not. -/
theorem flushOutput_snd (u : Uart) : u.flushOutput.2 = { u with output := .empty } := by
  unfold flushOutput
  split
  · rfl
  · next none => rw [← output_of_not_hasOutput none]

/-- Empty queues and registers as at power-on; the settings stay. -/
def reset (u : Uart) : Uart := { lfToCr := u.lfToCr, stripHighBit := u.stripHighBit }

/-! ### Registers -/

/-- Are registers 0 and 1 the divisor? -/
def divisorOpen (u : Uart) : Bool := u.lineControl &&& divisorAccess != 0

/-- The line status register. -/
def lineStatus (u : Uart) : UInt8 := transmitterReady ||| bitIf u.hasInput dataReady

/-- Guest read of a register; reading register 0 takes an input byte. -/
def readRegister (u : Uart) (register : UInt8) : UInt8 × Uart :=
  match register.toNat with
  | 0 =>
    if u.divisorOpen then (lowByte u.divisor, u)
    else match u.takeInput with
      | some (v, u) => (v, u)
      | none => (0, u)
  | 1 => (if u.divisorOpen then highByte u.divisor else u.interruptEnable, u)
  | 2 => (if u.fifoControl &&& 1 != 0 then 0xC1 else 0x01, u)
  | 3 => (u.lineControl, u)
  | 4 => (u.modemControl, u)
  | 5 => (u.lineStatus, u)
  | 6 => (modemLinesUp, u)
  | 7 => (u.scratch, u)
  | _ => (0xFF, u)

/-- Guest write of a register; writing register 0 transmits, and bit 1 of register 2 drops the
waiting input. -/
def writeRegister (u : Uart) (register v : UInt8) : Uart :=
  match register.toNat with
  | 0 =>
    if u.divisorOpen then { u with divisor := word (highByte u.divisor) v } else u.putOutput v
  | 1 =>
    if u.divisorOpen then { u with divisor := word v (lowByte u.divisor) }
    else { u with interruptEnable := v &&& 0x0F }
  | 2 => { u with fifoControl := v, input := if v &&& 2 != 0 then [] else u.input }
  | 3 => { u with lineControl := v }
  | 4 => { u with modemControl := v &&& 0x1F }
  | 7 => { u with scratch := v }
  | _ => u

end Uart

end BankedZ80
