import BankedZ80.Proofs.Batch.Unseen

/-!
# Output that is already there

What the console has transmitted before is never looked at by the guest: a board with some output put
in front of its own is indistinguishable from it (`Board.prependOutput_indistinguishable`), and stays
the board with that output in front.
-/

namespace BankedZ80

variable (pre : ByteArray)

/-! ### The serial port -/

namespace Uart

/-- The port with some output put in front of its own. -/
def prependOutput (u : Uart) : Uart := { u with output := pre ++ u.output }

variable (u : Uart)

theorem putOutput_prependOutput (v : UInt8) :
    (u.prependOutput pre).putOutput v = (u.putOutput v).prependOutput pre := by
  have push (out : ByteArray) (w : UInt8) : (pre ++ out).push w = pre ++ out.push w := by
    apply ByteArray.ext
    rw [ByteArray.data_push, ByteArray.data_append, ByteArray.data_append, ByteArray.data_push,
      Array.append_push]
  show { u with output := (pre ++ u.output).push (u.seenByHost v) } =
    { u with output := pre ++ u.output.push (u.seenByHost v) }
  rw [push]

theorem takeInput_prependOutput :
    (u.prependOutput pre).takeInput = u.takeInput.map fun r => (r.1, r.2.prependOutput pre) := by
  unfold takeInput
  rw [show (u.prependOutput pre).input = u.input from rfl]
  cases u.input <;> rfl

theorem readRegister_prependOutput (register : UInt8) :
    (u.prependOutput pre).readRegister register =
      ((u.readRegister register).1, (u.readRegister register).2.prependOutput pre) := by
  unfold readRegister
  split
  · rw [show (u.prependOutput pre).divisorOpen = u.divisorOpen from rfl, takeInput_prependOutput]
    split
    · rfl
    · cases u.takeInput <;> rfl
  all_goals rfl

theorem writeRegister_prependOutput (register v : UInt8) :
    (u.prependOutput pre).writeRegister register v =
      (u.writeRegister register v).prependOutput pre := by
  unfold writeRegister
  rw [show (u.prependOutput pre).divisorOpen = u.divisorOpen from rfl]
  split
  · split
    · rfl
    · exact putOutput_prependOutput pre u v
  · split <;> rfl
  all_goals rfl

/-- The guest does not look at what was transmitted before. -/
theorem prependOutput_unseen : Uart.Unseen (prependOutput pre) where
  readRegister := readRegister_prependOutput pre
  writeRegister := writeRegister_prependOutput pre
  takeInput := takeInput_prependOutput pre
  putOutput := putOutput_prependOutput pre
  pendingInput _ := rfl

end Uart

/-! ### The board -/

/-- The devices with some output put in front of that of the serial port. -/
def Devices.prependOutput (d : Devices) : Devices := { d with uart := d.uart.prependOutput pre }

/-- The board with some output put in front of that of the serial port. -/
def Board.prependOutput (b : Board) : Board := { b with devices := b.devices.prependOutput pre }

/-- The guest cannot tell whether some output was transmitted before. -/
theorem Board.prependOutput_indistinguishable :
    Board.Indistinguishable fun b b' => b' = b.prependOutput pre :=
  DeviceChange.Unseen.indistinguishable (f := { uart := Uart.prependOutput pre })
    { uart := Uart.prependOutput_unseen pre
      disks := .unchanged
      nvram := .unchanged }

end BankedZ80
