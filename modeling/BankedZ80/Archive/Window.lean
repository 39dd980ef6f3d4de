import BankedZ80.Bytes

/-!
# Copies from what was written before

Most compressed formats shorten text by referring back to bytes that were written already.
`Window.copy` appends a copy of such bytes; a copy that is longer than its distance reaches into
itself and so repeats them.
-/

namespace BankedZ80.Window

/-- The byte written that far back; zeros come before the first. -/
def byteBack (output : ByteArray) (distance : Nat) : UInt8 :=
  if distance ≤ output.size then Bytes.get output (output.size - distance) else 0

/-- Append a copy of bytes written before, one by one. -/
def copy (output : ByteArray) (distance : Nat) : Nat → ByteArray
  | 0 => output
  | n + 1 => copy (output.push (byteBack output distance)) distance n

end BankedZ80.Window
