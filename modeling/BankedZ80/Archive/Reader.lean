import BankedZ80.Bytes

/-!
# Reading bytes in order

Compressed data is read from its first byte to its last. A `Reading` gives a value and goes on behind
what it read; it fails where the data ends too early or is not sound.
-/

namespace BankedZ80.Archive

/-- Data, and how much of it was read. -/
structure Reader where
  data : ByteArray
  position : Nat := 0

/-- Reading a value. -/
abbrev Reading := StateT Reader Option

namespace Reading

/-- Go on only if a rule of the format is kept. -/
def require (condition : Bool) : Reading Unit := if condition then pure () else failure

/-- How much was read. -/
def position : Reading Nat := return (← get).position

/-- Has everything been read? -/
def atEnd : Reading Bool := return (← get).data.size ≤ (← get).position

/-- Read that many bytes. -/
def take (n : Nat) : Reading ByteArray := do
  let r ← get
  require (r.position + n ≤ r.data.size)
  set { r with position := r.position + n }
  return r.data.extract r.position (r.position + n)

/-- Read all bytes that are left. -/
def takeRest : Reading ByteArray := do
  let r ← get
  take (r.data.size - r.position)

/-- Read the bytes again that were read from a position on. -/
def since (start : Nat) : Reading ByteArray := return (← get).data.extract start (← get).position

/-- Read a byte as a number. -/
def byte : Reading Nat := return (Bytes.get (← take 1) 0).toNat

/-- Read a number of that many bytes, low byte first. -/
def number (n : Nat) : Reading Nat := return Bytes.number (← take n) 0 n

/-- What a reading gives for some data, from its first byte on. -/
def of? {α : Type} (reading : Reading α) (data : ByteArray) : Option α :=
  (reading.run { data }).map (·.1)

end Reading

end BankedZ80.Archive
