import BankedZ80.Archive.Bzip2.Randomized
import BankedZ80.Archive.Huffman
import BankedZ80.Bytes

/-!
# Bzip2

Decompression of the bzip2 format. `Bzip2.decompress` gives the bytes of one stream that is sound to
its end; what follows it does not count.

A stream is a sequence of blocks. Each was made in five steps, which are undone from the last to the
first.

* **Runs.** After four equal bytes a count says how many more of them there were (`expandRuns`).
* **Sorting.** The rotations of the block are sorted, and the last byte of each is kept, with the place
  of the block itself (`unsort`).
* **Move to front.** A byte is replaced by the number of distinct bytes met since it was last met.
* **Zeros.** A run of zeros is replaced by its length, written with the two digits 1 and 2
  (`Column.step`).
* **Codes.** The symbols are written in groups of fifty, each under one of several Huffman codes.

The check of a block and that of the stream must be right.
-/

namespace BankedZ80.Bzip2

open Huffman (Code)

/-! ### Bits -/

/-- Compressed data, and a position in it in bits. -/
structure Source where
  data : ByteArray
  position : Nat := 0

/-- A part of the decompression, which fails on data that is not sound. -/
abbrev Reading := StateT Source Option

/-- Go on only if a rule of the format is kept. -/
def require (condition : Bool) : Reading Unit := if condition then pure () else failure

/-- The bit at a distance from the position; bytes are read from their highest bit down, and zeros
follow the data. -/
def Source.bitAt (s : Source) (i : Nat) : Nat :=
  let k := s.position + i
  if k / 8 < s.data.size then (Bytes.get s.data (k / 8)).toNat / 2 ^ (7 - k % 8) % 2 else 0

/-- Go past some bits. -/
def skip (n : Nat) : Reading Unit := do
  let s ← get
  require (s.position + n ≤ 8 * s.data.size)
  set { s with position := s.position + n }

/-- Read a number of that many bits, the highest first. -/
def bits (n : Nat) : Reading Nat := do
  let s ← get
  skip n
  return (List.range n).foldl (fun value i => 2 * value + s.bitAt i) 0

/-- Read a bit that is one for yes. -/
def flag : Reading Bool := return (← bits 1) = 1

/-- Read the number of one-bits before a zero; it must be below a limit. -/
def unary : Nat → Reading Nat
  | 0 => failure
  | limit + 1 => do
    if ← flag then return (← unary limit) + 1 else return 0

/-- Read a symbol. -/
def symbol (code : Code) : Reading Nat := do
  match code.find? (← get).bitAt with
  | some (symbol, length) =>
    skip length
    return symbol
  | none => failure

/-! ### Checks -/

/-- The remainder after one more bit. -/
def shiftBit (r : UInt32) : UInt32 :=
  if r &&& 0x80000000 = 0 then r <<< 1 else (r <<< 1) ^^^ 0x04C11DB7

/-- The remainder of a byte. -/
def byteRemainder (b : UInt8) : UInt32 :=
  (List.range 8).foldl (fun r _ => shiftBit r) (b.toUInt32 <<< 24)

/-- The remainders of all bytes. -/
def table : Array UInt32 := ((List.range 256).map fun b => byteRemainder b.toUInt8).toArray

/-- The remainder after one more byte. -/
def update (r : UInt32) (b : UInt8) : UInt32 :=
  ((table[((r >>> 24) ^^^ b.toUInt32).toNat]?).getD 0) ^^^ (r <<< 8)

/-- The check of a block. -/
def blockCheck (bytes : ByteArray) : UInt32 := ~~~(bytes.foldl update 0xFFFFFFFF)

/-- The check of the blocks before and one more. -/
def combine (before block : UInt32) : UInt32 := ((before <<< 1) ||| (before >>> 31)) ^^^ block

/-! ### Runs of equal bytes -/

/-- Progress over the bytes of a block. -/
structure Expanding where
  output : ByteArray
  last : UInt8 := 0
  /-- How many equal bytes came last. -/
  run : Nat := 0

/-- Take one more byte: after four equal ones it says how many more there are. -/
def Expanding.step (s : Expanding) (b : UInt8) : Expanding :=
  if s.run = 4 then
    { s with output := b.toNat.repeat (fun output => output.push s.last) s.output, run := 0 }
  else
    let run := if b = s.last then s.run + 1 else 1
    { output := s.output.push b, last := b, run }

/-- The bytes before runs were shortened; every count must be there. -/
def expandRuns (bytes : ByteArray) : Option ByteArray :=
  let s := bytes.foldl Expanding.step { output := .empty }
  if s.run = 4 then none else some s.output

/-! ### Sorted rotations -/

/-- The place in the column of last bytes of each byte of the column of first bytes. -/
def places (column : ByteArray) : Array Nat :=
  let buckets := (List.range column.size).foldl
    (fun buckets i => buckets.modify (Bytes.get column i).toNat (·.push i)) (Array.replicate 256 #[])
  buckets.flatten

/-- Append that many bytes of the block after the one at a place. -/
def follow (column : ByteArray) (places : Array Nat) (place : Nat) (output : ByteArray) :
    Nat → ByteArray
  | 0 => output
  | n + 1 =>
    let place := (places[place]?).getD 0
    follow column places place (output.push (Bytes.get column place)) n

/-- The block whose sorted rotations end in the bytes of a column, itself at a given place. -/
def unsort (column : ByteArray) (origin : Nat) : ByteArray :=
  follow column (places column) origin .empty column.size

/-! ### Runs of zeros and move to front -/

/-- The element at an index, and the list with it in front. -/
def moveToFront? {α : Type} (i : Nat) (xs : List α) : Option (α × List α) :=
  (xs[i]?).map fun x => (x, x :: xs.eraseIdx i)

/-- The bytes of a column known so far. -/
structure Column where
  bytes : ByteArray
  /-- The bytes in use, the last met first. -/
  front : List UInt8
  /-- Length of the run of zeros that is being read. -/
  run : Nat := 0
  /-- Weight of the next digit of that length. -/
  weight : Nat := 1

/-- Weight beyond that of every digit. -/
def maxWeight : Nat := 0x200000

/-- Append a byte, so many times. -/
def Column.append (c : Column) (limit : Nat) (b : UInt8) (times : Nat) : Option Column :=
  if c.bytes.size + times ≤ limit then
    some { c with bytes := times.repeat (fun bytes => bytes.push b) c.bytes }
  else none

/-- End the run of zeros: as many times the byte met last. -/
def Column.endRun (c : Column) (limit : Nat) : Option Column := do
  if c.run = 0 then return c
  let c' ← c.append limit (← c.front.head?) c.run
  return { c' with run := 0, weight := 1 }

/-- Take one more symbol other than the end: a digit of the length of a run of zeros, or an index. -/
def Column.step (c : Column) (limit symbol : Nat) : Option Column := do
  if symbol < 2 then
    if c.weight < maxWeight then
      return { c with run := c.run + (symbol + 1) * c.weight, weight := 2 * c.weight }
    else failure
  else
    let c ← c.endRun limit
    let (b, front) ← moveToFront? (symbol - 1) c.front
    { c with front }.append limit b 1

/-- Read a column, each symbol under its own code, up to the end symbol. -/
def readColumn (limit endSymbol : Nat) (c : Column) : List Code → Reading ByteArray
  | [] => failure
  | code :: codes => do
    let next ← symbol code
    if next = endSymbol then return (← c.endRun limit).bytes
    else readColumn limit endSymbol (← c.step limit next) codes

/-! ### Blocks -/

/-- Read which of sixteen numbers from a start on are in use. -/
def readUsed (start : Nat) : Reading (List Nat) := do
  let mask ← bits 16
  return ((List.range 16).filter fun i => mask.testBit (15 - i)).map (start + ·)

/-- Read which bytes are in use. -/
def readUsedBytes : Reading (List UInt8) := do
  let ranges ← readUsed 0
  let used ← ranges.mapM fun i => readUsed (16 * i)
  return used.flatten.map Nat.toUInt8

/-- Number of symbols under one code. -/
def groupSize : Nat := 50

/-- Most groups that count. -/
def maxGroups : Nat := 18002

/-- Read which code each group is under, the codes met last first. -/
def readSelectors (front : List Nat) : Nat → List Nat → Reading (List Nat)
  | 0, selectors => return selectors.reverse
  | n + 1, selectors => do
    let (selector, front) ← moveToFront? (← unary front.length) front
    readSelectors front n (selector :: selectors)

/-- Longest word of a symbol. -/
def maxLength : Nat := 20

/-- Read the length of a word, as steps from the one before. -/
def readLength (length : Nat) : Nat → Reading Nat
  | 0 => failure
  | fuel + 1 => do
    require (1 ≤ length && length ≤ maxLength)
    if ← flag then
      if ← flag then readLength (length - 1) fuel else readLength (length + 1) fuel
    else return length

/-- Read the lengths of so many words. -/
def readLengths (fuel length : Nat) : Nat → Reading (List Nat)
  | 0 => return []
  | n + 1 => do
    let length ← readLength length fuel
    return length :: (← readLengths fuel length n)

/-- Read a code of so many symbols. -/
def readCode (symbols : Nat) : Reading Code := do
  let fuel := 8 * (← get).data.size + 1
  return Code.ofLengths (← readLengths fuel (← bits 5) symbols)

/-- Read a block of at most so many bytes, before runs are expanded. -/
def readBlock (limit : Nat) : Reading ByteArray := do
  let check ← bits 32
  let randomized ← flag
  let origin ← bits 24
  let used ← readUsedBytes
  require (!used.isEmpty)
  let codeCount ← bits 3
  require (2 ≤ codeCount && codeCount ≤ 6)
  let groupCount ← bits 15
  require (1 ≤ groupCount)
  let selectors ← readSelectors (List.range codeCount) groupCount []
  let codes ← (List.range codeCount).mapM fun _ => readCode (used.length + 2)
  let groups := (selectors.take maxGroups).filterMap fun i => codes[i]?
  let column ← readColumn limit (used.length + 1) { bytes := .empty, front := used }
    (groups.flatMap (List.replicate groupSize))
  require (origin < column.size)
  let sorted := unsort column origin
  let bytes ← expandRuns (if randomized then restore sorted else sorted)
  require (blockCheck bytes = check.toUInt32)
  return bytes

/-- Number that begins a block. -/
def blockMark : Nat := 0x314159265359

/-- Number that ends a stream. -/
def endMark : Nat := 0x177245385090

/-- Read blocks up to the end of the stream; `check` is that of the bytes so far. -/
def readBlocks (limit : Nat) (check : UInt32) (output : ByteArray) : Nat → Reading ByteArray
  | 0 => failure
  | fuel + 1 => do
    let mark ← bits 48
    if mark = blockMark then
      let bytes ← readBlock limit
      readBlocks limit (combine check (blockCheck bytes)) (output ++ bytes) fuel
    else
      require (mark = endMark && (← bits 32).toUInt32 = check)
      return output

/-- Read a stream. -/
def readStream : Reading ByteArray := do
  require ((← bits 24) = 0x425A68)
  let level ← bits 8
  require (0x31 ≤ level && level ≤ 0x39)
  readBlocks (100000 * (level - 0x30)) 0 .empty ((← get).data.size + 1)

/-- The bytes that were compressed. -/
def decompress (data : ByteArray) : Option ByteArray := (readStream.run { data }).map (·.1)

end BankedZ80.Bzip2
