import BankedZ80.Archive.Zstandard.StateTable

/-!
# Literals of zstandard

A block begins with its literals: as they are, one byte many times, or under a Huffman code, which comes
with the block or is that of the literals before. The code is described by the weights of the bytes: a
byte of weight `w` has `2 ^ (w - 1)` of the entries of a table that is looked up with the next bits.
-/

namespace BankedZ80.Zstandard

open Archive (Reading)
open Archive.Reading

/-! ### Codes -/

/-- A byte, and the length of its word. -/
structure CodeEntry where
  byte : UInt8
  length : Nat
deriving DecidableEq, Repr

/-- A Huffman code, looked up by so many bits. -/
structure LiteralCode where
  bits : Nat
  entries : Array CodeEntry
deriving DecidableEq, Repr

/-- Most bits of a word. -/
def maxWordLength : Nat := 12

/-- Number of entries of a byte of a weight. -/
def entryCount (weight : Nat) : Nat := if weight = 0 then 0 else 2 ^ (weight - 1)

/-- The code of some weights, the last of which is left out: it fills the table. -/
def LiteralCode.ofWeights? (weights : List Nat) : Option LiteralCode :=
  let total := weights.foldl (· + entryCount ·) 0
  let bits := total.log2 + 1
  let left := 2 ^ bits - total
  let weights := weights ++ [left.log2 + 1]
  let lightest := weights.count 1
  if total = 0 || maxWordLength < bits || 2 ^ left.log2 ≠ left || weights.length > 256
      || lightest < 2 || lightest % 2 = 1 then none
  else
    let numbered := weights.zipIdx
    let entries := (List.range bits).flatMap fun i =>
      let weight := i + 1
      (numbered.filter (·.1 = weight)).flatMap fun (_, symbol) =>
        List.replicate (entryCount weight) ⟨symbol.toUInt8, bits + 1 - weight⟩
    some { bits, entries := entries.toArray }

/-- Weights under a table, from two states that take turns up to the end of the stream. -/
def weightsFrom? (table : StateTable) (s : BitStream) (current other : Nat) :
    Nat → Option (List Nat)
  | 0 => none
  | fuel + 1 => do
    let cell ← table.cells[current]?
    match s.read? cell.bits with
    | some (value, s) =>
      return cell.symbol :: (← weightsFrom? table s other (cell.base + value) fuel)
    | none => return [cell.symbol, (← table.cells[other]?).symbol]

/-- Most accuracy of a table of weights. -/
def maxWeightAccuracy : Nat := 6

/-- Read weights under a table, to the end of the bytes. -/
def readPackedWeights : Reading (List Nat) := do
  let table ← readTable 256 maxWeightAccuracy
  let s ← BitStream.ofBytes? (← takeRest)
  let (first, s) ← table.start? s
  let (second, s) ← table.start? s
  weightsFrom? table s first second 255

/-- Read a code. -/
def readCode : Reading LiteralCode := do
  let lead ← byte
  let weights ← if lead < 128 then
      let packed ← take lead
      readPackedWeights.of? packed
    else
      let count := lead - 127
      let bytes ← take ((count + 1) / 2)
      let halves := (Bytes.toList bytes).flatMap fun b => [b.toNat / 16, b.toNat % 16]
      pure (halves.take count)
  require (weights.all (· ≤ maxWordLength))
  LiteralCode.ofWeights? weights

/-- Append that many literals of a stream, which must end with the last. -/
def literalsFrom? (code : LiteralCode) (s : BitStream) (output : ByteArray) : Nat → Option ByteArray
  | 0 => if s.left = 0 then some output else none
  | n + 1 =>
    match code.entries[s.peek code.bits]? with
    | some entry =>
      if entry.length ≤ s.left then
        literalsFrom? code { s with left := s.left - entry.length } (output.push entry.byte) n
      else none
    | none => none

/-- That many literals of the stream in some bytes. -/
def decodeLiterals? (code : LiteralCode) (bytes : ByteArray) (count : Nat) : Option ByteArray := do
  literalsFrom? code (← BitStream.ofBytes? bytes) .empty count

/-! ### Sections -/

/-- Read that many literals in one stream. -/
def readStream (code : LiteralCode) (size count : Nat) : Reading ByteArray := do
  decodeLiterals? code (← take size) count

/-- Read that many literals in four streams, of which the first three have equally many. -/
def readFourStreams (code : LiteralCode) (size count : Nat) : Reading ByteArray := do
  let first ← number 2
  let second ← number 2
  let third ← number 2
  let quarter := (count + 3) / 4
  require (6 + first + second + third ≤ size && 3 * quarter ≤ count)
  let a ← readStream code first quarter
  let b ← readStream code second quarter
  let c ← readStream code third quarter
  let d ← readStream code (size - 6 - first - second - third) (count - 3 * quarter)
  return a ++ b ++ c ++ d

/-- Bytes of the header of coded literals, by its format. -/
def codedHeaderLength : Nat → Nat
  | 0 | 1 => 3
  | 2 => 4
  | _ => 5

/-- Most bytes of a block. -/
def maxBlockSize : Nat := 0x20000

/-- Read the literals of a block, given the code of those before; gives the code for those after. -/
def readLiterals (before : Option LiteralCode) : Reading (ByteArray × Option LiteralCode) := do
  let lead := Bits.number (← get).data (8 * (← position)) 4
  let kind := lead % 4
  let format := lead / 4
  if kind < 2 then
    let (length, shift) := match format with
      | 1 => (2, 4)
      | 3 => (3, 4)
      | _ => (1, 3)
    let size := (← number length) / 2 ^ shift
    require (size ≤ maxBlockSize)
    if kind = 0 then return (← take size, before)
    else
      let b ← take 1
      return (⟨Array.replicate size (Bytes.get b 0)⟩, before)
  else
    let length := codedHeaderLength format
    let sizes := (← number length) / 16
    let width := 2 ^ (4 * length - 2)
    let count := sizes % width
    let start ← position
    let stop := start + sizes / width
    require (count ≤ maxBlockSize)
    let code ← if kind = 2 then readCode else before
    let here ← position
    require (here ≤ stop)
    let literals ← (if format = 0 then readStream else readFourStreams) code (stop - here) count
    return (literals, some code)

end BankedZ80.Zstandard
