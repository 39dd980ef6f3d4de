import BankedZ80.Archive.Window
import BankedZ80.Archive.Zstandard.StateTable

/-!
# Sequences of zstandard

After its literals a block has sequences. Each takes some literals and then a copy of what was written
before. Its three numbers are packed by state tables and extra bits. `readSequences` reads them, and
`execute?` writes what they stand for.
-/

namespace BankedZ80.Zstandard

open Archive (Reading)
open Archive.Reading

/-- One of the three numbers of a sequence: which symbols it has and what they stand for. -/
structure Field where
  /-- The least number of each symbol, and how many extra bits are added to it. -/
  bases : Array (Nat × Nat)
  maxAccuracy : Nat
  /-- The table that needs no description. -/
  standard : StateTable

/-- Symbols that stand for numbers from the first on, with given extra bits. -/
def basesFrom (first : Nat) : List Nat → List (Nat × Nat)
  | [] => []
  | extra :: rest => (first, extra) :: basesFrom (first + 2 ^ extra) rest

/-- The standard table of some shares, given as numbers of states, and then so many rare symbols. -/
def standardTable (accuracy : Nat) (counts : List Nat) (rare : Nat) : StateTable :=
  StateTable.ofShares accuracy (counts.map .states ++ List.replicate rare .rare)

/-- How many literals are taken. -/
def literalLength : Field :=
  { bases := (basesFrom 0 (List.replicate 16 0
      ++ [1, 1, 1, 1, 2, 2, 3, 3, 4, 6, 7, 8, 9, 10, 11, 12, 13, 14, 15, 16])).toArray
    maxAccuracy := 9
    standard := standardTable 6
      ([4, 3] ++ List.replicate 11 2 ++ [1, 1, 1] ++ List.replicate 9 2 ++ [3, 2, 1, 1, 1, 1, 1]) 4 }

/-- How many bytes are copied. -/
def matchLength : Field :=
  { bases := (basesFrom 3 (List.replicate 32 0
      ++ [1, 1, 1, 1, 2, 2, 3, 3, 4, 4, 5, 7, 8, 9, 10, 11, 12, 13, 14, 15, 16])).toArray
    maxAccuracy := 9
    standard := standardTable 6 ([1, 4, 3] ++ List.replicate 6 2 ++ List.replicate 37 1) 7 }

/-- From how far back they are copied. -/
def offset : Field :=
  { bases := ((List.range 32).map fun n => (2 ^ n, n)).toArray
    maxAccuracy := 8
    standard := standardTable 5
      (List.replicate 6 1 ++ [2, 2, 2] ++ List.replicate 15 1) 5 }

/-- A sequence; an offset of at most three names one of the last. -/
structure Sequence where
  literals : Nat
  length : Nat
  offset : Nat
deriving DecidableEq, Repr

/-- The tables of the three numbers, if there were any yet. -/
structure Tables where
  literalLength : Option StateTable := none
  offset : Option StateTable := none
  matchLength : Option StateTable := none

/-- Read the table of a number in one of four ways. -/
def readFieldTable (field : Field) (before : Option StateTable) (way : Nat) : Reading StateTable :=
  match way with
  | 0 => return field.standard
  | 1 => do
    let symbol ← byte
    require (symbol < field.bases.size)
    return StateTable.constant symbol
  | 2 => readTable field.bases.size field.maxAccuracy
  | _ => before

/-- Read the number of sequences. -/
def readCount : Reading Nat := do
  let lead ← byte
  if lead < 128 then return lead
  else if lead < 255 then return 256 * (lead - 128) + (← byte)
  else return 0x7F00 + (← number 2)

/-- Read the extra bits of the symbol that a state stands for. -/
def Field.value? (field : Field) (table : StateTable) (state : Nat) (s : BitStream) :
    Option (Nat × BitStream) := do
  let cell ← table.cells[state]?
  let (base, extra) ← field.bases[cell.symbol]?
  let (more, s) ← s.read? extra
  return (base + more, s)

/-- Read the state after another. -/
def StateTable.next? (table : StateTable) (state : Nat) (s : BitStream) :
    Option (Nat × BitStream) := do
  let cell ← table.cells[state]?
  let (value, s) ← s.read? cell.bits
  return (cell.base + value, s)

/-- That many sequences of a stream, from the states of the three numbers on; the stream must end with
the last. -/
def sequencesFrom? (literalTable offsetTable matchTable : StateTable) (s : BitStream)
    (literalState offsetState matchState : Nat) (read : Array Sequence) :
    Nat → Option (Array Sequence)
  | 0 => if s.left = 0 then some read else none
  | n + 1 => do
    let (distance, s) ← offset.value? offsetTable offsetState s
    let (length, s) ← matchLength.value? matchTable matchState s
    let (literals, s) ← literalLength.value? literalTable literalState s
    let read := read.push { literals, length, offset := distance }
    if n = 0 then
      if s.left = 0 then some read else none
    else
      let (literalState, s) ← literalTable.next? literalState s
      let (matchState, s) ← matchTable.next? matchState s
      let (offsetState, s) ← offsetTable.next? offsetState s
      sequencesFrom? literalTable offsetTable matchTable s literalState offsetState matchState read n

/-- Read the sequences of a block to its end, given the tables of those before; gives the tables for
those after. -/
def readSequences (before : Tables) : Reading (Array Sequence × Tables) := do
  let count ← readCount
  if count = 0 then
    require (← atEnd)
    return (#[], before)
  else
    let ways ← byte
    require (ways % 4 = 0)
    let literalTable ← readFieldTable literalLength before.literalLength (ways / 64)
    let offsetTable ← readFieldTable offset before.offset (ways / 16 % 4)
    let matchTable ← readFieldTable matchLength before.matchLength (ways / 4 % 4)
    let s ← BitStream.ofBytes? (← takeRest)
    let (literalState, s) ← literalTable.start? s
    let (offsetState, s) ← offsetTable.start? s
    let (matchState, s) ← matchTable.start? s
    let sequences ← sequencesFrom? literalTable offsetTable matchTable s literalState offsetState
      matchState #[] count
    return (sequences, ⟨literalTable, offsetTable, matchTable⟩)

/-! ### Execution -/

/-- The offset that a sequence means, and the last offsets after it. After no literals the last offset
would only go on with the copy before, so that its names are shifted. -/
def resolveOffset (recent : List Nat) (sequence : Sequence) : Nat × List Nat :=
  if 3 < sequence.offset then
    let distance := sequence.offset - 3
    (distance, distance :: recent.take 2)
  else
    let i := if sequence.literals = 0 then sequence.offset else sequence.offset - 1
    match recent[i]? with
    | some distance => (distance, distance :: recent.eraseIdx i)
    | none =>
      let distance := recent.headD 0 - 1
      (distance, distance :: recent.take 2)

/-- Progress of a frame. -/
structure Output where
  bytes : ByteArray := .empty
  /-- The last three offsets, the last first. -/
  recent : List Nat := [1, 4, 8]

/-- Write what sequences stand for, taking literals from a position on; those left over come last. -/
def execute? (literals : ByteArray) (position : Nat) (o : Output) : List Sequence → Option Output
  | [] => some { o with bytes := o.bytes ++ literals.extract position literals.size }
  | sequence :: rest =>
    let stop := position + sequence.literals
    let (distance, recent) := resolveOffset o.recent sequence
    let bytes := o.bytes ++ literals.extract position stop
    if stop ≤ literals.size && 1 ≤ distance && distance ≤ bytes.size then
      execute? literals stop ⟨Window.copy bytes distance sequence.length, recent⟩ rest
    else none

end BankedZ80.Zstandard
