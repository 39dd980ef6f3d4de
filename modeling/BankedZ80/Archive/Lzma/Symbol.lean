import BankedZ80.Archive.Fault
import BankedZ80.Archive.Lzma.Context
import BankedZ80.Archive.Window
import BankedZ80.Bytes

/-!
# Symbols of LZMA

A symbol of LZMA is a literal byte, a copy, or the mark of the end. Its bits are packed by arithmetic
coding: the data is one long fraction, and each bit cuts the current range of fractions in two, in
proportion to the chances of zero and one under its context. `symbol` reads a symbol and writes what it
stands for.
-/

namespace BankedZ80.Lzma

open Archive (Fault)

/-- Chances are out of so many. -/
def certain : UInt32 := 2048

/-- Progress of a decompression. -/
structure Progress where
  data : ByteArray
  /-- The next byte. -/
  position : Nat
  /-- Where the symbols end. -/
  limit : Nat
  /-- Width of the current range. -/
  range : UInt32 := 0xFFFFFFFF
  /-- Where in the range the fraction lies. -/
  code : UInt32 := 0
  properties : Properties := {}
  /-- The chance of a zero under each context. -/
  chances : Array UInt32 := #[]
  /-- What the last symbols were: below seven, the last one was a literal. -/
  history : Nat := 0
  /-- The last four distances less one, the last first. -/
  distances : List Nat := [0, 0, 0, 0]
  output : ByteArray := .empty
  /-- Where in the output copies begin to reach. -/
  start : Nat := 0

/-- A part of the decompression; a fault keeps what was written before it. -/
abbrev Decoding := EStateM Fault Progress

/-- How much of the output copies can reach. -/
def Progress.reach (s : Progress) : Nat := s.output.size - s.start

/-! ### Bits -/

/-- Read a byte. -/
def byte : Decoding UInt8 := do
  let s ← get
  if s.position < s.limit && s.position < s.data.size then
    set { s with position := s.position + 1 }
    return Bytes.get s.data s.position
  else throw .truncated

/-- Read a number of that many bytes, the highest first. -/
def number : Nat → Nat → Decoding Nat
  | 0, value => return value
  | n + 1, value => do number n (256 * value + (← byte).toNat)

/-- Take in one more byte of the fraction when the range is narrow. -/
def widen : Decoding Unit := do
  if (← get).range < 0x1000000 then
    let b ← byte
    modify fun s => { s with range := s.range <<< 8, code := (s.code <<< 8) ||| b.toUInt32 }

/-- Forget all that was learnt from the symbols before. -/
def Progress.forget (s : Progress) (properties : Properties) : Progress :=
  { s with
    properties
    chances := Array.replicate (contextCount properties) (certain / 2)
    history := 0
    distances := [0, 0, 0, 0] }

/-- Begin a fraction; its first byte is not used. -/
def beginFraction : Decoding Unit := do
  let _ ← byte
  let code ← number 4 0
  modify fun s => { s with range := 0xFFFFFFFF, code := code.toUInt32 }

/-- Read a bit under a context. -/
def bit (context : Context) : Decoding Nat := do
  let s ← get
  let i := context.index
  let chance := (s.chances[i]?).getD 0
  let bound := (s.range >>> 11) * chance
  if s.code < bound then
    set { s with
      range := bound
      chances := s.chances.setIfInBounds i (chance + ((certain - chance) >>> 5)) }
    widen
    return 0
  else
    set { s with
      range := s.range - bound
      code := s.code - bound
      chances := s.chances.setIfInBounds i (chance - (chance >>> 5)) }
    widen
    return 1

/-- Read a bit that is zero or one by even chances. -/
def evenBit : Decoding Nat := do
  let s ← get
  let half := s.range >>> 1
  if s.code < half then
    set { s with range := half }
    widen
    return 0
  else
    set { s with range := half, code := s.code - half }
    widen
    return 1

/-- Read that many bits with even chances, the highest first, after those of a number. -/
def evenBits : Nat → Nat → Decoding Nat
  | 0, value => return value
  | n + 1, value => do evenBits n (2 * value + (← evenBit))

/-- Read that many bits, the highest first, after those of a node; gives the last node. -/
def descend (context : Nat → Context) : Nat → Nat → Decoding Nat
  | 0, node => return node
  | n + 1, node => do descend context n (2 * node + (← bit (context node)))

/-- Read a number of that many bits, the highest first. -/
def highFirst (context : Nat → Context) (n : Nat) : Decoding Nat :=
  return (← descend context n 1) - 2 ^ n

/-- Read a number of that many bits, the lowest first. -/
def lowFirst (context : Nat → Context) : Nat → Nat → Decoding Nat
  | 0, _ => return 0
  | n + 1, node => do
    let b ← bit (context node)
    return b + 2 * (← lowFirst context n (2 * node + b))

/-! ### Literals -/

/-- Read a literal, bit by bit, while it agrees with a byte that is expected but should differ. -/
def differing (surroundings expected : Nat) : Nat → Nat → Decoding Nat
  | 0, node => return node
  | n + 1, node => do
    let likely := expected / 2 ^ n % 2
    let b ← bit (.literal surroundings (0x100 * (1 + likely) + node))
    if b = likely then differing surroundings expected n (2 * node + b)
    else descend (.literal surroundings) n (2 * node + b)

/-- Read a literal. After a copy, the byte that would have continued it is expected, but the literal
differs. -/
def literal : Decoding Unit := do
  let s ← get
  let p := s.properties
  let before := if s.reach = 0 then 0 else (Window.byteBack s.output 1).toNat
  let surroundings := s.reach % 2 ^ p.literalPosition * 2 ^ p.literalContext
    + before / 2 ^ (8 - p.literalContext)
  let node ← if s.history < 7 then descend (.literal surroundings) 8 1
    else differing surroundings (Window.byteBack s.output (s.distances.headD 0 + 1)).toNat 8 1
  modify fun s =>
    { s with
      output := s.output.push node.toUInt8
      history := if s.history < 4 then 0 else if s.history < 10 then s.history - 3
        else s.history - 6 }

/-! ### Copies -/

/-- Read the length of a copy, less two. -/
def copyLength (kind : CopyKind) (place : Nat) : Decoding Nat := do
  if (← bit (.isMedium kind)) = 0 then highFirst (.lowLength kind place) 3
  else if (← bit (.isHigh kind)) = 0 then return 8 + (← highFirst (.mediumLength kind place) 3)
  else return 16 + (← highFirst (.highLength kind) 8)

/-- Read a new distance, less one, for a copy of a length, less two. -/
def freshDistance (length : Nat) : Decoding Nat := do
  let size ← highFirst (.distanceSize (min length 3)) 6
  if size < 4 then return size
  let low := size / 2 - 1
  let base := (2 + size % 2) * 2 ^ low
  if size < 14 then
    return base + (← lowFirst (fun node => .distanceBit (base - size + node)) low 1)
  else
    let middle ← evenBits (low - 4) 0
    return base + 16 * middle + (← lowFirst .alignment 4 1)

/-- Read which of the last four distances comes again. -/
def whichDistance (history : Nat) : Decoding Nat := do
  if (← bit (.isNotSecond history)) = 0 then return 1
  else if (← bit (.isNotThird history)) = 0 then return 2
  else return 3

/-- Write a copy of a length with the last distance, which must be in the window and the output. -/
def writeCopy (window length : Nat) : Decoding Unit := do
  let s ← get
  let distance := s.distances.headD 0 + 1
  if distance ≤ window && distance ≤ s.reach then
    set { s with output := .empty }
    modify fun s' => { s' with output := Window.copy s.output distance length }
  else throw .corrupt

/-- Distance of the end mark, less one. -/
def endMark : Nat := 0xFFFFFFFF

/-- Read a copy with a new distance; says whether it is the end mark. -/
def freshCopy (window place : Nat) : Decoding Bool := do
  let length ← copyLength .fresh place
  let distance ← freshDistance length
  modify fun s =>
    { s with
      history := if s.history < 7 then 7 else 10
      distances := distance :: s.distances.take 3 }
  if distance = endMark then return true
  writeCopy window (length + 2)
  return false

/-- Read a copy with one of the last four distances. -/
def repeatedCopy (window place : Nat) : Decoding Unit := do
  let history := (← get).history
  if (← bit (.isNotLast history)) = 0 then
    if (← bit (.isLong history place)) = 0 then
      modify fun s => { s with history := if history < 7 then 9 else 11 }
      writeCopy window 1
      return
  else
    let i ← whichDistance history
    modify fun s =>
      { s with distances := (s.distances[i]?).getD 0 :: s.distances.eraseIdx i }
  let length ← copyLength .repeated place
  modify fun s => { s with history := if history < 7 then 8 else 11 }
  writeCopy window (length + 2)

/-- Read a symbol; says whether it is the end mark. -/
def symbol (window : Nat) : Decoding Bool := do
  let s ← get
  let history := s.history
  let place := s.reach % 2 ^ s.properties.position
  if (← bit (.isCopy history place)) = 0 then
    literal
    return false
  else if (← bit (.isRepeated history)) = 0 then freshCopy window place
  else
    repeatedCopy window place
    return false

/-- Bound on the number of symbols: each narrows the range by a bit at least, whose chance is never
nearer to certainty than 31 in 2048. -/
def Progress.fuel (s : Progress) : Nat := 400 * (s.data.size + 1)

end BankedZ80.Lzma
