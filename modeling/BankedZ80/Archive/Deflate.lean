import BankedZ80.Archive.Bits
import BankedZ80.Archive.Fault
import BankedZ80.Archive.Huffman
import BankedZ80.Archive.Window

/-!
# Deflate

Decompression of the deflate format: blocks of stored bytes, or of literals and copies under a fixed
or a transmitted Huffman code. `Deflate.inflate` gives the bytes written until the last block ends;
what follows that block does not count. A copy may reach back before the first byte, where it finds
zeros.

There are two variants of the format.

* **Plain.** Data that stops before the end or breaks the rules has no answer. A transmitted code must
  be complete; only those of literals and distances may be trivial.
* **Enhanced.** Copies may be longer and reach further back. Data that stops before the end gives what
  it holds. A code may leave words unused, and such a word reads as symbol zero.

Every symbol takes at least one bit, so the number of bits bounds all loops.
-/

namespace BankedZ80.Deflate

open Archive (Fault)
open Huffman (Code)

/-- The variants of the format. -/
inductive Variant where
  | plain
  | enhanced
deriving DecidableEq, Repr

/-- Position in the compressed data, in bits, and the bytes written so far. -/
structure Progress where
  data : ByteArray
  position : Nat := 0
  output : ByteArray := .empty

/-- A part of the decompression; a fault keeps what was written before it. -/
abbrev Inflating := EStateM Fault Progress

/-- Go on only if a rule of the format is kept. -/
def require (condition : Bool) : Inflating Unit :=
  if condition then pure () else throw .corrupt

/-! ### Bits -/

/-- Number of bits left. -/
def Progress.left (s : Progress) : Nat := 8 * s.data.size - s.position

/-- Go past some bits. -/
def skip (n : Nat) : Inflating Unit := do
  let s ← get
  if n ≤ s.left then set { s with position := s.position + n } else throw .truncated

/-- Read a number of that many bits. -/
def bits (n : Nat) : Inflating Nat := do
  let s ← get
  skip n
  return Bits.number s.data s.position n

/-- Skip to the beginning of a byte. -/
def alignToByte : Inflating Unit :=
  modify fun s => { s with position := (s.position + 7) / 8 * 8 }

/-! ### Output -/

/-- Write a byte. -/
def emit (b : UInt8) : Inflating Unit := modify fun s => { s with output := s.output.push b }

/-! ### Symbols -/

/-- May a code be transmitted? -/
def Variant.admits (v : Variant) (c : Code) : Bool :=
  match v with
  | .plain => c.isComplete || c.isTrivial
  | .enhanced => c.fits

/-- Read a symbol. -/
def readSymbol (v : Variant) (c : Code) : Inflating Nat := do
  let s ← get
  if s.left = 0 then throw .truncated
  match c.find? (fun i => Bits.get s.data (s.position + i)) with
  | some (symbol, length) =>
    skip length
    return symbol
  | none =>
    let length := c.lengths.headD 0
    require (v = .enhanced && 0 < length)
    skip length
    return 0

/-! ### Literals and copies -/

/-- Shortest copy of each length symbol but the last, with the number of extra bits. -/
def lengthBases : Array (Nat × Nat) :=
  #[(3, 0), (4, 0), (5, 0), (6, 0), (7, 0), (8, 0), (9, 0), (10, 0), (11, 1), (13, 1), (15, 1),
    (17, 1), (19, 2), (23, 2), (27, 2), (31, 2), (35, 3), (43, 3), (51, 3), (59, 3), (67, 4),
    (83, 4), (99, 4), (115, 4), (131, 5), (163, 5), (195, 5), (227, 5)]

/-- The length symbols of the plain variant. -/
def plainLengthBases : Array (Nat × Nat) := lengthBases.push (258, 0)

/-- The length symbols of the enhanced variant. -/
def enhancedLengthBases : Array (Nat × Nat) := lengthBases.push (3, 16)

/-- What each length symbol stands for. -/
def Variant.lengthBases : Variant → Array (Nat × Nat)
  | .plain => plainLengthBases
  | .enhanced => enhancedLengthBases

/-- The longest copy. -/
def Variant.maxLength : Variant → Nat
  | .plain => 258
  | .enhanced => 0x10000

/-- Shortest distance of each distance symbol, with the number of extra bits. -/
def plainDistanceBases : Array (Nat × Nat) :=
  #[(1, 0), (2, 0), (3, 0), (4, 0), (5, 1), (7, 1), (9, 2), (13, 2), (17, 3), (25, 3), (33, 4),
    (49, 4), (65, 5), (97, 5), (129, 6), (193, 6), (257, 7), (385, 7), (513, 8), (769, 8),
    (1025, 9), (1537, 9), (2049, 10), (3073, 10), (4097, 11), (6145, 11), (8193, 12), (12289, 12),
    (16385, 13), (24577, 13)]

/-- The distance symbols of the enhanced variant. -/
def enhancedDistanceBases : Array (Nat × Nat) :=
  plainDistanceBases ++ #[(32769, 14), (49153, 14)]

/-- What each distance symbol stands for. -/
def Variant.distanceBases : Variant → Array (Nat × Nat)
  | .plain => plainDistanceBases
  | .enhanced => enhancedDistanceBases

/-- The number that a symbol with extra bits stands for. -/
def extended (bases : Array (Nat × Nat)) (symbol : Nat) : Inflating Nat :=
  match bases[symbol]? with
  | some (base, extra) => do return base + (← bits extra)
  | none => throw .corrupt

/-- Read a copy whose length symbol is known. -/
def readCopy (v : Variant) (distances : Code) (symbol : Nat) : Inflating Unit := do
  let length ← extended v.lengthBases symbol
  let distance ← extended v.distanceBases (← readSymbol v distances)
  require (length ≤ v.maxLength)
  let s ← get
  set { s with output := .empty }
  set { s with output := Window.copy s.output distance length }

/-- The end of a block among the literals. -/
def endSymbol : Nat := 256

/-- Read literals and copies up to the end of the block. -/
def readSymbols (v : Variant) (literals distances : Code) : Nat → Inflating Unit
  | 0 => throw .truncated
  | fuel + 1 => do
    let symbol ← readSymbol v literals
    if symbol < 256 then
      emit symbol.toUInt8
      readSymbols v literals distances fuel
    else if symbol = endSymbol then return
    else
      readCopy v distances (symbol - 257)
      readSymbols v literals distances fuel

/-! ### Blocks -/

/-- A block of stored bytes. -/
def storedBlock : Inflating Unit := do
  alignToByte
  let length ← bits 16
  let complement ← bits 16
  require (length + complement = 0xFFFF)
  let s ← get
  let start := s.position / 8
  let bytes := s.data.extract start (start + length)
  set { s with position := s.position + 8 * bytes.size, output := s.output ++ bytes }
  if bytes.size < length then throw .truncated

/-- The code of literals and lengths that needs no transmission. -/
def fixedLiterals : Code :=
  Code.ofLengths (List.replicate 144 8 ++ List.replicate 112 9 ++ List.replicate 24 7
    ++ List.replicate 8 8)

/-- The code of distances that needs no transmission. -/
def fixedDistances : Code := Code.ofLengths (List.replicate 32 5)

/-- The order in which the lengths of the code-length code are sent. -/
def lengthOrder : List Nat := [16, 17, 18, 0, 8, 7, 9, 6, 10, 5, 11, 4, 12, 3, 13, 2, 14, 1, 15]

/-- Read that many lengths of three bits. -/
def readShortLengths : Nat → Inflating (List Nat)
  | 0 => return []
  | n + 1 => do
    let length ← bits 3
    return length :: (← readShortLengths n)

/-- Read code lengths until there are `total`, those in `read` being there already, latest first. -/
def readLengths (v : Variant) (code : Code) (total : Nat) (read : List Nat) :
    Nat → Inflating (List Nat)
  | 0 => throw .truncated
  | fuel + 1 => do
    if total ≤ read.length then
      require (read.length = total)
      return read.reverse
    else
      let symbol ← readSymbol v code
      match symbol with
      | 16 =>
        let again ← bits 2
        match read with
        | last :: _ => readLengths v code total (List.replicate (3 + again) last ++ read) fuel
        | [] => throw .corrupt
      | 17 =>
        let again ← bits 3
        readLengths v code total (List.replicate (3 + again) 0 ++ read) fuel
      | 18 =>
        let again ← bits 7
        readLengths v code total (List.replicate (11 + again) 0 ++ read) fuel
      | length => readLengths v code total (length :: read) fuel

/-- Most symbols of a code of literals and of one of distances. -/
def Variant.maxSymbols : Variant → Nat × Nat
  | .plain => (286, 30)
  | .enhanced => (288, 32)

/-- Read the two codes that a block brings with it. -/
def readCodes (v : Variant) : Inflating (Code × Code) := do
  let literalCount := 257 + (← bits 5)
  let distanceCount := 1 + (← bits 5)
  let shortCount := 4 + (← bits 4)
  require (literalCount ≤ v.maxSymbols.1 && distanceCount ≤ v.maxSymbols.2)
  let sent := lengthOrder.zip (← readShortLengths shortCount)
  let lengthCode := Code.ofLengths ((List.range 19).map fun n => (sent.lookup n).getD 0)
  require (v.admits lengthCode && (v = .enhanced || lengthCode.isComplete))
  let total := literalCount + distanceCount
  let lengths ← readLengths v lengthCode total [] (total + 1)
  let literals := Code.ofLengths (lengths.take literalCount)
  let distances := Code.ofLengths (lengths.drop literalCount)
  require (v.admits literals && v.admits distances)
  require (v = .plain || literals.symbols.contains endSymbol)
  return (literals, distances)

/-- A block, of the kind that its header names. -/
def block (v : Variant) (kind fuel : Nat) : Inflating Unit :=
  match kind with
  | 0 => storedBlock
  | 1 => readSymbols v fixedLiterals fixedDistances fuel
  | 2 => do
    let (literals, distances) ← readCodes v
    readSymbols v literals distances fuel
  | _ => throw .corrupt

/-- Blocks up to the last. -/
def blocks (v : Variant) (symbolFuel : Nat) : Nat → Inflating Unit
  | 0 => throw .truncated
  | fuel + 1 => do
    let last ← bits 1
    let kind ← bits 2
    block v kind symbolFuel
    if last = 1 then return else blocks v symbolFuel fuel

/-- The bytes that were compressed. -/
def inflate (v : Variant) (data : ByteArray) : Option ByteArray :=
  let fuel := 8 * data.size + 1
  match v, (blocks v fuel fuel).run { data } with
  | _, .ok _ s => some s.output
  | .enhanced, .error .truncated s => some s.output
  | _, .error _ _ => none

end BankedZ80.Deflate
