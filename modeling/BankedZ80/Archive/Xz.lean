import BankedZ80.Archive.Crc32
import BankedZ80.Archive.Crc64
import BankedZ80.Archive.Lzma.Chunk
import BankedZ80.Archive.Reader
import BankedZ80.Archive.Sha256

/-!
# Xz

Decompression of the xz format. `Xz.decompress` gives the contents of a stream, which must be all of the
data. A stream is a header, blocks, an index that lists their sizes, and a footer. Blocks must be
compressed by chunks of LZMA and by nothing else.
-/

namespace BankedZ80.Xz

open Archive (Reading)
open Archive.Reading

/-! ### Parts of a stream -/

/-- Read a number of variable length, at most so many bytes: seven bits in each, the lowest first, and a
high bit in all but the last. The last byte of several is not zero. -/
def variableFrom : Nat → Reading Nat
  | 0 => failure
  | n + 1 => do
    let b ← byte
    if b < 128 then return b
    else
      let more ← variableFrom n
      require (more ≠ 0)
      return b - 128 + 128 * more

/-- Read a number of variable length. -/
def variableNumber : Reading Nat := variableFrom 9

/-- Read a check and compare it with that of the bytes from a position up to it. -/
def checkFrom (start : Nat) : Reading Unit := do
  let covered ← since start
  require ((← number 4) = (Crc32.compute covered).toNat)

/-- Skip zeros up to a multiple of four bytes from a position. -/
def skipPadding (start : Nat) : Reading Unit := do
  let length := (← position) - start
  let padding ← take ((4 - length % 4) % 4)
  require (padding.data.all (· = 0))

/-! ### Checks -/

/-- Length of the check of a block, by its kind. -/
def checkLength (kind : Nat) : Nat := if kind = 0 then 0 else 4 * 2 ^ ((kind - 1) / 3)

/-- Read the check of some contents; kinds that are not in use are passed over. -/
def readCheck (kind : Nat) (contents : ByteArray) : Reading Unit := do
  let stored ← take (checkLength kind)
  match kind with
  | 1 => require (Bytes.number stored 0 4 = (Crc32.compute contents).toNat)
  | 4 => require (Bytes.number stored 0 8 = (Crc64.compute contents).toNat)
  | 10 => require (stored = Sha256.compute contents)
  | _ => pure ()

/-! ### Streams -/

/-- What begins a stream. -/
def startMark : ByteArray := ⟨#[0xFD, 0x37, 0x7A, 0x58, 0x5A, 0x00]⟩

/-- What ends a stream. -/
def endMark : ByteArray := ⟨#[0x59, 0x5A]⟩

/-- Read the flags of a stream: the kind of its checks. -/
def readFlags : Reading Nat := do
  require ((← byte) = 0)
  let kind ← byte
  require (kind < 16)
  return kind

/-- Read the header of a stream; gives the kind of its checks. -/
def readHeader : Reading Nat := do
  require ((← take 6) = startMark)
  let start ← position
  let kind ← readFlags
  checkFrom start
  return kind

/-- Number of the filter that stands for chunks of LZMA. -/
def chunkFilter : Nat := 0x21

/-- How far copies reach back, by the number that states it. -/
def windowSize (n : Nat) : Nat :=
  if n = 40 then 2 ^ 32 - 1 else (2 + n % 2) * 2 ^ (n / 2 + 11)

/-- The header of a block: the sizes that it states, and how far copies reach back. -/
structure BlockHeader where
  stored? : Option Nat
  contents? : Option Nat
  window : Nat
deriving DecidableEq, Repr

/-- Read the header of a block, which began with its length at a position. -/
def readBlockHeader (start length : Nat) : Reading BlockHeader := do
  let flags ← byte
  require (flags % 64 = 0)
  let stored? ← if flags.testBit 6 then some <$> variableNumber else pure none
  let contents? ← if flags.testBit 7 then some <$> variableNumber else pure none
  require ((← variableNumber) = chunkFilter)
  require ((← variableNumber) = 1)
  let window ← byte
  require (window ≤ 40)
  let here ← position
  require (here ≤ start + length)
  let padding ← take (start + length - here)
  require (padding.data.all (· = 0))
  checkFrom start
  return { stored?, contents?, window := windowSize window }

/-- The sizes of a block: without padding, and decompressed. -/
structure BlockSizes where
  stored : Nat
  contents : Nat
deriving DecidableEq, Repr

/-- Read a block that began with its length at a position; gives its contents too. -/
def readBlock (kind start length : Nat) : Reading (ByteArray × BlockSizes) := do
  let header ← readBlockHeader start length
  let r ← get
  let (contents, after) ← Lzma.decompressChunks header.window r.data r.position
  require (header.stored?.all (· = after - r.position))
  require (header.contents?.all (· = contents.size))
  set { r with position := after }
  skipPadding start
  readCheck kind contents
  return (contents, { stored := after - start + checkLength kind, contents := contents.size })

/-- Read an index that began at a position, and a footer. -/
def readIndex (start kind : Nat) (blocks : List BlockSizes) : Reading Unit := do
  require ((← variableNumber) = blocks.length)
  for block in blocks do
    require ((← variableNumber) = block.stored)
    require ((← variableNumber) = block.contents)
  skipPadding start
  let length := (← position) - start
  checkFrom start
  let check ← number 4
  let footer ← position
  require ((← number 4) = length / 4)
  require ((← readFlags) = kind)
  require (check = (Crc32.compute (← since footer)).toNat)
  require ((← take 2) = endMark)

/-- Read blocks and the index after them, appending their contents; `blocks` are the sizes of those
before, the last first. -/
def readBlocks (kind : Nat) (blocks : List BlockSizes) (output : ByteArray) : Nat → Reading ByteArray
  | 0 => failure
  | fuel + 1 => do
    let start ← position
    let length := 4 * (← byte)
    if length = 0 then
      readIndex start kind blocks.reverse
      return output
    else
      let (contents, sizes) ← readBlock kind start length
      readBlocks kind (sizes :: blocks) (output ++ contents) fuel

/-- Read a stream, which must be all of the data. -/
def readStream : Reading ByteArray := do
  let kind ← readHeader
  let output ← readBlocks kind [] .empty ((← get).data.size + 1)
  require (← atEnd)
  return output

/-- The bytes that were compressed. -/
def decompress (data : ByteArray) : Option ByteArray := readStream.of? data

end BankedZ80.Xz
