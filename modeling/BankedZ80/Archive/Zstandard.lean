import BankedZ80.Archive.XxHash
import BankedZ80.Archive.Zstandard.Literals
import BankedZ80.Archive.Zstandard.Sequences

/-!
# Zstandard

Decompression of the zstandard format. `Zstandard.decompress` gives the contents of all frames, of which
there must be one at least. A frame has a header and blocks; its size and its check, if they are stated,
must be right. Frames that are to be skipped may stand between the others. There are no dictionaries.
-/

namespace BankedZ80.Zstandard

open Archive (Reading)
open Archive.Reading

/-- The header of a frame. -/
structure FrameHeader where
  /-- How far back copies may reach. -/
  window : Nat
  size? : Option Nat
  hasCheck : Bool
deriving DecidableEq, Repr

/-- The size of a window, by the byte that states it. -/
def windowSize (b : Nat) : Nat :=
  let power := 2 ^ (10 + b / 8)
  power + power / 8 * (b % 8)

/-- Largest window. -/
def maxWindow : Nat := 0x8000000

/-- Bytes of a dictionary's number, by the kind of header. -/
def dictionaryLength : Nat → Nat
  | 0 => 0
  | 1 => 1
  | 2 => 2
  | _ => 4

/-- Read the size of a frame, in one of four ways. -/
def readFrameSize (way : Nat) (isSingle : Bool) : Reading (Option Nat) :=
  match way with
  | 0 => if isSingle then some <$> byte else return none
  | 1 => return some ((← number 2) + 256)
  | 2 => some <$> number 4
  | _ => some <$> number 8

/-- Read the header of a frame. -/
def readFrameHeader : Reading FrameHeader := do
  let flags ← byte
  let isSingle := flags.testBit 5
  require (!flags.testBit 3)
  let window ← if isSingle then pure 0 else windowSize <$> byte
  require ((← number (dictionaryLength (flags % 4))) = 0)
  let size? ← readFrameSize (flags / 64) isSingle
  let window := if isSingle then size?.getD 0 else window
  require (window ≤ maxWindow)
  return { window, size?, hasCheck := flags.testBit 2 }

/-- What is kept from block to block. -/
structure Frame where
  output : Output := {}
  code : Option LiteralCode := none
  tables : Tables := {}

/-- A block whose contents are not compressed. -/
def Frame.append (f : Frame) (bytes : ByteArray) : Frame :=
  { f with output := { f.output with bytes := f.output.bytes ++ bytes } }

/-- Read a compressed block. -/
def Frame.readCompressed (f : Frame) : Reading Frame := do
  let (literals, code) ← readLiterals f.code
  let (sequences, tables) ← readSequences f.tables
  let output ← execute? literals 0 f.output sequences.toList
  return { output, code, tables }

/-- Read a block; says whether it is the last. -/
def Frame.readBlock (f : Frame) (maxSize : Nat) : Reading (Frame × Bool) := do
  let header ← number 3
  let size := header / 8
  let isLast := header % 2 = 1
  match header / 2 % 4 with
  | 0 =>
    require (size ≤ maxSize)
    return (f.append (← take size), isLast)
  | 1 =>
    require (size ≤ maxSize)
    let b ← take 1
    return (f.append ⟨Array.replicate size (Bytes.get b 0)⟩, isLast)
  | 2 =>
    require (size ≤ maxSize)
    let f' ← f.readCompressed.of? (← take size)
    require (f'.output.bytes.size ≤ f.output.bytes.size + maxSize)
    return (f', isLast)
  | _ => failure

/-- Read blocks up to the last. -/
def Frame.readBlocks (f : Frame) (maxSize : Nat) : Nat → Reading Frame
  | 0 => failure
  | fuel + 1 => do
    let (f, isLast) ← f.readBlock maxSize
    if isLast then return f else readBlocks f maxSize fuel

/-- Read a frame after its mark. -/
def readFrame : Reading ByteArray := do
  let header ← readFrameHeader
  let f ← Frame.readBlocks {} (min header.window maxBlockSize) ((← get).data.size + 1)
  let bytes := f.output.bytes
  require (header.size?.all (· = bytes.size))
  if header.hasCheck then require ((← number 4) = (XxHash.compute bytes).toNat % 2 ^ 32)
  return bytes

/-- Number that begins a frame. -/
def frameMark : Nat := 0xFD2FB528

/-- The first of sixteen numbers that begin a frame to be skipped. -/
def skippedMark : Nat := 0x184D2A50

/-- Read a frame with its mark; one that is to be skipped has no contents. -/
def readAnyFrame : Reading ByteArray := do
  let mark ← number 4
  if mark = frameMark then readFrame
  else
    require (mark / 16 = skippedMark / 16)
    let _ ← take (← number 4)
    return .empty

/-- Read frames up to the end of the data. -/
def readFrames (output : ByteArray) : Nat → Reading ByteArray
  | 0 => failure
  | fuel + 1 => do
    let output := output ++ (← readAnyFrame)
    if ← atEnd then return output else readFrames output fuel

/-- The bytes that were compressed. -/
def decompress (data : ByteArray) : Option ByteArray :=
  (readFrames .empty (data.size + 1)).of? data

end BankedZ80.Zstandard
