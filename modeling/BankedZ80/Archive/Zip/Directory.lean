import BankedZ80.Archive.Zip.Header

/-!
# The directory of a ZIP archive

The end record is searched from the back, so that bytes after it do no harm; bytes in front of the
archive shift all of its positions, and the first directory header at or after its stated position
tells by how much. An archive too large for the numbers of its end record has a wide one, to which a
locator in front of the end record leads.

An end record that does not lead to a sound directory is passed over: `headers?` gives the headers
of the last one that does.
-/

namespace BankedZ80.Zip

/-- The record at the end of an archive. -/
structure EndRecord where
  position : Nat
  disk : Nat
  directoryDisk : Nat
  /-- Entries on this disk, and in all. -/
  count : Nat
  totalCount : Nat
  /-- Stated position of the directory. -/
  directory : Nat
deriving DecidableEq, Repr

/-- The end record at a position, its comment within the file. -/
def EndRecord.at? (b : ByteArray) (i : Nat) : Option EndRecord :=
  if hasRecord b i .endRecord && i + RecordKind.endRecord.length + word16 b (i + 20) ≤ b.size then
    some {
      position := i
      disk := word16 b (i + 4)
      directoryDisk := word16 b (i + 6)
      count := word16 b (i + 8)
      totalCount := word16 b (i + 10)
      directory := word32 b (i + 16) }
  else none

/-- The record that leads to a wide end record. -/
structure Locator where
  position : Nat
  directoryDisk : Nat
  /-- Stated position of the wide end record. -/
  record : Nat
  disks : Nat
deriving DecidableEq, Repr

/-- The locator right before a position. -/
def Locator.before? (b : ByteArray) (i : Nat) : Option Locator :=
  let position := i - RecordKind.locator.length
  if RecordKind.locator.length ≤ i && hasRecord b position .locator then
    some {
      position
      directoryDisk := word32 b (position + 4)
      record := word64 b (position + 8)
      disks := word32 b (position + 16) }
  else none

/-- An end record with wide numbers. -/
structure WideEndRecord where
  position : Nat
  /-- Length of the record after this number. -/
  length : Nat
  /-- Versions of the format: of the writer, and for the reader. -/
  writtenBy : Nat
  needed : Nat
  disk : Nat
  directoryDisk : Nat
  /-- Entries on this disk, and in all. -/
  count : Nat
  totalCount : Nat
  /-- Stated position of the directory. -/
  directory : Nat
deriving DecidableEq, Repr

/-- The wide end record at a position. -/
def WideEndRecord.at? (b : ByteArray) (i : Nat) : Option WideEndRecord :=
  if hasRecord b i .wideEndRecord then
    some {
      position := i
      length := word64 b (i + 4)
      writtenBy := word16 b (i + 12)
      needed := word16 b (i + 14)
      disk := word32 b (i + 16)
      directoryDisk := word32 b (i + 20)
      count := word64 b (i + 24)
      totalCount := word64 b (i + 32)
      directory := word64 b (i + 48) }
  else none

/-- Does a wide end record reach to its locator, agree with it and leave room for its headers? -/
def WideEndRecord.fits (r : WideEndRecord) (l : Locator) : Bool :=
  RecordKind.wideEndRecord.length ≤ r.length + 12
    && r.position + 12 + r.length = l.position
    && r.directoryDisk = l.directoryDisk
    && r.totalCount * RecordKind.directoryHeader.length + r.directory ≤ r.position

/-- The first wide end record that fits a locator, among that many positions. -/
def WideEndRecord.first? (b : ByteArray) (l : Locator) (i : Nat) : Nat → Option WideEndRecord
  | 0 => none
  | n + 1 =>
    match (WideEndRecord.at? b i).filter (·.fits l) with
    | some r => some r
    | none => first? b l (i + 1) n

/-- The first of that many positions at which a directory header stands. -/
def firstHeader? (b : ByteArray) (i : Nat) : Nat → Option Nat
  | 0 => none
  | n + 1 => if hasSignature b i .directoryHeader then some i else firstHeader? b (i + 1) n

/-- Where a directory really begins, how far that is from the stated position, and how many headers
it has. -/
structure Location where
  start : Nat
  shift : Nat
  count : Nat
deriving DecidableEq, Repr

/-- The directory by a wide end record. -/
def Locator.location? (b : ByteArray) (l : Locator) : Option Location :=
  if 1 < l.disks then none
  else do
    let r ← WideEndRecord.first? b l l.record (l.position - l.record)
    let shift := r.position - l.record
    if r.count ≤ r.totalCount ∧ r.needed ≤ r.writtenBy ∧ r.disk = r.directoryDisk then
      some { start := r.directory + shift, shift, count := r.totalCount }
    else none

/-- The directory by the end record alone. Without entries there is no header to look for, and the
directory ends up at the end record. -/
def EndRecord.plainLocation? (b : ByteArray) (r : EndRecord) : Option Location :=
  let found (start : Nat) : Location := { start, shift := start - r.directory, count := r.count }
  if r.disk ≠ r.directoryDisk then none
  else if r.totalCount = 0 then some (found (max r.directory r.position))
  else (firstHeader? b r.directory (r.position - r.directory)).map found

/-- The directory to which an end record leads, through a locator if one of its numbers is full. -/
def EndRecord.location? (b : ByteArray) (r : EndRecord) : Option Location :=
  if r.totalCount = full16 ∨ r.directory = full32 then
    match Locator.before? b r.position with
    | some l => l.location? b
    | none => r.plainLocation? b
  else r.plainLocation? b

/-- That many headers from a position on. Each entry starts before the directory. -/
def Location.headersFrom? (b : ByteArray) (l : Location) (i : Nat) : Nat → Option (List Header)
  | 0 => some []
  | count + 1 => do
    let (stored, next) ← Header.at? b i
    let header := { stored with start := stored.start + l.shift }
    if header.start < l.start then return header :: (← l.headersFrom? b next count)
    else none

/-- The headers to which an end record leads. -/
def EndRecord.headers? (b : ByteArray) (r : EndRecord) : Option (List Header) := do
  let location ← r.location? b
  location.headersFrom? b location.start location.count

/-- The headers to which the last end record before a position leads, of those that lead to any. -/
def headersBefore? (b : ByteArray) : Nat → Option (List Header)
  | 0 => none
  | i + 1 =>
    match (EndRecord.at? b i).bind (EndRecord.headers? b) with
    | some headers => some headers
    | none => headersBefore? b i

/-- The headers of an archive. -/
def headers? (b : ByteArray) : Option (List Header) := headersBefore? b b.size

end BankedZ80.Zip
