import BankedZ80.Archive.Crc32
import BankedZ80.Archive.Zip.Layout
import BankedZ80.Archive.Zip.Name

/-!
# Directory headers of a ZIP archive

What the directory says about an entry: a record of fixed length, a name, a comment, and fields that
amend them. `Header.at?` reads all of it.

Fields are read one after another. The end of their bytes ends them wherever it comes, even in the
middle of a field, and what was read until then counts; a field that breaks its own rules spoils the
header.
-/

namespace BankedZ80.Zip

/-- What the directory says about an entry. -/
structure Header where
  /-- The name as it is stored. -/
  rawName : ByteArray
  name : String
  comment : String
  encrypted : Bool
  /-- Does a field say that the contents are under AES? -/
  underAes : Bool := false
  method : Nat
  crc : Nat
  compressedSize : Nat
  size : Nat
  /-- Position of the local header. -/
  start : Nat
deriving DecidableEq

/-! ### Reading fields -/

/-- Why reading stopped. -/
inductive FieldStop where
  /-- The bytes of the fields ended. -/
  | ended
  /-- A field breaks its rules. -/
  | invalid
deriving DecidableEq, Repr

/-- The bytes of the fields, the position in them, and the header as amended so far. -/
structure FieldReader where
  bytes : ByteArray
  position : Nat := 0
  header : Header

/-- A part of the reading of fields; stopping keeps the amendments. -/
abbrev Amending := EStateM FieldStop FieldReader

namespace Amending

/-- Go on only if a rule is kept. -/
def require (condition : Bool) : Amending Unit :=
  if condition then pure () else throw .invalid

/-- The next bytes. -/
def take (n : Nat) : Amending ByteArray := do
  let r ← get
  if r.position + n ≤ r.bytes.size then
    set { r with position := r.position + n }
    return r.bytes.extract r.position (r.position + n)
  else throw .ended

/-- The next bytes as a number. -/
def next (n : Nat) : Amending Nat := do
  let bytes ← take n
  return Bytes.number bytes 0 n

/-- Amend the header. -/
def amend (change : Header → Header) : Amending Unit :=
  modify fun r => { r with header := change r.header }

/-! ### Fields by kind -/

/-- The next eight bytes take the place of a number that is full, or of any in a field that has all
three of them. The answer is how many bytes were read. -/
def widen (length : Nat) (old : Header → Nat) (change : Nat → Header → Header) : Amending Nat := do
  if 24 ≤ length || old (← get).header = full32 then
    amend (change (← next 8))
    return 8
  else return 0

/-- Sizes and the position in 64 bits. -/
def wideNumbers (length : Nat) : Amending Unit := do
  let size ← widen length (·.size) fun n h => { h with size := n }
  let compressed ← widen length (·.compressedSize) fun n h => { h with compressedSize := n }
  let start ← widen length (·.start) fun n h => { h with start := n }
  let used := size + compressed + start
  require (used ≤ length)
  discard <| take (length - used)

/-- Three times in the form of the NT file system. -/
def fileTimes (length : Nat) : Amending Unit := do
  require (length = 32)
  discard <| take 4
  require ((← next 2) = 1)
  require ((← next 2) = 24)
  discard <| take 24

/-- Times of modification, access and creation; the lowest three bits of the first byte tell which are
there, and no other bit is in use. A field of five bytes has one time, whatever the bits tell. -/
def extendedTimes (length : Nat) : Amending Unit := do
  let flags ← next 1
  require (flags < 8)
  let count := flags % 2 + flags / 2 % 2 + flags / 4 % 2
  require (length = 5 || length = 1 + 4 * count)
  discard <| take (length - 1)

/-- A text in UTF-8 to take the place of one whose check the field holds. It begins with a version, of
which there is only one. -/
def unicodeText (length : Nat) (old : Header → ByteArray) : Amending (ByteArray × String) := do
  discard <| next 1
  let check ← next 4
  require (5 ≤ length)
  let bytes ← take (length - 5)
  require ((Crc32.compute (old (← get).header)).toNat = check)
  match String.fromUTF8? bytes with
  | some text => return (bytes, text)
  | none => throw .invalid

/-- The method of contents that are under AES. -/
def aesMethod (length : Nat) : Amending Unit := do
  require (length = 7)
  let version ← next 2
  let vendor ← next 2
  let strength ← next 1
  let method ← next 2
  require (vendor = 0x4541 && (version = 1 || version = 2) && 1 ≤ strength && strength ≤ 3)
  amend fun h => { h with underAes := true, method }

/-- A field, of the kind that its header names; other kinds do not matter. -/
def field (kind length : Nat) : Amending Unit :=
  match kind with
  | 0x0001 => wideNumbers length
  | 0x000A => fileTimes length
  | 0x5455 => extendedTimes length
  | 0x6375 => do
    let (_, comment) ← unicodeText length (·.comment.toUTF8)
    amend fun h => { h with comment }
  | 0x7075 => do
    let (rawName, name) ← unicodeText length (·.rawName)
    amend fun h => { h with rawName, name }
  | 0x9901 => aesMethod length
  | _ => discard <| take length

/-- All fields to the end of their bytes; each takes four bytes or more. -/
def fields : Nat → Amending Unit
  | 0 => return
  | fuel + 1 => do
    let kind ← next 2
    let length ← next 2
    field kind length
    fields fuel

end Amending

/-- Method of contents under AES, to be named by a field. -/
def aesPlaceholder : Nat := 99

/-- The header with the amendments of its fields. -/
def Header.amended? (h : Header) (fields : ByteArray) : Option Header :=
  let checked (h : Header) : Option Header :=
    if h.method = aesPlaceholder ∧ !h.underAes then none else some h
  match (Amending.fields fields.size).run { bytes := fields, header := h } with
  | .ok _ r => checked r.header
  | .error .ended r => checked r.header
  | .error .invalid _ => none

/-- The directory header at a position, its start still as stored, and the position after it. -/
def Header.at? (b : ByteArray) (i : Nat) : Option (Header × Nat) := do
  let fieldStart := i + RecordKind.directoryHeader.length + word16 b (i + 28)
  let commentStart := fieldStart + word16 b (i + 30)
  let after := commentStart + word16 b (i + 32)
  if hasRecord b i .directoryHeader && after ≤ b.size then
    let flags := word16 b (i + 8)
    let utf8 := flags / 2048 % 2 == 1
    let rawName := b.extract (i + RecordKind.directoryHeader.length) fieldStart
    let header : Header := {
      rawName
      name := storedText utf8 rawName
      comment := storedText utf8 (b.extract commentStart after)
      encrypted := flags % 2 == 1
      method := word16 b (i + 10)
      crc := word32 b (i + 16)
      compressedSize := word32 b (i + 20)
      size := word32 b (i + 24)
      start := word32 b (i + 42) }
    return (← header.amended? (b.extract fieldStart commentStart), after)
  else none

end BankedZ80.Zip
