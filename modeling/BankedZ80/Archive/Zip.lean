import BankedZ80.Archive.Bzip2
import BankedZ80.Archive.Deflate
import BankedZ80.Archive.Lzma.Stream
import BankedZ80.Archive.Xz
import BankedZ80.Archive.Zip.Directory
import BankedZ80.Archive.Zstandard
import BankedZ80.Error

/-!
# ZIP archives

`Zip.entries` gives the entries of an archive in the order of its directory; two of the same name
count as one, at the place of the first and with the data of the last. Every entry is read and
checked: a damaged one is a fault of the file, and one that cannot be read at all a fault of the
archive.
-/

namespace BankedZ80.Zip

/-- Headers by name: a name that comes again replaces the header at its first place. -/
def collapse (headers : List Header) : List Header :=
  headers.foldl (fun before h =>
    if before.any (·.name = h.name) then
      before.map fun old => if old.name = h.name then h else old
    else before ++ [h]) []

/-- An entry of an archive: a directory, or a file with its contents. -/
structure Entry where
  name : String
  /-- Absent for a directory. -/
  contents : Option ByteArray
deriving DecidableEq

/-- The stored bytes of an entry, after its local header; there may be fewer than stated. -/
def storedBytes? (b : ByteArray) (h : Header) : Option ByteArray :=
  if hasRecord b h.start .localHeader then
    let start := h.start + RecordKind.localHeader.length + word16 b (h.start + 26)
      + word16 b (h.start + 28)
    some (b.extract start (start + min h.compressedSize b.size))
  else none

/-- How contents are stored. -/
inductive Method where
  | stored
  | deflated (variant : Deflate.Variant)
  | bzip2
  | lzma
  | xz
  | zstandard
deriving DecidableEq, Repr

/-- The method of a number. -/
def Method.ofNat? : Nat → Option Method
  | 0 => some .stored
  | 8 => some (.deflated .plain)
  | 9 => some (.deflated .enhanced)
  | 12 => some .bzip2
  | 14 => some .lzma
  | 93 => some .zstandard
  | 95 => some .xz
  | _ => none

/-- The contents that are stored in some bytes. -/
def Method.contents? (method : Method) (bytes : ByteArray) : Option ByteArray :=
  match method with
  | .stored => some bytes
  | .deflated variant => Deflate.inflate variant bytes
  | .bzip2 => Bzip2.decompress bytes
  | .lzma => Lzma.decompress bytes
  | .xz => Xz.decompress bytes
  | .zstandard => Zstandard.decompress bytes

/-- The contents of an entry, checked. -/
def readEntry (b : ByteArray) (h : Header) : Except MachineError Entry :=
  if h.encrypted || h.underAes then .error .archive
  else match storedBytes? b h, Method.ofNat? h.method with
    | some bytes, some method =>
      if isDirectoryName h.name then .ok { name := h.name, contents := none }
      else match method.contents? bytes with
        | some contents =>
          if (Crc32.compute contents).toNat = h.crc then .ok { name := h.name, contents }
          else .error .file
        | none => .error .file
    | _, _ => .error .archive

/-- All entries of an archive, in the order of its directory. -/
def entries (b : ByteArray) : Except MachineError (List Entry) :=
  match headers? b with
  | none => .error .archive
  | some headers => (collapse headers).mapM (readEntry b)

end BankedZ80.Zip
