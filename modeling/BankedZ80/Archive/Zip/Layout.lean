import BankedZ80.Bytes

/-!
# Numbers and signatures of a ZIP archive

Numbers stand with their low byte first, and every record begins with a signature of four bytes, `PK`
and two more that name its kind.
-/

namespace BankedZ80.Zip

/-- A number of sixteen bits. -/
def word16 (b : ByteArray) (i : Nat) : Nat := Bytes.number b i 2

/-- A number of 32 bits. -/
def word32 (b : ByteArray) (i : Nat) : Nat := Bytes.number b i 4

/-- A number of 64 bits. -/
def word64 (b : ByteArray) (i : Nat) : Nat := Bytes.number b i 8

/-- The largest number of sixteen bits, which sends the reader to a wider field. -/
def full16 : Nat := 0xFFFF

/-- The largest number of 32 bits, which sends the reader to a wider field. -/
def full32 : Nat := 0xFFFFFFFF

/-- The kinds of records. -/
inductive RecordKind where
  /-- In front of the contents of an entry. -/
  | localHeader
  /-- For an entry, in the directory. -/
  | directoryHeader
  | endRecord
  /-- An end record whose numbers have 64 bits. -/
  | wideEndRecord
  /-- In front of the end record; tells where the wide one is. -/
  | locator
deriving DecidableEq, Repr

/-- The last two bytes of the signature, as a number. -/
def RecordKind.code : RecordKind → Nat
  | .localHeader => 0x0403
  | .directoryHeader => 0x0201
  | .endRecord => 0x0605
  | .wideEndRecord => 0x0606
  | .locator => 0x0706

/-- Length of a record without its texts and fields. -/
def RecordKind.length : RecordKind → Nat
  | .localHeader => 30
  | .directoryHeader => 46
  | .endRecord => 22
  | .wideEndRecord => 56
  | .locator => 20

/-- Does a signature stand at a position? -/
def hasSignature (b : ByteArray) (i : Nat) (kind : RecordKind) : Bool :=
  i + 4 ≤ b.size && word16 b i == 0x4B50 && word16 b (i + 2) == kind.code

/-- Does a record of some kind begin at a position, with the fixed part of it inside the file? -/
def hasRecord (b : ByteArray) (i : Nat) (kind : RecordKind) : Bool :=
  i + kind.length ≤ b.size && hasSignature b i kind

end BankedZ80.Zip
