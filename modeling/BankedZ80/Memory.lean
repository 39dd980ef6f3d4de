import BankedZ80.Bytes
import BankedZ80.Error
import BankedZ80.Word

/-!
# Banked memory

The processor sees 64 KiB. Its lower half is a window onto one physical page, chosen by the bank id;
its upper half is always the last RAM page.

* **Bank ids.** Below `0x80` an id names a ROM page, from `0x80` on a RAM page; ids past the number of
  pages start again from the first.
* **Locations.** `Memory.locate` says which physical byte an address designates. Reading and writing
  are defined through it, so two addresses share a byte exactly when they have the same location.
* **Writes** to ROM, or where there is no ROM, are dropped; reads where nothing answers give `0xFF`.
-/

namespace BankedZ80

/-- Bytes in one page, which is half of the address space. -/
def pageSize : Nat := 0x8000

/-- Where in the physical memory an address leads. -/
inductive Location where
  | rom (index : Nat)
  | ram (index : Nat)
  /-- Nothing answers. -/
  | openBus
deriving DecidableEq, Repr

/-- ROM and RAM pages and the selected bank. -/
@[ext] structure Memory where
  rom : ByteArray := .empty
  ram : ByteArray
  bank : UInt8 := 0
deriving DecidableEq

namespace Memory

/-- The value read where nothing answers. -/
def openBusByte : UInt8 := 0xFF

/-- Memory without ROM and with the given number of RAM bytes, but at least two pages. -/
def new (ramSize : Nat) : Memory where
  ram := Bytes.zeros (max (ramSize / pageSize) 2 * pageSize)

/-- Number of ROM pages. -/
def romBanks (m : Memory) : Nat := m.rom.size / pageSize

/-- Number of RAM pages. -/
def ramBanks (m : Memory) : Nat := m.ram.size / pageSize

/-- Is there a ROM? -/
def hasRom (m : Memory) : Bool := m.rom.size != 0

/-- Bank id of the page in the upper half. -/
def commonBank (m : Memory) : UInt8 := 0x80 ||| (m.ramBanks - 1).toUInt8

/-- Whole pages, and at least two of RAM and at most as many as there are bank ids. -/
structure WellFormed (m : Memory) : Prop where
  rom_pages : m.rom.size % pageSize = 0
  ram_pages : m.ram.size % pageSize = 0
  two_le_ramBanks : 2 ≤ m.ramBanks
  ramBanks_le : m.ramBanks ≤ 128

/-- The physical byte that an address designates under a bank id. -/
def locate (m : Memory) (bank : UInt8) (address : UInt16) : Location :=
  let offset := address.toNat
  if offset ≥ pageSize then .ram (m.ram.size - pageSize + (offset - pageSize))
  else if bank ≥ 0x80 then .ram ((bank.toNat - 0x80) % m.ramBanks * pageSize + offset)
  else if m.rom.size = 0 then .openBus
  else .rom (bank.toNat % m.romBanks * pageSize + offset)

/-- The byte at a location. -/
def byteAt (m : Memory) : Location → UInt8
  | .rom i => Bytes.get m.rom i
  | .ram i => Bytes.get m.ram i
  | .openBus => openBusByte

/-- Read a byte through the selected bank. -/
def read (m : Memory) (address : UInt16) : UInt8 := m.byteAt (m.locate m.bank address)

/-- Write a byte through the selected bank. -/
def write (m : Memory) (address : UInt16) (v : UInt8) : Memory :=
  match m.locate m.bank address with
  | .ram i => { m with ram := Bytes.put m.ram i v }
  | _ => m

/-- Write bytes one after another from an address on, wrapping at the end of the address space. -/
def loadAt (m : Memory) (address : UInt16) : List UInt8 → Memory
  | [] => m
  | v :: rest => (m.write address v).loadAt (address + 1) rest

/-- The bytes from an address on, wrapping at the end of the address space. -/
def readBlock (m : Memory) (address : UInt16) (length : Nat) : List UInt8 :=
  (List.range length).map fun k => m.read (address + k.toUInt16)

/-- Map a bank into the lower half. -/
def selectBank (m : Memory) (bank : UInt8) : Memory := { m with bank := bank }

/-- Check the length of a ROM image: some whole pages, within the limit. -/
def checkRomSize (length limit : Nat) : Except MachineError Unit :=
  if length = 0 ∨ length % pageSize ≠ 0 ∨ length > limit then
    .error (.invalidRomSize length limit)
  else .ok ()

/-- Replace the ROM image; an image of a wrong length is refused. -/
def loadRom (m : Memory) (image : ByteArray) (limit : Nat) : Except MachineError Memory := do
  checkRomSize image.size limit
  return { m with rom := image }

/-- Select the first ROM page, and zero the RAM if asked to. -/
def reset (m : Memory) (clearRam : Bool) : Memory :=
  if clearRam then { m with bank := 0, ram := Bytes.zeros m.ram.size } else { m with bank := 0 }

/-! ### What reads and writes leave alone -/

@[simp] theorem write_rom (m : Memory) (a : UInt16) (v : UInt8) : (m.write a v).rom = m.rom := by
  unfold write; split <;> rfl

@[simp] theorem write_bank (m : Memory) (a : UInt16) (v : UInt8) : (m.write a v).bank = m.bank := by
  unfold write; split <;> rfl

@[simp] theorem size_write_ram (m : Memory) (a : UInt16) (v : UInt8) :
    (m.write a v).ram.size = m.ram.size := by
  unfold write; split <;> simp

@[simp] theorem locate_write (m : Memory) (a : UInt16) (v : UInt8) (bank : UInt8) (b : UInt16) :
    (m.write a v).locate bank b = m.locate bank b := by
  simp [locate, ramBanks, romBanks]

end Memory

end BankedZ80
