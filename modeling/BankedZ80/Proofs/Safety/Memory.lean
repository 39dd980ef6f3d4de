import BankedZ80.Proofs.Memory.Banks
import BankedZ80.Proofs.Safety.Checked

/-!
# The memory does not crash

In a well-formed memory every address leads to a byte that is there (`WellFormed.locate_inside`), so
the checked programs compute what the memory's own do. A new memory is well-formed, and a new ROM image
leaves one so.
-/

namespace BankedZ80

namespace Memory

open Checked

variable {m : Memory}

/-! ### Pages -/

/-- A ROM image that is accepted comes in whole pages. -/
theorem WellFormed.setRom (wf : m.WellFormed) {image : ByteArray} {limit : Nat}
    (ok : checkRomSize image.size limit = .ok ()) : WellFormed { m with rom := image } := by
  refine ⟨?_, wf.ram_pages, wf.two_le_ramBanks, wf.ramBanks_le⟩
  unfold checkRomSize at ok
  split at ok
  · cases ok
  · next legal => exact Decidable.of_not_not (not_or.1 (not_or.1 legal).2).1

theorem wellFormed_new {ramSize : Nat} (pages : ramSize % pageSize = 0)
    (two_pages : 2 * pageSize ≤ ramSize) (le : ramSize ≤ 128 * pageSize) :
    (new ramSize).WellFormed ∧ (new ramSize).ram.size = ramSize := by
  have size : (new ramSize).ram.size = ramSize := by
    rw [new, Bytes.size_zeros]
    unfold pageSize at pages two_pages ⊢
    omega
  have le_banks : ramSize / pageSize ≤ 128 := Nat.div_le_of_le_mul (by rwa [Nat.mul_comm])
  have none : (new ramSize).rom.size = 0 * pageSize := rfl
  exact ⟨wellFormed_of_size none (Bytes.size_zeros _) (Nat.le_max_right _ 2)
    (Nat.max_le.2 ⟨le_banks, by decide⟩), size⟩

/-! ### Locations -/

/-- A location is there. -/
def Holds (m : Memory) : Location → Prop
  | .rom i => i < m.rom.size
  | .ram i => i < m.ram.size
  | .openBus => True

/-- Where an address leads, page by page. -/
def locateM (m : Memory) (bank : UInt8) (address : UInt16) : Checked Location := do
  let offset := address.toNat
  if offset ≥ pageSize then
    let common ← sub m.ram.size pageSize
    let past ← add 64 common offset
    return .ram (← sub past pageSize)
  else if bank ≥ 0x80 then
    let page ← mod (bank.toNat - 0x80) m.ramBanks
    let base ← mul 64 page pageSize
    return .ram (← add 64 base offset)
  else if m.rom.size = 0 then return .openBus
  else
    let page ← mod bank.toNat m.romBanks
    let base ← mul 64 page pageSize
    return .rom (← add 64 base offset)

/-- A bank id and an offset make an index that fits 64 bits. -/
theorem index_lt {page offset : Nat} (h : page < 128) (inside : offset < pageSize) :
    page * pageSize < 2 ^ 64 ∧ page * pageSize + offset < 2 ^ 64 := by
  unfold pageSize at *
  omega

theorem locateM_eq (wf : m.WellFormed) (bank : UInt8) (address : UInt16) :
    m.locateM bank address = .ok (m.locate bank address) := by
  have size := wf.wholePages.ram_size
  have two := wf.two_le_ramBanks
  have le := wf.ramBanks_le
  have bank_lt := bank.toNat_lt
  have address_lt := address.toNat_lt
  unfold locateM locate
  dsimp only
  split
  · next upper =>
    have common : pageSize ≤ m.ram.size := by
      rw [size]
      exact Nat.le_mul_of_pos_left pageSize (by omega)
    have past : m.ram.size - pageSize + address.toNat < 2 ^ 64 := by
      unfold pageSize at *
      omega
    rw [sub_eq common, ok_bind, add_eq past, ok_bind, sub_eq (by omega), ok_bind,
      Nat.add_sub_assoc upper]
    rfl
  · next lower =>
    have inside : address.toNat < pageSize := Nat.lt_of_not_le lower
    split
    · have page : (bank.toNat - 0x80) % m.ramBanks < 128 :=
        Nat.lt_of_lt_of_le (Nat.mod_lt _ (by omega)) le
      obtain ⟨base, index⟩ := index_lt page inside
      rw [mod_eq (by omega), ok_bind, mul_eq base, ok_bind, add_eq index]
      rfl
    · next rom_bank =>
      split
      · rfl
      · next rom =>
        have page : bank.toNat % m.romBanks < 128 := by
          have id_lt : bank.toNat < 128 := Nat.lt_of_not_le rom_bank
          exact Nat.lt_of_le_of_lt (Nat.mod_le _ _) id_lt
        obtain ⟨base, index⟩ := index_lt page inside
        rw [mod_eq (wf.wholePages.romBanks_pos rom), ok_bind, mul_eq base, ok_bind, add_eq index]
        rfl

/-- **Every address leads to a byte that is there.** -/
theorem WellFormed.locate_inside (wf : m.WellFormed) (bank : UInt8) (address : UInt16) :
    m.Holds (m.locate bank address) := by
  have pages := wf.wholePages
  have there := pages.hasCell bank address
  rw [pages.locate_eq]
  cases designated : m.cell bank address with
  | ram page offset =>
      rw [designated] at there
      show page * pageSize + offset < m.ram.size
      rw [pages.ram_size]
      exact page_offset_lt there.1 there.2
  | rom page offset =>
      rw [designated] at there
      show page * pageSize + offset < m.rom.size
      rw [pages.rom_size]
      exact page_offset_lt there.1 there.2
  | nothing => trivial

/-! ### Reading and writing -/

/-- The byte at a location. -/
def byteAtM (m : Memory) : Location → Checked UInt8
  | .rom i => get m.rom i
  | .ram i => get m.ram i
  | .openBus => return openBusByte

/-- Read a byte through the selected bank. -/
def readM (m : Memory) (address : UInt16) : Checked UInt8 := do
  m.byteAtM (← m.locateM m.bank address)

/-- Write a byte through the selected bank. -/
def writeM (m : Memory) (address : UInt16) (v : UInt8) : Checked Memory := do
  match ← m.locateM m.bank address with
  | .ram i => return { m with ram := ← put m.ram i v }
  | _ => return m

/-- Write bytes one after another. -/
def loadAtM (m : Memory) (address : UInt16) : List UInt8 → Checked Memory
  | [] => return m
  | v :: rest => do (← m.writeM address v).loadAtM (address + 1) rest

/-- The bytes from an address on. -/
def readBlockM (m : Memory) (address : UInt16) (length : Nat) : Checked (List UInt8) :=
  (List.range length).mapM fun k => m.readM (address + k.toUInt16)

theorem byteAtM_eq {l : Location} (there : m.Holds l) : m.byteAtM l = .ok (m.byteAt l) := by
  cases l with
  | rom i => exact get_eq there
  | ram i => exact get_eq there
  | openBus => rfl

theorem readM_eq (wf : m.WellFormed) (address : UInt16) :
    m.readM address = .ok (m.read address) := by
  rw [readM, locateM_eq wf, ok_bind]
  exact byteAtM_eq (wf.locate_inside m.bank address)

theorem writeM_eq (wf : m.WellFormed) (address : UInt16) (v : UInt8) :
    m.writeM address v = .ok (m.write address v) := by
  have there := wf.locate_inside m.bank address
  rw [writeM, locateM_eq wf, ok_bind, write]
  cases located : m.locate m.bank address with
  | ram i =>
      rw [located] at there
      dsimp only
      rw [put_eq there, ok_bind]
      rfl
  | _ => rfl

theorem loadAtM_eq (wf : m.WellFormed) (address : UInt16) (bytes : List UInt8) :
    m.loadAtM address bytes = .ok (m.loadAt address bytes) := by
  induction bytes generalizing m address with
  | nil => rfl
  | cons v rest ih =>
      rw [loadAtM, writeM_eq wf, ok_bind, ih ((SamePages.write m address v).wellFormed wf)]
      rfl

theorem readBlockM_eq (wf : m.WellFormed) (address : UInt16) (length : Nat) :
    m.readBlockM address length = .ok (m.readBlock address length) :=
  mapM_eq fun k _ => readM_eq wf (address + k.toUInt16)

end Memory

end BankedZ80
