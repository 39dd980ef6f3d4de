import BankedZ80.Proofs.Memory.Banks

/-!
# Blocks of memory

A block is stored and read byte by byte, and each byte goes by its own cell: the block may cross into
the upper half or wrap at the end of the address space. What a byte of RAM holds afterwards is what was
written there last (`WholePages.contents_loadAt_of_last`), so a block is read back as it was stored
unless two of its addresses share a cell. Two addresses under one bank id do so only where the window
shows the page of the upper half, and they are then half of the address space apart (`cell_eq_cell`);
there a longer block overwrites itself (`WholePages.read_loadAt_of_common`).

`Memory.blocks_faithful` puts these together.
-/

namespace BankedZ80

namespace Memory

variable {m : Memory}

/-! ### Addresses in a row -/

theorem add_toUInt16_add (address : UInt16) (j k : Nat) :
    address + (j + k).toUInt16 = address + j.toUInt16 + k.toUInt16 := by
  rw [Nat.toUInt16_eq, Nat.toUInt16_eq, Nat.toUInt16_eq, UInt16.ofNat_add, UInt16.add_assoc]

/-- The address after a byte is the first of those that follow. -/
theorem add_toUInt16_succ (address : UInt16) (k : Nat) :
    address + (k + 1).toUInt16 = address + 1 + k.toUInt16 := by
  rw [Nat.add_comm, add_toUInt16_add]
  rfl

theorem toNat_add_toUInt16 (address : UInt16) (k : Nat) :
    (address + k.toUInt16).toNat = (address.toNat + k) % 0x10000 := by
  rw [UInt16.toNat_add, Nat.toUInt16_eq, UInt16.toNat_ofNat', Nat.add_mod_mod]

/-- No address comes again before the address space is through. -/
theorem add_toUInt16_ne (address : UInt16) {j k : Nat} (before : j < k) (near : k - j < 0x10000) :
    address + j.toUInt16 ≠ address + k.toUInt16 := by
  intro same
  have numbers := congrArg UInt16.toNat same
  rw [toNat_add_toUInt16, toNat_add_toUInt16] at numbers
  omega

/-! ### Storing and reading -/

@[simp] theorem bank_loadAt (m : Memory) (address : UInt16) (bytes : List UInt8) :
    (m.loadAt address bytes).bank = m.bank := by
  induction bytes generalizing m address with
  | nil => rfl
  | cons v rest ih => rw [loadAt, ih, write_bank]

/-- Bytes that follow each other are stored in one piece. -/
theorem loadAt_append (m : Memory) (address : UInt16) (bytes bytes' : List UInt8) :
    m.loadAt address (bytes ++ bytes') =
      (m.loadAt address bytes).loadAt (address + bytes.length.toUInt16) bytes' := by
  induction bytes generalizing m address with
  | nil => exact congrArg (m.loadAt · bytes') (UInt16.add_zero address).symm
  | cons v rest ih =>
      rw [List.cons_append, loadAt, ih, List.length_cons, add_toUInt16_succ]
      rfl

/-- Bytes that follow each other are read in one piece. -/
theorem readBlock_add (m : Memory) (address : UInt16) (length length' : Nat) :
    m.readBlock address (length + length') =
      m.readBlock address length ++ m.readBlock (address + length.toUInt16) length' := by
  simp only [readBlock, List.range_add, List.map_append, List.map_map, Function.comp_def,
    add_toUInt16_add]

/-- A write changes the byte at its own location, if any. -/
theorem byteAt_write (m : Memory) (address : UInt16) (v : UInt8) (l : Location) :
    (m.write address v).byteAt l = m.byteAt l ∨ l = m.locate m.bank address := by
  unfold write
  cases located : m.locate m.bank address with
  | rom i => exact .inl rfl
  | openBus => exact .inl rfl
  | ram i =>
      cases l with
      | rom j => exact .inl rfl
      | openBus => exact .inl rfl
      | ram j =>
          by_cases here : i = j
          · exact .inr (congrArg Location.ram here.symm)
          · refine .inl ?_
            show Bytes.get (Bytes.put m.ram i v) j = Bytes.get m.ram j
            rw [Bytes.get_put, if_neg fun both => here both.1]

/-- Writing some bytes changes the bytes at their locations alone. By induction on the bytes: a write
leaves every address where it leads. -/
theorem byteAt_loadAt (m : Memory) (address : UInt16) (bytes : List UInt8) (l : Location) :
    (m.loadAt address bytes).byteAt l = m.byteAt l ∨
      ∃ k < bytes.length, l = m.locate m.bank (address + k.toUInt16) := by
  induction bytes generalizing m address with
  | nil => exact .inl rfl
  | cons v rest ih =>
      rw [loadAt]
      rcases ih (m.write address v) (address + 1) with same | ⟨k, inside, located⟩
      · rcases m.byteAt_write address v l with kept | here
        · exact .inl (same.trans kept)
        · refine .inr ⟨0, Nat.succ_pos rest.length, ?_⟩
          rw [here]
          exact congrArg (m.locate m.bank) (UInt16.add_zero address).symm
      · refine .inr ⟨k + 1, Nat.succ_lt_succ inside, ?_⟩
        rw [located, locate_write, write_bank, add_toUInt16_succ]

/-! ### The last write counts -/

/-- A cell that no byte of the block goes to holds what it did. -/
theorem WholePages.contents_loadAt_of_ne (pages : m.WholePages) {address : UInt16}
    {bytes : List UInt8} {c : Cell} (there : m.HasCell c)
    (other : ∀ k < bytes.length, m.cell m.bank (address + k.toUInt16) ≠ c) :
    (m.loadAt address bytes).contents c = m.contents c := by
  rw [← byteAt_location, ← byteAt_location]
  rcases m.byteAt_loadAt address bytes c.location with same | ⟨k, inside, located⟩
  · exact same
  · rw [pages.locate_eq] at located
    exact absurd (location_inj there (pages.hasCell _ _) located).symm (other k inside)

/-- Anything but RAM holds what it did. -/
theorem contents_loadAt_of_not_ram (m : Memory) (address : UInt16) (bytes : List UInt8) {c : Cell}
    (other : c.isRam = false) : (m.loadAt address bytes).contents c = m.contents c := by
  have rom := (SamePages.loadAt m address bytes).rom
  cases c with
  | ram page offset => cases other
  | rom page offset => rw [contents, rom, contents]
  | nothing => rfl

/-- **A byte of RAM holds what was written there last.** -/
theorem WholePages.contents_loadAt_of_last (pages : m.WholePages) {address : UInt16}
    {first rest : List UInt8} {v : UInt8} {c : Cell} (ram : c.isRam = true)
    (here : m.cell m.bank (address + first.length.toUInt16) = c)
    (last : ∀ j < rest.length, m.cell m.bank (address + (first.length + (j + 1)).toUInt16) ≠ c) :
    (m.loadAt address (first ++ v :: rest)).contents c = v := by
  have before := SamePages.loadAt m address first
  have bank := m.bank_loadAt address first
  rw [loadAt_append, loadAt]
  generalize m.loadAt address first = m' at before bank
  have here' : m'.cell m'.bank (address + first.length.toUInt16) = c := by
    rw [bank, before.cell, here]
  have pages' := before.wholePages pages
  have there : m'.HasCell c := here' ▸ pages'.hasCell _ _
  have written := SamePages.write m' (address + first.length.toUInt16) v
  rw [(written.wholePages pages').contents_loadAt_of_ne (written.hasCell there),
    pages'.contents_write _ v there, if_pos ⟨here', ram⟩]
  intro j inside
  rw [written.cell, before.cell, write_bank, bank, ← add_toUInt16_succ, ← add_toUInt16_add]
  exact last j inside

/-- A block that goes to a byte of RAM reads back there, unless it goes there again. -/
theorem WholePages.read_loadAt (pages : m.WholePages) {address : UInt16} {bytes : List UInt8} {k : Nat}
    (inside : k < bytes.length) (ram : (m.cell m.bank (address + k.toUInt16)).isRam = true)
    (last : ∀ j, k < j → j < bytes.length →
      m.cell m.bank (address + j.toUInt16) ≠ m.cell m.bank (address + k.toUInt16)) :
    (m.loadAt address bytes).read (address + k.toUInt16) = bytes[k] := by
  have stored := SamePages.loadAt m address bytes
  have before : (bytes.take k).length = k := List.length_take_of_le (Nat.le_of_lt inside)
  have after : (bytes.drop (k + 1)).length = bytes.length - (k + 1) := List.length_drop
  have split : bytes = bytes.take k ++ bytes[k] :: bytes.drop (k + 1) := by
    rw [← List.drop_eq_getElem_cons inside, List.take_append_drop]
  rw [(stored.wholePages pages).read_eq, stored.cell, bank_loadAt]
  generalize bytes[k] = v at split
  rw [split]
  refine pages.contents_loadAt_of_last ram (by rw [before]) fun j within => ?_
  rw [before]
  exact last _ (by omega) (by omega)

/-! ### Addresses that share a cell -/

/-- Of two addresses that share a byte of RAM under one id, one is in the upper half and the other in a
window onto the same page. -/
theorem cell_eq_cell {bank : UInt8} {a b : UInt16} (same : m.cell bank a = m.cell bank b)
    (ram : (m.cell bank a).isRam = true) (apart : a ≠ b) :
    0x80 ≤ bank ∧ (bank.toNat - 0x80) % m.ramBanks = m.ramBanks - 1 ∧
      (a.toNat = b.toNat + pageSize ∨ b.toNat = a.toNat + pageSize) := by
  have numbers : a.toNat ≠ b.toNat := fun equal => apart (UInt16.toNat_inj.1 equal)
  have ramBank {x : UInt16} (lower : x.toNat < pageSize) (isRam : (m.cell bank x).isRam = true) :
      0x80 ≤ bank := ((m.isRam_cell_iff bank x).1 isRam).resolve_left (Nat.not_le_of_lt lower)
  rcases Nat.lt_or_ge a.toNat pageSize with lower | upper <;>
    rcases Nat.lt_or_ge b.toNat pageSize with lower' | upper'
  · have id := ramBank lower ram
    rw [m.cell_of_ramBank id lower, m.cell_of_ramBank id lower'] at same
    exact absurd (Cell.ram.inj same).2 numbers
  · have id := ramBank lower ram
    rw [m.cell_of_ramBank id lower, m.cell_of_upper bank upper'] at same
    obtain ⟨page, offset⟩ := Cell.ram.inj same
    exact ⟨id, page, .inr (by omega)⟩
  · have id := ramBank lower' (same ▸ ram)
    rw [m.cell_of_upper bank upper, m.cell_of_ramBank id lower'] at same
    obtain ⟨page, offset⟩ := Cell.ram.inj same
    exact ⟨id, page.symm, .inl (by omega)⟩
  · rw [m.cell_of_upper bank upper, m.cell_of_upper bank upper'] at same
    have offset := (Cell.ram.inj same).2
    exact absurd (by omega) numbers

/-- In a window onto the page of the upper half, addresses that are half of the address space apart share
a cell. -/
theorem cell_add_half {bank : UInt8} (id : 0x80 ≤ bank)
    (common : (bank.toNat - 0x80) % m.ramBanks = m.ramBanks - 1) (address : UInt16) :
    m.cell bank (address + 0x8000) = m.cell bank address := by
  have address_lt := address.toNat_lt
  rcases Nat.lt_or_ge address.toNat pageSize with lower | upper
  · rw [m.cell_upper bank lower, m.cell_of_ramBank id lower, common]
  · have folded : (address + 0x8000).toNat = address.toNat - pageSize := by
      unfold pageSize at *
      simp only [UInt16.toNat_add, UInt16.reduceToNat]
      omega
    have lower : (address + 0x8000).toNat < pageSize := by
      rw [folded]
      unfold pageSize
      omega
    rw [m.cell_of_ramBank id lower, common, folded, m.cell_of_upper bank upper]

/-! ### Reading back -/

/-- The byte that the ROM window shows at an address of the lower half; nothing reads as `0xFF`. -/
def romWindow (m : Memory) (address : UInt16) : UInt8 :=
  if m.rom.size = 0 then 0xFF
  else Bytes.get m.rom (m.bank.toNat % m.romBanks * pageSize + address.toNat)

theorem contents_cell_romBank (id : m.bank < 0x80) {address : UInt16}
    (lower : address.toNat < pageSize) : m.contents (m.cell m.bank address) = m.romWindow address := by
  rw [m.cell_of_romBank id lower, romWindow]
  split <;> rfl

theorem length_readBlock (m : Memory) (address : UInt16) (length : Nat) :
    (m.readBlock address length).length = length := by
  rw [readBlock, List.length_map, List.length_range]

theorem getElem_readBlock (m : Memory) (address : UInt16) {length k : Nat}
    (h : k < (m.readBlock address length).length) :
    (m.readBlock address length)[k] = m.read (address + k.toUInt16) := by
  simp only [readBlock, List.getElem_map, List.getElem_range]

/-- In a RAM bank all of a block is read back that does not come to the same page twice. -/
theorem WholePages.readBlock_loadAt_of_ramBank (pages : m.WholePages) (address : UInt16)
    (id : 0x80 ≤ m.bank) {bytes : List UInt8} (bound : bytes.length ≤ 0x8000 ∨
      bytes.length ≤ 0x10000 ∧ (m.bank.toNat - 0x80) % m.ramBanks ≠ m.ramBanks - 1) :
    (m.loadAt address bytes).readBlock address bytes.length = bytes := by
  refine List.ext_getElem (length_readBlock _ _ _) fun k _ inside => ?_
  have ram := (m.isRam_cell_iff m.bank (address + k.toUInt16)).2 (.inr id)
  rw [getElem_readBlock]
  refine pages.read_loadAt inside ram fun j after within same => ?_
  have apart := add_toUInt16_ne address after (by omega)
  obtain ⟨-, common, half⟩ := cell_eq_cell same.symm ram apart
  rw [toNat_add_toUInt16, toNat_add_toUInt16] at half
  rcases bound with short | ⟨-, other⟩
  · unfold pageSize at half
    omega
  · exact other common

/-- **Half of the address space is the bound** where the window shows the page of the upper half: there
the bytes of a longer block overwrite those that came half of the address space earlier. -/
theorem WholePages.read_loadAt_of_common (pages : m.WholePages) (address : UInt16)
    (id : 0x80 ≤ m.bank) (common : (m.bank.toNat - 0x80) % m.ramBanks = m.ramBanks - 1)
    {bytes : List UInt8} (bound : bytes.length ≤ 0x10000) {k : Nat}
    (inside : k + 0x8000 < bytes.length) :
    (m.loadAt address bytes).read (address + k.toUInt16) = bytes[k + 0x8000] := by
  have later : address + (k + 0x8000).toUInt16 = address + k.toUInt16 + 0x8000 :=
    add_toUInt16_add address k 0x8000
  have loaded := SamePages.loadAt m address bytes
  have shared : (m.loadAt address bytes).read (address + k.toUInt16) =
      (m.loadAt address bytes).read (address + (k + 0x8000).toUInt16) := by
    rw [(loaded.wholePages pages).read_eq, (loaded.wholePages pages).read_eq, loaded.cell,
      loaded.cell, bank_loadAt, later, cell_add_half id common]
  rw [shared]
  refine pages.read_loadAt inside ((m.isRam_cell_iff _ _).2 (.inr id)) fun j after within same => ?_
  have apart := add_toUInt16_ne address after (by omega)
  obtain ⟨-, -, half⟩ := cell_eq_cell same.symm ((m.isRam_cell_iff _ _).2 (.inr id)) apart
  rw [toNat_add_toUInt16, toNat_add_toUInt16] at half
  unfold pageSize at half
  omega

/-- In a ROM bank it is read back from the upper half alone. -/
theorem WholePages.readBlock_loadAt_of_romBank (pages : m.WholePages) (address : UInt16)
    (id : m.bank < 0x80) {bytes : List UInt8} (bound : bytes.length ≤ 0x10000) :
    (m.loadAt address bytes).readBlock address bytes.length = bytes.mapIdx fun k v =>
      if pageSize ≤ (address + k.toUInt16).toNat then v else m.romWindow (address + k.toUInt16) := by
  refine List.ext_getElem (by rw [length_readBlock, List.length_mapIdx]) fun k stored inside => ?_
  rw [length_readBlock] at stored
  rw [getElem_readBlock, List.getElem_mapIdx]
  split
  · next upper =>
    have ram := (m.isRam_cell_iff m.bank _).2 (.inl upper)
    refine pages.read_loadAt stored ram fun j after within same => ?_
    have apart := add_toUInt16_ne address after (by omega)
    exact absurd (cell_eq_cell same.symm ram apart).1 (UInt8.not_le.2 id)
  · next lower =>
    have loaded := SamePages.loadAt m address bytes
    have other : (m.cell m.bank (address + k.toUInt16)).isRam = false :=
      Bool.eq_false_iff.2 fun ram =>
        ((m.isRam_cell_iff _ _).1 ram).elim lower (UInt8.not_le.2 id)
    rw [(loaded.wholePages pages).read_eq, loaded.cell, bank_loadAt,
      contents_loadAt_of_not_ram _ _ _ other, contents_cell_romBank id (Nat.lt_of_not_le lower)]

/-- A memory stores blocks from an address on and reads them back. -/
structure FaithfulBlocks (m : Memory) (address : UInt16) : Prop where
  /-- Blocks that follow each other are stored in one piece, also around the end of the address space. -/
  append : ∀ first second, m.loadAt address (first ++ second) =
    (m.loadAt address first).loadAt (address + first.length.toUInt16) second
  /-- In a RAM bank a block of up to half of the address space is read back, and one of up to all of it
  if the window does not show the page of the upper half. -/
  ram : 0x80 ≤ m.bank → ∀ bytes : List UInt8, (bytes.length ≤ 0x8000 ∨ bytes.length ≤ 0x10000 ∧
      (m.bank.toNat - 0x80) % m.ramBanks ≠ m.ramBanks - 1) →
    (m.loadAt address bytes).readBlock address bytes.length = bytes
  /-- In a ROM bank, or without ROM, so are its bytes in the upper half; the others are the ROM's. -/
  rom : m.bank < 0x80 → ∀ bytes : List UInt8, bytes.length ≤ 0x10000 →
    (m.loadAt address bytes).readBlock address bytes.length = bytes.mapIdx fun k v =>
      if pageSize ≤ (address + k.toUInt16).toNat then v else m.romWindow (address + k.toUInt16)
  /-- A byte of RAM that no address of the block leads to is as before. -/
  untouched : ∀ (bytes : List UInt8) (i : Nat),
    (∀ k < bytes.length, m.locate m.bank (address + k.toUInt16) ≠ .ram i) →
      Bytes.get (m.loadAt address bytes).ram i = Bytes.get m.ram i
  /-- So are the number of RAM pages, the ROM and the selected bank. -/
  pages : ∀ bytes, SamePages m (m.loadAt address bytes) ∧ (m.loadAt address bytes).bank = m.bank

/-- **What is stored is read back**, from any address on and as far as no byte of it is overwritten by a
later one, and nothing else changes. -/
theorem blocks_faithful (pages : m.WholePages) (address : UInt16) : m.FaithfulBlocks address where
  append := m.loadAt_append address
  ram id _ bound := pages.readBlock_loadAt_of_ramBank address id bound
  rom id _ bound := pages.readBlock_loadAt_of_romBank address id bound
  untouched bytes i other := by
    rcases m.byteAt_loadAt address bytes (.ram i) with same | ⟨k, inside, located⟩
    · exact same
    · exact absurd located.symm (other k inside)
  pages bytes := ⟨SamePages.loadAt m address bytes, m.bank_loadAt address bytes⟩

/-- A block across the middle of the address space. -/
theorem threePages_blocks : threePages.WholePages ∧ threePages.FaithfulBlocks 0x7FFE := by
  have pages : threePages.WholePages := threePages_wellFormed.wholePages
  exact ⟨pages, blocks_faithful pages 0x7FFE⟩

end Memory

end BankedZ80
