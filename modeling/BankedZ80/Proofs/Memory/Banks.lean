import BankedZ80.Memory

/-!
# Banks as memory

A bank id and an address designate a `Cell`: a page of RAM or of ROM and an offset within it, or
nothing. `Memory.locate` computes the index of that cell (`WholePages.locate_eq`), and different cells
never share an index (`Memory.location_inj`). So reading after writing depends on the two cells alone:
`Memory.banks_faithful` states it for every bank id and address, together with which page each of them
leads to.
-/

namespace BankedZ80

/-- What a bank id and an address designate. -/
inductive Cell where
  | ram (page offset : Nat)
  | rom (page offset : Nat)
  | nothing
deriving DecidableEq, Repr

namespace Cell

/-- Is it a byte of RAM? -/
def isRam : Cell → Bool
  | ram _ _ => true
  | _ => false

/-- Where the physical memory has it. -/
def location : Cell → Location
  | ram page offset => .ram (page * pageSize + offset)
  | rom page offset => .rom (page * pageSize + offset)
  | nothing => .openBus

end Cell

namespace Memory

/-- The cell that an address designates under a bank id: upper half, RAM page, ROM page. -/
def cell (m : Memory) (bank : UInt8) (address : UInt16) : Cell :=
  if pageSize ≤ address.toNat then .ram (m.ramBanks - 1) (address.toNat - pageSize)
  else if 0x80 ≤ bank then .ram ((bank.toNat - 0x80) % m.ramBanks) address.toNat
  else if m.rom.size = 0 then .nothing
  else .rom (bank.toNat % m.romBanks) address.toNat

/-- What a cell holds; nothing reads as `0xFF`. -/
def contents (m : Memory) : Cell → UInt8
  | .ram page offset => Bytes.get m.ram (page * pageSize + offset)
  | .rom page offset => Bytes.get m.rom (page * pageSize + offset)
  | .nothing => 0xFF

/-- A cell is there. -/
def HasCell (m : Memory) : Cell → Prop
  | .ram page offset => page < m.ramBanks ∧ offset < pageSize
  | .rom page offset => page < m.romBanks ∧ offset < pageSize
  | .nothing => m.rom.size = 0

/-! ### Pages -/

/-- ROM and RAM come in pages, and there is RAM. -/
structure WholePages (m : Memory) : Prop where
  rom_pages : m.rom.size % pageSize = 0
  ram_pages : m.ram.size % pageSize = 0
  ramBanks_pos : 0 < m.ramBanks

variable {m : Memory}

theorem WellFormed.wholePages (wf : m.WellFormed) : m.WholePages where
  rom_pages := wf.rom_pages
  ram_pages := wf.ram_pages
  ramBanks_pos := Nat.lt_of_lt_of_le Nat.two_pos wf.two_le_ramBanks

theorem wellFormed_of_size {roms rams : Nat} (rom : m.rom.size = roms * pageSize)
    (ram : m.ram.size = rams * pageSize) (two : 2 ≤ rams) (le : rams ≤ 128) : m.WellFormed := by
  have banks : m.ramBanks = rams := by
    rw [ramBanks, ram]
    exact Nat.mul_div_cancel rams (by decide)
  refine ⟨?_, ?_, banks ▸ two, banks ▸ le⟩
  · rw [rom]
    exact Nat.mul_mod_left roms pageSize
  · rw [ram]
    exact Nat.mul_mod_left rams pageSize

/-- The pages are as many as before. -/
structure SamePages (m m' : Memory) : Prop where
  rom : m'.rom = m.rom
  ram : m'.ram.size = m.ram.size

namespace SamePages

variable {m' m'' : Memory}

theorem refl (m : Memory) : SamePages m m := ⟨rfl, rfl⟩

theorem trans (h : SamePages m m') (h' : SamePages m' m'') : SamePages m m'' :=
  ⟨h'.rom.trans h.rom, h'.ram.trans h.ram⟩

theorem write (m : Memory) (address : UInt16) (v : UInt8) : SamePages m (m.write address v) :=
  ⟨m.write_rom address v, m.size_write_ram address v⟩

theorem loadAt (m : Memory) (address : UInt16) (bytes : List UInt8) :
    SamePages m (m.loadAt address bytes) := by
  induction bytes generalizing m address with
  | nil => exact refl m
  | cons v rest ih => exact (write m address v).trans (ih _ _)

theorem selectBank (m : Memory) (bank : UInt8) : SamePages m (m.selectBank bank) := ⟨rfl, rfl⟩

theorem reset (m : Memory) (clearRam : Bool) : SamePages m (m.reset clearRam) := by
  unfold Memory.reset
  split
  · exact ⟨rfl, Bytes.size_zeros m.ram.size⟩
  · exact ⟨rfl, rfl⟩

theorem ramBanks (h : SamePages m m') : m'.ramBanks = m.ramBanks := by
  rw [Memory.ramBanks, h.ram, Memory.ramBanks]

theorem romBanks (h : SamePages m m') : m'.romBanks = m.romBanks := by
  rw [Memory.romBanks, h.rom, Memory.romBanks]

theorem wholePages (h : SamePages m m') (pages : m.WholePages) : m'.WholePages where
  rom_pages := h.rom ▸ pages.rom_pages
  ram_pages := h.ram ▸ pages.ram_pages
  ramBanks_pos := h.ramBanks ▸ pages.ramBanks_pos

theorem wellFormed (h : SamePages m m') (wf : m.WellFormed) : m'.WellFormed where
  rom_pages := h.rom ▸ wf.rom_pages
  ram_pages := h.ram ▸ wf.ram_pages
  two_le_ramBanks := h.ramBanks ▸ wf.two_le_ramBanks
  ramBanks_le := h.ramBanks ▸ wf.ramBanks_le

/-- Every id and address designate what they did before. -/
theorem cell (h : SamePages m m') (bank : UInt8) (address : UInt16) :
    m'.cell bank address = m.cell bank address := by
  rw [Memory.cell, h.ramBanks, h.romBanks, h.rom, Memory.cell]

theorem hasCell (h : SamePages m m') {c : Cell} (there : m.HasCell c) : m'.HasCell c := by
  cases c with
  | ram page offset => exact ⟨h.ramBanks ▸ there.1, there.2⟩
  | rom page offset => exact ⟨h.romBanks ▸ there.1, there.2⟩
  | nothing =>
      show m'.rom.size = 0
      rw [h.rom]
      exact there

end SamePages

/-! ### Where cells are -/

/-- An index has one page and one offset. -/
theorem page_offset_inj {page page' offset offset' : Nat} (h : offset < pageSize)
    (h' : offset' < pageSize) (same : page * pageSize + offset = page' * pageSize + offset') :
    page = page' ∧ offset = offset' := by
  unfold pageSize at *
  omega

/-- A page and an offset within it lead to a byte of as many pages. -/
theorem page_offset_lt {page banks offset : Nat} (h : page < banks) (inside : offset < pageSize) :
    page * pageSize + offset < banks * pageSize := by
  calc page * pageSize + offset
      < page * pageSize + pageSize := Nat.add_lt_add_left inside _
    _ = (page + 1) * pageSize := (Nat.succ_mul page pageSize).symm
    _ ≤ banks * pageSize := Nat.mul_le_mul_right pageSize h

/-- **Different cells are different places.** -/
theorem location_inj {c c' : Cell} (h : m.HasCell c) (h' : m.HasCell c')
    (same : c.location = c'.location) : c = c' := by
  cases c with
  | ram page offset =>
      cases c' with
      | ram page' offset' =>
          obtain ⟨rfl, rfl⟩ := page_offset_inj h.2 h'.2 (Location.ram.inj same)
          rfl
      | _ => cases same
  | rom page offset =>
      cases c' with
      | rom page' offset' =>
          obtain ⟨rfl, rfl⟩ := page_offset_inj h.2 h'.2 (Location.rom.inj same)
          rfl
      | _ => cases same
  | nothing =>
      cases c' with
      | nothing => rfl
      | _ => cases same

namespace WholePages

theorem ram_size (h : m.WholePages) : m.ram.size = m.ramBanks * pageSize := by
  have pages := h.ram_pages
  unfold ramBanks pageSize at *
  omega

theorem rom_size (h : m.WholePages) : m.rom.size = m.romBanks * pageSize := by
  have pages := h.rom_pages
  unfold romBanks pageSize at *
  omega

theorem romBanks_pos (h : m.WholePages) (rom : m.rom.size ≠ 0) : 0 < m.romBanks := by
  have size := h.rom_size
  refine Nat.pos_of_ne_zero fun none => rom ?_
  rw [size, none, Nat.zero_mul]

/-- **Every id and address designate a cell that is there.** -/
theorem hasCell (h : m.WholePages) (bank : UInt8) (address : UInt16) :
    m.HasCell (m.cell bank address) := by
  have address_lt := address.toNat_lt
  have pos := h.ramBanks_pos
  unfold cell
  split
  · have offset_lt : address.toNat - pageSize < pageSize := by
      unfold pageSize
      omega
    exact ⟨Nat.sub_lt pos Nat.one_pos, offset_lt⟩
  · next lower =>
    have offset_lt := Nat.lt_of_not_le lower
    split
    · exact ⟨Nat.mod_lt _ pos, offset_lt⟩
    · split
      · next none => exact none
      · next rom => exact ⟨Nat.mod_lt _ (h.romBanks_pos rom), offset_lt⟩

/-- **An address is located where its cell is.** -/
theorem locate_eq (h : m.WholePages) (bank : UInt8) (address : UInt16) :
    m.locate bank address = (m.cell bank address).location := by
  unfold locate cell
  dsimp only
  split
  · refine congrArg Location.ram ?_
    rw [h.ram_size, Nat.sub_mul, Nat.one_mul]
  · split
    · rfl
    · split <;> rfl

end WholePages

/-! ### Reading and writing -/

theorem byteAt_location (m : Memory) (c : Cell) : m.byteAt c.location = m.contents c := by
  cases c <;> rfl

/-- Reading goes by the cell. -/
theorem WholePages.read_eq (h : m.WholePages) (address : UInt16) :
    m.read address = m.contents (m.cell m.bank address) := by
  rw [read, h.locate_eq, byteAt_location]

/-- A write to a byte of RAM. -/
theorem WholePages.write_ram (h : m.WholePages) {address : UInt16} {page offset : Nat}
    (there : m.cell m.bank address = .ram page offset) (v : UInt8) :
    m.write address v = { m with ram := Bytes.put m.ram (page * pageSize + offset) v } := by
  rw [Memory.write, h.locate_eq, there]
  rfl

/-- A write to anything else. -/
theorem WholePages.write_of_not_ram (h : m.WholePages) {address : UInt16}
    (other : (m.cell m.bank address).isRam = false) (v : UInt8) : m.write address v = m := by
  rw [Memory.write, h.locate_eq]
  cases there : m.cell m.bank address with
  | ram page offset =>
      rw [there] at other
      cases other
  | _ => rfl

/-- All that is not RAM holds what it does whatever the RAM holds. -/
theorem contents_of_not_ram (m : Memory) (ram : ByteArray) {c : Cell} (other : c.isRam = false) :
    contents { m with ram } c = m.contents c := by
  cases c with
  | ram page offset => cases other
  | _ => rfl

/-- **A write changes the cell that it designates**, if that is RAM, and no other. -/
theorem WholePages.contents_write (h : m.WholePages) (address : UInt16) (v : UInt8) {c : Cell}
    (there : m.HasCell c) :
    (m.write address v).contents c =
      if m.cell m.bank address = c ∧ c.isRam then v else m.contents c := by
  cases written : m.cell m.bank address with
  | ram page offset =>
      rw [h.write_ram written]
      have ⟨page_lt, offset_lt⟩ : m.HasCell (.ram page offset) := written ▸ h.hasCell m.bank address
      cases c with
      | ram page' offset' =>
          have index_lt : page' * pageSize + offset' < m.ram.size := by
            rw [h.ram_size]
            exact page_offset_lt there.1 there.2
          show Bytes.get (Bytes.put m.ram (page * pageSize + offset) v) (page' * pageSize + offset') = _
          rw [Bytes.get_put]
          by_cases same : Cell.ram page offset = Cell.ram page' offset'
          · cases same
            rw [if_pos ⟨rfl, index_lt⟩, if_pos ⟨rfl, rfl⟩]
          · have apart : page * pageSize + offset ≠ page' * pageSize + offset' := fun index =>
              same (location_inj ⟨page_lt, offset_lt⟩ there (congrArg Location.ram index))
            rw [if_neg fun both => apart both.1, if_neg fun both => same both.1]
            rfl
      | _ =>
          rw [if_neg fun same => nomatch same.1]
          exact contents_of_not_ram m _ rfl
  | _ =>
      rw [h.write_of_not_ram (by rw [written]; rfl), if_neg]
      rintro ⟨rfl, ram⟩
      cases ram

/-! ### Bank ids -/

theorem cell_of_upper (m : Memory) (bank : UInt8) {address : UInt16}
    (upper : pageSize ≤ address.toNat) :
    m.cell bank address = .ram (m.ramBanks - 1) (address.toNat - pageSize) := if_pos upper

theorem cell_of_ramBank (m : Memory) {bank : UInt8} (id : 0x80 ≤ bank) {address : UInt16}
    (lower : address.toNat < pageSize) :
    m.cell bank address = .ram ((bank.toNat - 0x80) % m.ramBanks) address.toNat := by
  rw [cell, if_neg (Nat.not_le_of_lt lower), if_pos id]

theorem cell_of_romBank (m : Memory) {bank : UInt8} (id : bank < 0x80) {address : UInt16}
    (lower : address.toNat < pageSize) :
    m.cell bank address =
      if m.rom.size = 0 then .nothing else .rom (bank.toNat % m.romBanks) address.toNat := by
  rw [cell, if_neg (Nat.not_le_of_lt lower), if_neg (UInt8.not_le.2 id)]

/-- The upper half is RAM, and so is the lower half under the ids of RAM pages. -/
theorem isRam_cell_iff (m : Memory) (bank : UInt8) (address : UInt16) :
    (m.cell bank address).isRam = true ↔ pageSize ≤ address.toNat ∨ 0x80 ≤ bank := by
  unfold cell
  split
  · next upper => exact iff_of_true rfl (.inl upper)
  · next lower =>
    split
    · next id => exact iff_of_true rfl (.inr id)
    · next id => exact iff_of_false (by split <;> nofun) (not_or.2 ⟨lower, id⟩)

/-- The RAM page that an id names is in its lower bits. -/
theorem toNat_ramId {k : Nat} (h : k < 0x80) : (0x80 ||| k.toUInt8).toNat = 0x80 + k := by
  rw [UInt8.toNat_or, Nat.toUInt8_eq, UInt8.toNat_ofNat', Nat.mod_eq_of_lt (by omega)]
  exact (Nat.two_pow_add_eq_or_of_lt (i := 7) h 1).symm

/-- The lower half under the id of a RAM page. -/
theorem cell_ramId (m : Memory) {k : Nat} (h : k < 0x80) {address : UInt16}
    (lower : address.toNat < pageSize) :
    m.cell (0x80 ||| k.toUInt8) address = .ram (k % m.ramBanks) address.toNat := by
  have id := toNat_ramId h
  have ram : (0x80 : UInt8) ≤ 0x80 ||| k.toUInt8 := by
    rw [UInt8.le_iff_toNat_le, id]
    exact Nat.le_add_right _ k
  rw [m.cell_of_ramBank ram lower, id, Nat.add_sub_cancel_left]

/-- The upper half, whatever the id. -/
theorem cell_upper (m : Memory) (bank : UInt8) {address : UInt16} (lower : address.toNat < pageSize) :
    m.cell bank (address + 0x8000) = .ram (m.ramBanks - 1) address.toNat := by
  have upper : (address + 0x8000).toNat = address.toNat + pageSize := by
    unfold pageSize at *
    simp only [UInt16.toNat_add, UInt16.reduceToNat]
    omega
  rw [m.cell_of_upper bank (upper ▸ Nat.le_add_left _ _), upper, Nat.add_sub_cancel]

/-- Banks behave as one memory that is reached in several ways. -/
structure FaithfulBanks (m : Memory) : Prop where
  /-- An id and an address designate a byte of a page that is there, or there is no ROM. -/
  there : ∀ i a, m.HasCell (m.cell i a)
  /-- Reading gives what the designated cell holds. -/
  reads : ∀ i a, (m.selectBank i).read a = m.contents (m.cell i a)
  /-- After a write, whatever designates the same byte of RAM reads the new value, and all else reads
  as before. -/
  read_write : ∀ a v i b, ((m.write a v).selectBank i).read b =
    if m.cell m.bank a = m.cell i b ∧ (m.cell i b).isRam then v else (m.selectBank i).read b
  /-- No write changes the ROM. -/
  rom : ∀ a v, (m.write a v).rom = m.rom
  /-- Ids from `0x80` on show the RAM pages in turn. -/
  window : ∀ k, k < 0x80 → ∀ a, a.toNat < pageSize →
    m.cell (0x80 ||| k.toUInt8) a = .ram (k % m.ramBanks) a.toNat
  /-- There is an id for every RAM page. -/
  reached : ∀ page, page < m.ramBanks → ∃ i, ∀ a, a.toNat < pageSize → m.cell i a = .ram page a.toNat
  /-- Under the common id the window shows the upper half. -/
  common : ∀ i a, a.toNat < pageSize → m.cell m.commonBank a = m.cell i (a + 0x8000)

/-- **Banks are a memory with aliases.** With 2 to 128 RAM pages and any ROM, or none, a byte that is
written under one bank id is read under every id and at every address that lead to it, and nowhere
else. -/
theorem banks_faithful (wf : m.WellFormed) : m.FaithfulBanks where
  there := wf.wholePages.hasCell
  reads i a := ((SamePages.selectBank m i).wholePages wf.wholePages).read_eq a
  read_write a v i b := by
    have pages := wf.wholePages
    have written := (SamePages.write m a v).wholePages pages
    rw [((SamePages.selectBank _ i).wholePages written).read_eq,
      ((SamePages.selectBank m i).wholePages pages).read_eq]
    show (m.write a v).contents ((m.write a v).cell i b) = _
    rw [(SamePages.write m a v).cell]
    exact pages.contents_write a v (pages.hasCell i b)
  rom := m.write_rom
  window k h a lower := m.cell_ramId h lower
  reached page h := by
    have id_lt : page < 0x80 := Nat.lt_of_lt_of_le h wf.ramBanks_le
    refine ⟨0x80 ||| page.toUInt8, fun a lower => ?_⟩
    rw [m.cell_ramId id_lt lower, Nat.mod_eq_of_lt h]
  common i a lower := by
    have two := wf.two_le_ramBanks
    have le := wf.ramBanks_le
    rw [commonBank, m.cell_ramId (by omega) lower, m.cell_upper i lower, Nat.mod_eq_of_lt (by omega)]

/-- One ROM page and three RAM pages, of which the fourth id shows the first again. -/
def threePages : Memory where
  rom := Bytes.zeros (1 * pageSize)
  ram := Bytes.zeros (3 * pageSize)
  bank := 0x83

theorem threePages_wellFormed : threePages.WellFormed :=
  wellFormed_of_size (Bytes.size_zeros _) (Bytes.size_zeros _) (by decide) (by decide)

theorem threePages_faithful : threePages.WellFormed ∧ threePages.FaithfulBanks :=
  ⟨threePages_wellFormed, banks_faithful threePages_wellFormed⟩

end Memory

end BankedZ80
