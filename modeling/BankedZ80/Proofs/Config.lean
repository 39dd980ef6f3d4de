import BankedZ80.Engine

/-!
# Valid configurations

`Config.Valid` says what validation has checked. An engine is built from every valid configuration,
`Engine.Fresh` is what it consists of, and `Engine.setUp` brings it to the first instruction of a
program.
-/

namespace BankedZ80

namespace Config

/-- What validation checks. -/
structure Valid (c : Config) : Prop where
  batch_ne_zero : c.batchInstructions ≠ 0
  sectorSize : isSectorSize c.sectorSize = true
  ram_pages : c.ramSize % pageSize = 0
  two_pages_le_ram : 2 * pageSize ≤ c.ramSize
  ram_le : c.ramSize ≤ maxBanks * pageSize
  rom_le : c.maxRomSize ≤ maxBanks * pageSize
  rom_ne_zero : c.maxRomSize ≠ 0
  rom_pages : c.maxRomSize % pageSize = 0
  slice_ne_zero : c.sectorsPerSlice ≠ 0
  slices_fit : c.sectorsPerSlice.toNat * maxSlices < 2 ^ 32
  ports : ∃ t, PortTable.ofLayout c.ports = .ok t

variable {c : Config}

theorem bounds_of_isSectorSize {n : Nat} (h : isSectorSize n = true) : 0 < n ∧ n ≤ 4096 := by
  have listed : ∀ size ∈ [128, 256, 512, 1024, 2048, 4096], 0 < size ∧ size ≤ 4096 := by decide
  exact listed n (List.contains_iff_mem.1 h)

theorem valid_of_fault? (h : c.fault? = none) (ports : ∃ t, PortTable.ofLayout c.ports = .ok t) :
    c.Valid := by
  unfold fault? at h
  -- Every fault ends the search, so none of the seven is there.
  iterate 7 (split at h; · cases h)
  next batch size ram banks rom slice fit =>
    have sectorSize : isSectorSize c.sectorSize = true := by
      rw [Bool.not_eq_true', Bool.not_eq_false] at size
      exact size
    have slices_fit : c.sectorsPerSlice.toNat * maxSlices < 2 ^ 32 := Nat.lt_of_not_le fit
    exact ⟨batch, sectorSize, by omega, by omega, by omega, by omega, by omega, by omega, slice,
      slices_fit, ports⟩

/-- **What is accepted is valid.** -/
theorem valid_of_validate (h : c.validate = .ok ()) : c.Valid := by
  unfold validate at h
  cases fault : c.fault? with
  | some f =>
      rw [fault] at h
      cases h
  | none =>
      rw [fault] at h
      obtain ⟨t, ports, -⟩ := bind_eq_ok.1 h
      exact valid_of_fault? fault ⟨t, ports⟩

end Config

/-- **An engine is built** from every configuration that is accepted. -/
theorem Engine.new_of_validate {config : Config} (h : config.validate = .ok ()) :
    ∃ e, new config = .ok e := by
  obtain ⟨t, ports⟩ := (Config.valid_of_validate h).ports
  exact ⟨_, bind_eq_ok.2 ⟨(), h, bind_eq_ok.2 ⟨t, ports, rfl⟩⟩⟩

/-- What a new engine consists of. -/
structure Engine.Fresh (config : Config) (e : Engine) : Prop where
  valid : config.Valid
  memory : e.memory = Memory.new config.ramSize
  disks : e.devices.disks =
    { sectorSize := config.sectorSize
      sectorsPerSlice := config.sectorsPerSlice
      autoSlices := config.autoSlices }
  nvram : e.devices.nvram = {}
  config : e.config = config

theorem Engine.fresh_of_new {config : Config} {e : Engine} (h : new config = .ok e) :
    e.Fresh config := by
  obtain ⟨_, accepted, h⟩ := bind_eq_ok.1 h
  obtain ⟨ports, -, h⟩ := bind_eq_ok.1 h
  cases h
  exact ⟨Config.valid_of_validate accepted, rfl, rfl, rfl, rfl⟩

/-! ### A program in ROM -/

/-- A ROM page that begins with a program. -/
def romPage (program : List UInt8) : ByteArray :=
  Bytes.ofList (program ++ List.replicate (pageSize - program.length) 0)

/-- Build an engine, load a program and finish the setup. -/
def Engine.setUp (config : Config) (program : List UInt8) : Except MachineError Engine := do
  let built ← new config
  let loaded ← built.loadRom (romPage program)
  loaded.completeInit

end BankedZ80
