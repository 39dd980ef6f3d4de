import BankedZ80.Proofs.Archive.Stored
import BankedZ80.Proofs.Bundle.Reading
import BankedZ80.Proofs.Config
import BankedZ80.Proofs.History.DiskLog
import BankedZ80.Proofs.Nvram.BootOption

/-!
# Installing a bundle

`LoadedBundle.Fits` says that an engine of some configuration can take a bundle, and `check_eq_ok`
that this is what is checked. A bundle that does not fit is refused before anything is done. One
that fits meets no further obstacle: the lengths were checked, its units are there, and the engine
has a ROM when its setup is completed.

`runOn_disks` follows the loop over the disks, whose effect on a slot is that of the log of its
changes, and `LoadedBundle.install_all_or_nothing` puts the parts together.
-/

namespace BankedZ80

open DiskController

/-! ### The check -/

theorem Memory.checkRomSize_eq_ok {length limit : Nat} {u : Unit} :
    checkRomSize length limit = .ok u ↔
      length ≠ 0 ∧ length % pageSize = 0 ∧ length ≤ limit := by
  unfold checkRomSize
  split
  · exact ⟨nofun, by omega⟩
  · exact ⟨fun _ => by omega, fun _ => rfl⟩

namespace LoadedBundle

/-- An engine of some configuration can take a bundle. -/
structure Fits (b : LoadedBundle) (config : Config) : Prop where
  /-- The ROM is some whole pages, within the limit. -/
  rom : b.rom.size ≠ 0 ∧ b.rom.size % pageSize = 0 ∧ b.rom.size ≤ config.maxRomSize
  /-- Every disk is some whole sectors. -/
  disks : ∀ d ∈ b.disks, d.image.size ≠ 0 ∧ d.image.size % config.sectorSize = 0
  /-- The boot string names an option. -/
  boot : ∀ s, b.manifest.boot = some s → ∃ o, BootOption.parse? s = some o

theorem checkDisk_eq_ok {sectorSize : Nat} {d : BundleDisk} {u : Unit} :
    checkDisk sectorSize d = .ok u ↔ d.image.size ≠ 0 ∧ d.image.size % sectorSize = 0 := by
  rw [← DiskUnit.checkSize_eq_ok (u := u), checkDisk]
  split
  · next ok => exact ⟨fun _ => ok, fun _ => rfl⟩
  · next refused => exact ⟨nofun, fun ok => nomatch refused.symm.trans ok⟩

theorem checkBoot_eq_ok {b : LoadedBundle} {u : Unit} :
    b.checkBoot = .ok u ↔ ∀ s, b.manifest.boot = some s → ∃ o, BootOption.parse? s = some o := by
  unfold checkBoot
  split
  · next absent => exact ⟨fun _ s given => (nomatch absent.symm.trans given), fun _ => rfl⟩
  · next s given =>
      split
      · next o parsed =>
          refine ⟨fun _ t same => ⟨o, ?_⟩, fun _ => rfl⟩
          rw [← Option.some.inj (given.symm.trans same)]
          exact parsed
      · next wrong =>
          refine ⟨nofun, fun all => ?_⟩
          obtain ⟨o, parsed⟩ := all s given
          exact nomatch wrong.symm.trans parsed

/-- **The check finds out whether a bundle fits.** -/
theorem check_eq_ok {b : LoadedBundle} {config : Config} : b.check config = .ok () ↔ b.Fits config := by
  unfold check
  constructor
  · intro h
    obtain ⟨_, rom, h⟩ := bind_eq_ok.1 h
    obtain ⟨_, disks, boot⟩ := bind_eq_ok.1 h
    exact
      { rom := Memory.checkRomSize_eq_ok.1 rom
        disks := fun d mem => checkDisk_eq_ok.1 (forIn_eq_ok.1 disks d mem)
        boot := checkBoot_eq_ok.1 boot }
  · intro fits
    refine bind_eq_ok.2 ⟨(), Memory.checkRomSize_eq_ok.2 fits.rom, bind_eq_ok.2 ⟨⟨⟩, ?_, ?_⟩⟩
    · exact forIn_eq_ok.2 fun d mem => checkDisk_eq_ok.2 (fits.disks d mem)
    · exact checkBoot_eq_ok.2 fits.boot

instance (b : LoadedBundle) (config : Config) : Decidable (b.Fits config) :=
  decidable_of_iff (b.check config = .ok ()) check_eq_ok

end LoadedBundle

/-! ### The disks -/

namespace BundleDisk

/-- What a disk of a bundle changes in the controller. -/
def changes (d : BundleDisk) : List DiskChange := DiskChange.loadedAs d.unit d.image d.entry.manifest

/-- What is in the slot of a disk that was just loaded. -/
def fresh (sectorSize : Nat) (d : BundleDisk) : DiskUnit :=
  { image := d.image, sectorSize, manifest := d.entry.manifest }

variable {sectorSize k : Nat} {slot : Option DiskUnit}

theorem foldl_changes (d : BundleDisk) :
    d.changes.foldl (DiskChange.applyTo sectorSize k) slot =
      if d.unit = k then some (d.fresh sectorSize) else slot :=
  DiskChange.foldl_loadedAs

/-- A slot that no disk is listed for keeps what it has. -/
theorem foldl_of_not_listed {disks : List BundleDisk} (h : k ∉ disks.map (·.unit)) :
    (disks.flatMap changes).foldl (DiskChange.applyTo sectorSize k) slot = slot := by
  induction disks with
  | nil => rfl
  | cons d rest ih =>
      rw [List.map_cons, List.mem_cons, not_or] at h
      rw [List.flatMap_cons, List.foldl_append, foldl_changes, if_neg (Ne.symm h.1), ih h.2]

/-- A slot that a disk is listed for holds it, as it is not listed again. -/
theorem foldl_of_listed {disks : List BundleDisk} (nodup : (disks.map (·.unit)).Nodup)
    {d : BundleDisk} (mem : d ∈ disks) :
    (disks.flatMap changes).foldl (DiskChange.applyTo sectorSize d.unit) slot =
      some (d.fresh sectorSize) := by
  induction disks generalizing slot with
  | nil => cases mem
  | cons first rest ih =>
      rw [List.map_cons, List.nodup_cons] at nodup
      rw [List.flatMap_cons, List.foldl_append]
      cases mem with
      | head => rw [foldl_of_not_listed nodup.1, foldl_changes, if_pos rfl]
      | tail _ mem => exact ih nodup.2 mem

/-- A disk that fits is loaded and flagged, and concerns no warnings. -/
theorem load_and_flag {c : DiskController} (d : BundleDisk) (there : d.unit < maxUnits)
    (size : d.image.size ≠ 0 ∧ d.image.size % c.sectorSize = 0) :
    ∃ c' c'', c.load d.unit d.image = .ok c' ∧ c'.setManifest d.unit d.entry.manifest = .ok c'' ∧
      c''.silenced = c.silenced := by
  obtain ⟨c', load⟩ : ∃ c', c.load d.unit d.image = .ok c' :=
    ⟨_, load_eq_ok.2 ⟨there, DiskUnit.checkSize_eq_ok.2 size, rfl⟩⟩
  have loaded : c'.kept d.unit = some { image := d.image, sectorSize := c.sectorSize } :=
    (Change.load load).kept d.unit |>.trans (if_pos rfl)
  obtain ⟨u, hu, -⟩ := Option.map_eq_some_iff.1 loaded
  refine ⟨c', _, load, setManifest_eq_ok.2 ⟨⟨u, unit_of_unit? c' d.unit hu⟩, rfl⟩, ?_⟩
  rw [(load_eq_ok.1 load).2.2]
  exact silenced_rebalance _

end BundleDisk

namespace LoadedBundle

variable {disks : List BundleDisk}

/-- **The loop over the disks** ends well, with the changes of every disk and no other. By induction
on the disks. -/
theorem runOn_disks (e : Engine)
    (fit : ∀ d ∈ disks, d.unit < maxUnits ∧ d.image.size ≠ 0 ∧
      d.image.size % e.devices.disks.sectorSize = 0) :
    ∃ c, EngineCalls.runOn (forIn disks PUnit.unit fun d _ => do
          EngineCalls.attempt (·.loadDisk d.unit d.image)
          EngineCalls.attempt (·.setManifest d.unit d.entry.manifest)
          pure (ForInStep.yield PUnit.unit)) e = (.ok ⟨⟩, e.withDisks c) ∧
      Evolves e.devices.disks (disks.flatMap BundleDisk.changes) c ∧
      c.silenced = e.devices.disks.silenced := by
  induction disks generalizing e with
  | nil => exact ⟨e.devices.disks, rfl, .refl _, rfl⟩
  | cons d rest ih =>
      obtain ⟨there, size⟩ := fit d (List.mem_cons_self)
      obtain ⟨c', c'', load, flag, silenced⟩ := d.load_and_flag there size
      have first : Evolves e.devices.disks d.changes c'' :=
        .change (.load load) (.of_change (.flag flag))
      have loadDisk : e.loadDisk d.unit d.image = .ok (e.withDisks c') :=
        bind_eq_ok.2 ⟨c', load, rfl⟩
      have setManifest : (e.withDisks c').setManifest d.unit d.entry.manifest =
          .ok (e.withDisks c'') := bind_eq_ok.2 ⟨c'', flag, rfl⟩
      -- The lengths were checked against a sector size that loading leaves alone.
      obtain ⟨c, run, evolves, same⟩ := ih (e.withDisks c'') fun k mem => by
        show _ ∧ _ ∧ _ % c''.sectorSize = 0
        rw [first.sectorSize]
        exact fit k (List.mem_cons_of_mem d mem)
      refine ⟨c, ?_, ?_, same.trans silenced⟩
      · rw [List.forIn_cons]
        simp only [EngineCalls.runOn_bind, EngineCalls.runOn_attempt, EngineCalls.runOn_pure, loadDisk,
          setManifest]
        exact run
      · exact first.trans evolves

/-! ### Installing -/

/-- An engine with the ROM of a bundle and these disks, ready to run. -/
def booted (b : LoadedBundle) (e : Engine) (c : DiskController) : Engine :=
  let e := { e.withMemory { e.memory with rom := b.rom } with lifecycle := .romLoaded }
  { (e.withDisks c).powerOn with lifecycle := .ready }

/-- What an engine has become by a bundle that was installed on it. -/
structure Installed (b : LoadedBundle) (e e' : Engine) : Prop where
  ready : e'.lifecycle = .ready
  rom : e'.memory.rom = b.rom
  /-- Every unit that is listed holds its file, clean and flagged as listed. -/
  listed : ∀ d ∈ b.disks, ∃ u, e'.devices.disks.unit? d.unit = some u ∧
    u.image = d.image ∧ u.dirty = false ∧ u.manifest = d.entry.manifest
  /-- Every other slot keeps its image and its flags. -/
  others : ∀ n, n ∉ b.disks.map (·.unit) → e'.devices.disks.kept n = e.devices.disks.kept n
  silenced : e'.devices.disks.silenced = e.devices.disks.silenced
  /-- The stored boot option is the one that the boot string names, or the one of before. -/
  setting : e'.setting = ((b.manifest.boot.bind BootOption.parse?).map BootOption.text).getD e.setting

variable {b : LoadedBundle} {e : Engine}

/-- A bundle that does not fit is refused. -/
theorem runOn_install_of_not_fits (h : ¬b.Fits e.config) :
    ∃ error, b.install.runOn e = (.error error, e) := by
  cases hc : b.check e.config with
  | ok u => exact absurd (check_eq_ok.1 hc) h
  | error error =>
      refine ⟨error, ?_⟩
      rw [install, EngineCalls.runOn_bind, EngineCalls.runOn_get]
      dsimp only
      rw [EngineCalls.runOn_bind, EngineCalls.runOn_lift, hc]

/-- A bundle that fits is installed, whatever the engine did before. -/
theorem runOn_install_of_fits (fits : b.Fits e.config) (there : ∀ d ∈ b.disks, d.unit < maxUnits)
    (agree : e.devices.disks.sectorSize = e.config.sectorSize) :
    ∃ c nvram, b.install.runOn e = (.ok b.manifest, (b.booted e c).withNvram nvram) ∧
      Evolves e.devices.disks (b.disks.flatMap BundleDisk.changes) c ∧
      c.silenced = e.devices.disks.silenced ∧
      nvram.setting =
        ((b.manifest.boot.bind BootOption.parse?).map BootOption.text).getD e.setting := by
  have loadRom : e.loadRom b.rom = .ok
      { e.withMemory { e.memory with rom := b.rom } with lifecycle := .romLoaded } :=
    bind_eq_ok.2 ⟨_, bind_eq_ok.2 ⟨(), Memory.checkRomSize_eq_ok.2 fits.rom, rfl⟩, rfl⟩
  obtain ⟨c, run, evolves, silenced⟩ := runOn_disks
    { e.withMemory { e.memory with rom := b.rom } with lifecycle := .romLoaded }
    fun d mem => ⟨there d mem, agree ▸ fits.disks d mem⟩
  have completeInit : Engine.completeInit
      (Engine.withDisks { e.withMemory { e.memory with rom := b.rom } with lifecycle := .romLoaded } c) =
        .ok (b.booted e c) := if_neg nofun
  cases boot : b.manifest.boot with
  | none =>
      refine ⟨c, e.devices.nvram, ?_, evolves, silenced, rfl⟩
      simp only [install, EngineCalls.runOn_bind, EngineCalls.runOn_get, EngineCalls.runOn_lift,
        check_eq_ok.2 fits, EngineCalls.runOn_attempt, loadRom, run, completeInit, boot]
      rfl
  | some s =>
      obtain ⟨o, parsed⟩ := fits.boot s boot
      have setSetting : (b.booted e c).setSetting s =
          .ok ((b.booted e c).withNvram (e.devices.nvram.setBootOption o)) := by
        refine bind_eq_ok.2 ⟨e.devices.nvram.setBootOption o, ?_, rfl⟩
        show Nvram.setSetting e.devices.nvram s = _
        rw [Nvram.setSetting, parsed]
      refine ⟨c, e.devices.nvram.setBootOption o, ?_, evolves, silenced, ?_⟩
      · simp only [install, EngineCalls.runOn_bind, EngineCalls.runOn_get, EngineCalls.runOn_lift,
          check_eq_ok.2 fits, EngineCalls.runOn_attempt, loadRom, run, completeInit, boot, setSetting]
        rfl
      · rw [Option.bind_some, parsed]
        exact Nvram.setting_setBootOption _ (BootOption.legal_of_parse? parsed)

/-- What installing leaves is as it should be. -/
theorem installed {c : DiskController} {nvram : Nvram} (nodup : (b.disks.map (·.unit)).Nodup)
    (evolves : Evolves e.devices.disks (b.disks.flatMap BundleDisk.changes) c)
    (silenced : c.silenced = e.devices.disks.silenced)
    (setting : nvram.setting =
      ((b.manifest.boot.bind BootOption.parse?).map BootOption.text).getD e.setting) :
    b.Installed e ((b.booted e c).withNvram nvram) := by
  have kept (n : Nat) : ((b.booted e c).withNvram nvram).devices.disks.kept n = c.kept n :=
    kept_of_resetRegisters (resetRegisters_idem c) n
  refine ⟨rfl, rfl, fun d mem => ?_, fun n unlisted => ?_, silenced, setting⟩
  · have slot := kept d.unit
    rw [evolves.kept, BundleDisk.foldl_of_listed nodup mem] at slot
    obtain ⟨u, there, same⟩ := Option.map_eq_some_iff.1 slot
    injection same with image _ _ manifest dirty
    exact ⟨u, there, image, dirty, manifest⟩
  · rw [kept, evolves.kept, BundleDisk.foldl_of_not_listed unlisted]

/-- **Installation is all or nothing.** A bundle that was read from an archive consists of the files
that its manifest names. On an engine, in whatever state hosts and guests brought it to, it is
installed exactly when it fits the configuration, and then completely; one that does not fit is
refused, and the engine is left exactly as it was. -/
theorem install_all_or_nothing {archive : ByteArray} (loaded : Bundle.load archive = .ok b)
    {config : Config} {new : Engine} (built : Engine.new config = .ok new) (steps : List Step) :
    (∃ entries, Zip.entries archive = .ok entries ∧ b.Assembled (Bundle.Files.ofEntries entries)) ∧
    (b.Fits config → ∃ e', b.install.runOn (steps.foldl Engine.after new) = (.ok b.manifest, e') ∧
      b.Installed (steps.foldl Engine.after new) e') ∧
    (¬b.Fits config → ∃ error, b.install.runOn (steps.foldl Engine.after new) =
      (.error error, steps.foldl Engine.after new)) := by
  have agree := Engine.sectorSize_foldl built steps
  have same : (steps.foldl Engine.after new).config = config := by
    rw [Engine.config_foldl, Engine.config_of_new built]
  obtain ⟨entries, archived, assembled⟩ := Bundle.assembled_of_load loaded
  generalize steps.foldl Engine.after new = e at agree same ⊢
  rw [← same]
  refine ⟨⟨entries, archived, assembled⟩, fun fits => ?_, runOn_install_of_not_fits⟩
  obtain ⟨c, nvram, run, evolves, silenced, setting⟩ :=
    runOn_install_of_fits fits assembled.there agree
  exact ⟨_, run, installed assembled.nodup evolves silenced setting⟩

/-! ### A bundle of three files -/

/-- A header for a file that is stored as it is. -/
def storedHeader (name : String) (crc size start : Nat) : Zip.Header where
  rawName := name.toUTF8
  name
  comment := ""
  encrypted := false
  method := 0
  crc
  compressedSize := size
  size
  start

/-- Names a ROM, a disk and a boot option. -/
def smallManifest : ByteArray :=
  String.toUTF8 "\x7b\"name\":\"M\",\"rom\":\"r\",\"disks\":[\x7b\"filename\":\"d\"\x7d],\"boot\":\"B\"\x7d"

/-- A disk of 128 bytes. -/
def smallDisk : ByteArray := Bytes.ofList ([0xFF, 0xFF, 0xFF, 0xFF] ++ List.replicate 124 0)

/-- A ROM page that begins with calls to address 0x38. -/
def smallRom : ByteArray := romPage [0xFF, 0xFF, 0xFF, 0xFF]

/-- What stands in front of the manifest, the disk and the ROM. -/
def manifestRecord : ByteArray :=
  Bytes.ofList [80, 75, 3, 4, 20, 0, 0, 0, 0, 0, 0, 0, 33, 0, 86, 185, 45, 30, 60, 0, 0, 0, 60, 0, 0, 0, 11,
    0, 0, 0, 98, 117, 110, 100, 108, 101, 46, 106, 115, 111, 110]

def diskRecord : ByteArray :=
  Bytes.ofList [80, 75, 3, 4, 20, 0, 0, 0, 0, 0, 0, 0, 33, 0, 255, 255, 255, 255, 128, 0, 0, 0, 128, 0, 0, 0,
    1, 0, 0, 0, 100]

def romRecord : ByteArray :=
  Bytes.ofList [80, 75, 3, 4, 20, 0, 0, 0, 0, 0, 0, 0, 33, 0, 255, 255, 255, 255, 0, 128, 0, 0, 0, 128, 0, 0,
    1, 0, 0, 0, 114]

/-- The directory and the end record. -/
def smallDirectory : ByteArray :=
  Bytes.ofList [80, 75, 1, 2, 20, 3, 20, 0, 0, 0, 0, 0, 0, 0, 33, 0, 86, 185, 45, 30, 60, 0, 0, 0, 60, 0, 0,
    0, 11, 0, 0, 0, 0, 0, 0, 0, 0, 0, 0, 0, 128, 129, 0, 0, 0, 0, 98, 117, 110, 100, 108, 101, 46, 106, 115,
    111, 110, 80, 75, 1, 2, 20, 3, 20, 0, 0, 0, 0, 0, 0, 0, 33, 0, 255, 255, 255, 255, 128, 0, 0, 0, 128, 0,
    0, 0, 1, 0, 0, 0, 0, 0, 0, 0, 0, 0, 0, 0, 128, 129, 101, 0, 0, 0, 100, 80, 75, 1, 2, 20, 3, 20, 0, 0, 0,
    0, 0, 0, 0, 33, 0, 255, 255, 255, 255, 0, 128, 0, 0, 0, 128, 0, 0, 1, 0, 0, 0, 0, 0, 0, 0, 0, 0, 0, 0,
    128, 129, 4, 1, 0, 0, 114, 80, 75, 5, 6, 0, 0, 0, 0, 3, 0, 3, 0, 151, 0, 0, 0, 35, 129, 0, 0, 0, 0]

/-- All of it, up to the directory. -/
def smallFiles : ByteArray :=
  manifestRecord ++ (smallManifest ++ (diskRecord ++ (smallDisk ++ (romRecord ++ smallRom))))

def smallArchive : ByteArray := smallFiles ++ smallDirectory

def smallEntries : List Zip.Entry :=
  [⟨"bundle.json", some smallManifest⟩, ⟨"d", some smallDisk⟩, ⟨"r", some smallRom⟩]

def smallHeaders : List Zip.Header :=
  [storedHeader "bundle.json" 506313046 60 0, storedHeader "d" 0xFFFFFFFF 128 101,
    storedHeader "r" 0xFFFFFFFF 32768 260]

theorem headers?_smallArchive : Zip.headers? smallArchive = some smallHeaders := by
  have size : smallFiles.size = 33059 := by decide +kernel
  refine Zip.headers?_append _ _ ?_
  rw [size]
  decide +kernel

/-- Every file of the archive is read from where its local record ends. -/
theorem entries_smallArchive : Zip.entries smallArchive = .ok smallEntries := by
  have manifest : Zip.readEntry smallArchive (storedHeader "bundle.json" 506313046 60 0) =
      .ok ⟨"bundle.json", some smallManifest⟩ := by
    rw [smallArchive, smallFiles, ByteArray.append_assoc, ByteArray.append_assoc]
    exact Zip.readEntry_append (by decide +kernel) (by decide +kernel) (by decide +kernel) rfl rfl
      (by decide +kernel) (by decide +kernel)
  have disk : Zip.readEntry smallArchive (storedHeader "d" 0xFFFFFFFF 128 101) =
      .ok ⟨"d", some smallDisk⟩ := by
    have parts : smallArchive = (manifestRecord ++ (smallManifest ++ diskRecord)) ++
        (smallDisk ++ (romRecord ++ (smallRom ++ smallDirectory))) := by
      simp only [smallArchive, smallFiles, ByteArray.append_assoc]
    have crc : Crc32.compute smallDisk = 0xFFFFFFFF := Crc32.compute_ones_zeros _
    rw [parts]
    exact Zip.readEntry_append (by decide +kernel) (by decide +kernel) (by decide +kernel) rfl rfl
      (by decide +kernel) (congrArg UInt32.toNat crc)
  have rom : Zip.readEntry smallArchive (storedHeader "r" 0xFFFFFFFF 32768 260) =
      .ok ⟨"r", some smallRom⟩ := by
    have parts : smallArchive =
        (manifestRecord ++ (smallManifest ++ (diskRecord ++ (smallDisk ++ romRecord)))) ++
          (smallRom ++ smallDirectory) := by
      simp only [smallArchive, smallFiles, ByteArray.append_assoc]
    have crc : Crc32.compute smallRom = 0xFFFFFFFF := Crc32.compute_ones_zeros _
    rw [parts]
    exact Zip.readEntry_append (by decide +kernel) (by decide +kernel) (by decide +kernel) rfl rfl
      (by decide +kernel) (congrArg UInt32.toNat crc)
  have distinct : Zip.collapse smallHeaders = smallHeaders := by decide +kernel
  rw [Zip.entries, headers?_smallArchive]
  dsimp only
  rw [distinct]
  simp only [smallHeaders, List.mapM_cons, List.mapM_nil, manifest, disk, rom]
  rfl

/-- A disk is loaded, and the machine restarted. -/
def loadAndReset : List Step := [.host (.loadDisk 2 (Bytes.zeros 1024)), .host .reset]

/-- The disk of the bundle is one sector of 128 bytes, and none of 512. -/
theorem smallArchive_installed :
    ∃ b, Bundle.load smallArchive = .ok b ∧
      (∃ new, Engine.new { sectorSize := 128 } = .ok new ∧
        ∃ e', b.install.runOn (loadAndReset.foldl Engine.after new) = (.ok b.manifest, e') ∧
          b.Installed (loadAndReset.foldl Engine.after new) e') ∧
      ∃ new, Engine.new {} = .ok new ∧
        ∃ error, b.install.runOn (loadAndReset.foldl Engine.after new) =
          (.error error, loadAndReset.foldl Engine.after new) := by
  have fit : (Bundle.ofEntries smallEntries).toOption.any
      (fun b => b.Fits { sectorSize := 128 } ∧ ¬b.Fits {}) = true := by
    decide +kernel
  obtain ⟨b, assembled, fits, too_short⟩ := exists_of_toOption_any fit
  have loaded : Bundle.load smallArchive = .ok b :=
    bind_eq_ok.2 ⟨smallEntries, entries_smallArchive, assembled⟩
  obtain ⟨new, built⟩ : ∃ new, Engine.new { sectorSize := 128 } = .ok new :=
    Engine.new_of_validate rfl
  obtain ⟨new', built'⟩ : ∃ new, Engine.new {} = .ok new := Engine.new_of_validate rfl
  obtain ⟨-, installs, -⟩ := install_all_or_nothing loaded built loadAndReset
  obtain ⟨-, -, refuses⟩ := install_all_or_nothing loaded built' loadAndReset
  exact ⟨b, loaded, ⟨new, built, installs fits⟩, new', built', refuses too_short⟩

end LoadedBundle

end BankedZ80
