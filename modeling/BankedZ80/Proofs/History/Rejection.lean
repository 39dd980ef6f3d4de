import BankedZ80.Proofs.Bundle.Install
import BankedZ80.Proofs.Disk.WellFormed
import BankedZ80.Proofs.History.DiskLog

/-!
# Rejected calls change nothing

`Engine.call` says what a call leaves, and by its definition a call that is rejected leaves everything.
A machine that changes its engine in place does not get this for free: it carries a call out as checks and
changes, one after another, and a change that comes before a check is not taken back when the check fails.

* `HostCall.inPlace` are the calls as programs of single changes.
* `Engine.outcome` is what the engine's own definitions answer and leave, and `runOn_inPlace` says that
  the programs do the same. So no program changes anything before its last check.
* `HostCall.Rejected` says in which cases a call is rejected.
-/

namespace BankedZ80

/-- Emptying a slot that is empty changes nothing. -/
theorem DiskController.clear_of_unit?_eq_none (c : DiskController) {n : Nat} (h : c.unit? n = none) :
    modifySlot c.units n (fun _ => none) = c.units := by
  ext i hi : 1
  rw [getElem_modifySlot]
  split
  · next here =>
      subst here
      rw [unit?, Vector.getElem?_eq_getElem hi, Option.join_some] at h
      exact h.symm
  · rfl

namespace EngineCalls

/-- Change the engine. -/
def change (f : Engine → Engine) : EngineCalls Unit := modify f

/-- Change the memory. -/
def changeMemory (f : Memory → Memory) : EngineCalls Unit :=
  change fun e => e.withMemory (f e.memory)

/-- Change the disks. -/
def changeDisks (f : DiskController → DiskController) : EngineCalls Unit :=
  change fun e => e.withDisks (f e.devices.disks)

/-- Change the boot record. -/
def changeNvram (f : Nvram → Nvram) : EngineCalls Unit :=
  change fun e => e.withNvram (f e.devices.nvram)

/-- Change the host file device. -/
def changeHostFile (f : HostFile → HostFile) : EngineCalls Unit :=
  change fun e => e.withHostFile (f e.devices.hostFile)

variable {α β : Type} (e : Engine)

theorem runOn_get_bind (rest : Engine → EngineCalls β) :
    ((get : EngineCalls Engine) >>= rest).runOn e = (rest e).runOn e := by
  rw [runOn_bind, runOn_get]

theorem runOn_lift_bind (check : Except MachineError α) (rest : α → EngineCalls β) :
    ((liftM check : EngineCalls α) >>= rest).runOn e =
      match check with
      | .ok a => (rest a).runOn e
      | .error error => (.error error, e) := by
  rw [runOn_bind, runOn_lift]
  cases check <;> rfl

end EngineCalls

namespace HostCall

open EngineCalls

/-! ### Calls as programs of single changes -/

/-- Load a ROM image. -/
def loadRomInPlace (image : ByteArray) : EngineCalls Bool := do
  liftM (Memory.checkRomSize image.size (← get).config.maxRomSize)
  changeMemory ({ · with rom := image })
  change ({ · with lifecycle := .romLoaded })
  return true

/-- Bring the machine to its first state, part by part. -/
def powerOnInPlace : EngineCalls Unit := do
  change fun e => { e with machine := { e.machine with cpu := e.machine.cpu.reset } }
  changeMemory (·.reset true)
  change fun e => e.withUart e.devices.uart.reset
  changeHostFile fun _ => {}
  changeDisks (·.resetRegisters)
  change ({ · with stats := {} })

/-- Finish the setup. -/
def completeInitInPlace : EngineCalls Bool := do
  if (← get).lifecycle = .created then throw (.notReady .noRom)
  powerOnInPlace
  change ({ · with lifecycle := .ready })
  return true

/-- Load a disk image. -/
def loadDiskInPlace (n : Nat) (image : ByteArray) : EngineCalls Bool := do
  liftM (DiskController.checkUnit n)
  let d ← liftM (DiskUnit.ofImage image (← get).devices.disks.sectorSize)
  changeDisks fun c => { c with units := modifySlot c.units n fun _ => some d }
  changeDisks (·.rebalance)
  return true

/-- Take a disk image out of its slot; the slices of the others are set anew if there was one. -/
def unloadDiskInPlace (n : Nat) : EngineCalls Bool := do
  liftM (DiskController.checkUnit n)
  let old := (← get).devices.disks.unit? n
  changeDisks fun c => { c with units := modifySlot c.units n fun _ => none }
  if old.isSome then changeDisks (·.rebalance)
  return true

/-- Set the slice count of a disk. -/
def setSliceCountInPlace (n : Nat) (count : UInt8) : EngineCalls Bool := do
  let _ ← liftM ((← get).devices.disks.unit n)
  liftM (DiskUnit.checkSliceCount count)
  changeDisks (·.modifyUnit n ({ · with slices := count }))
  return true

/-- Mark a disk as a catalog image, or not. -/
def setManifestInPlace (n : Nat) (manifest : Bool) : EngineCalls Bool := do
  let _ ← liftM ((← get).devices.disks.unit n)
  changeDisks (·.modifyUnit n ({ · with manifest }))
  return true

/-- Silence the write warning of a slot, or not. -/
def setSilencedInPlace (n : Nat) (silenced : Bool) : EngineCalls Bool := do
  liftM (DiskController.checkUnit n)
  changeDisks fun c => { c with silenced := modifySlot c.silenced n fun _ => silenced }
  return true

/-- Store the boot option that a text names: its four bytes, and then the seal. -/
def setSettingInPlace (s : String) : EngineCalls Bool := do
  match BootOption.parse? s with
  | none => throw (.invalidBootOption s)
  | some option =>
    let (low, high, flags) := option.encode
    changeNvram fun v => { v with bytes := #v[Nvram.signature, low, high, flags] ++ v.bytes.drop 4 }
    changeNvram (·.reseal)
    return true

/-- Deliver the file that the guest asked for. -/
def provideFileInPlace (bytes : List UInt8) : EngineCalls Bool := do
  if (← get).devices.hostFile.state ≠ .waitingRead then return false
  changeHostFile ({ · with inbox := bytes })
  changeHostFile ({ · with delivered := true })
  changeHostFile ({ · with state := .idle })
  return true

/-- Refuse the file that the guest asked for. -/
def cancelFileInPlace : EngineCalls Bool := do
  if (← get).devices.hostFile.state ≠ .waitingRead then return false
  changeHostFile ({ · with readName := [] })
  changeHostFile ({ · with failed := true })
  changeHostFile ({ · with state := .idle })
  return true

/-- Acknowledge the file that the guest has written. -/
def acknowledgeFileInPlace : EngineCalls Bool := do
  if (← get).devices.hostFile.state ≠ .writeReady then return false
  changeHostFile ({ · with writeName := [] })
  changeHostFile ({ · with outbox := .empty })
  changeHostFile ({ · with state := .idle })
  return true

/-- A call as a program of single changes. It ends in an error, or in whether it was accepted; calls that
are never rejected are a single change. -/
def inPlace : HostCall → EngineCalls Bool
  | .loadRom image => loadRomInPlace image
  | .completeInit => completeInitInPlace
  | .loadDisk n image => loadDiskInPlace n image
  | .unloadDisk n => unloadDiskInPlace n
  | .setSliceCount n count => setSliceCountInPlace n count
  | .setManifest n manifest => setManifestInPlace n manifest
  | .setSilenced n silenced => setSilencedInPlace n silenced
  | .setSetting s => setSettingInPlace s
  | .provideFile bytes => provideFileInPlace bytes
  | .cancelFile => cancelFileInPlace
  | .acknowledgeFile => acknowledgeFileInPlace
  | call => do
    change (·.call call)
    return true

end HostCall

/-! ### Their outcome -/

namespace Engine

/-- What the engine's own definitions make of a call: an error, no engine, or the engine after it. -/
def accept? (e : Engine) : HostCall → Except MachineError (Option Engine)
  | .loadRom image => (e.loadRom image).map some
  | .completeInit => e.completeInit.map some
  | .loadDisk n image => (e.loadDisk n image).map some
  | .unloadDisk n => (e.unloadDisk n).map fun r => some r.2
  | .setSliceCount n count => (e.setSliceCount n count).map some
  | .setManifest n manifest => (e.setManifest n manifest).map some
  | .setSilenced n silenced => (e.setSilenced n silenced).map some
  | .setSetting s => (e.setSetting s).map some
  | .provideFile bytes => .ok (e.provideFile bytes)
  | .cancelFile => .ok e.cancelFile
  | .acknowledgeFile => .ok e.acknowledgeFile
  | call => .ok (some (e.call call))

/-- The answer to a call, and what is left: without an engine after it, the engine before it. -/
def settle (e : Engine) : Except MachineError (Option Engine) → Except MachineError Bool × Engine
  | .ok (some e') => (.ok true, e')
  | .ok none => (.ok false, e)
  | .error error => (.error error, e)

/-- How a call is answered, and what it leaves. -/
def outcome (e : Engine) (call : HostCall) : Except MachineError Bool × Engine :=
  e.settle (e.accept? call)

variable (e : Engine)

theorem runOn_loadRom (image : ByteArray) :
    (HostCall.loadRomInPlace image).runOn e = e.outcome (.loadRom image) := by
  unfold HostCall.loadRomInPlace outcome accept? loadRom Memory.loadRom
  dsimp only
  rw [EngineCalls.runOn_get_bind, EngineCalls.runOn_lift_bind]
  cases Memory.checkRomSize image.size e.config.maxRomSize <;> rfl

theorem runOn_completeInit : HostCall.completeInitInPlace.runOn e = e.outcome .completeInit := by
  unfold HostCall.completeInitInPlace outcome accept? completeInit
  dsimp only
  rw [EngineCalls.runOn_get_bind]
  by_cases created : e.lifecycle = .created
  · rw [if_pos created, if_pos created]
    rfl
  · rw [if_neg created, if_neg created]
    rfl

theorem runOn_loadDisk (n : Nat) (image : ByteArray) :
    (HostCall.loadDiskInPlace n image).runOn e = e.outcome (.loadDisk n image) := by
  unfold HostCall.loadDiskInPlace outcome accept? loadDisk DiskController.load
  dsimp only
  rw [EngineCalls.runOn_lift_bind]
  cases DiskController.checkUnit n with
  | error error => rfl
  | ok u =>
      dsimp only
      rw [EngineCalls.runOn_get_bind, EngineCalls.runOn_lift_bind]
      cases DiskUnit.ofImage image e.devices.disks.sectorSize <;> rfl

theorem runOn_unloadDisk (n : Nat) :
    (HostCall.unloadDiskInPlace n).runOn e = e.outcome (.unloadDisk n) := by
  unfold HostCall.unloadDiskInPlace outcome accept? unloadDisk DiskController.unload
  dsimp only
  rw [EngineCalls.runOn_lift_bind]
  cases DiskController.checkUnit n with
  | error error => rfl
  | ok u =>
      dsimp only
      rw [EngineCalls.runOn_get_bind]
      cases loaded : e.devices.disks.unit? n with
      | some d => rfl
      | none =>
          have cleared := e.devices.disks.clear_of_unit?_eq_none loaded
          show (Except.ok true, e.withDisks
            { e.devices.disks with
              units := modifySlot e.devices.disks.units n fun _ => none }) = _
          rw [cleared]
          rfl

theorem runOn_setSliceCount (n : Nat) (count : UInt8) :
    (HostCall.setSliceCountInPlace n count).runOn e = e.outcome (.setSliceCount n count) := by
  unfold HostCall.setSliceCountInPlace outcome accept? setSliceCount DiskController.setSliceCount
  dsimp only
  rw [EngineCalls.runOn_get_bind, EngineCalls.runOn_lift_bind]
  cases e.devices.disks.unit n with
  | error error => rfl
  | ok d =>
      dsimp only
      rw [EngineCalls.runOn_lift_bind]
      cases DiskUnit.checkSliceCount count <;> rfl

theorem runOn_setManifest (n : Nat) (manifest : Bool) :
    (HostCall.setManifestInPlace n manifest).runOn e = e.outcome (.setManifest n manifest) := by
  unfold HostCall.setManifestInPlace outcome accept? setManifest DiskController.setManifest
  dsimp only
  rw [EngineCalls.runOn_get_bind, EngineCalls.runOn_lift_bind]
  cases e.devices.disks.unit n <;> rfl

theorem runOn_setSilenced (n : Nat) (silenced : Bool) :
    (HostCall.setSilencedInPlace n silenced).runOn e = e.outcome (.setSilenced n silenced) := by
  unfold HostCall.setSilencedInPlace outcome accept? setSilenced DiskController.setSilenced
  dsimp only
  rw [EngineCalls.runOn_lift_bind]
  cases DiskController.checkUnit n <;> rfl

theorem runOn_setSetting (s : String) :
    (HostCall.setSettingInPlace s).runOn e = e.outcome (.setSetting s) := by
  -- Four bytes over the front of a record leave its seal.
  have stored (v : Vector UInt8 5) (a b c d : UInt8) :
      #v[a, b, c, d] ++ v.drop 4 = #v[a, b, c, d, v[4]] := by
    refine Vector.ext fun i hi => ?_
    by_cases front : i < 4
    · refine (Vector.getElem_append_left front).trans ?_
      interval_cases i <;> rfl
    · obtain rfl : i = 4 := by omega
      exact (Vector.getElem_append_right hi (by decide)).trans (Vector.getElem_drop _)
  unfold HostCall.setSettingInPlace outcome accept? setSetting Nvram.setSetting Nvram.setBootOption
  dsimp only
  cases BootOption.parse? s with
  | none => rfl
  | some option =>
      dsimp only
      rw [← stored]
      rfl

/-- The host file device is answered only in the state that asks for it. -/
theorem runOn_ask (state : TransferState) (answer : EngineCalls Bool) :
    (do
      if (← get).devices.hostFile.state ≠ state then return false
      answer : EngineCalls Bool).runOn e =
        if e.devices.hostFile.state = state then answer.runOn e else (.ok false, e) := by
  rw [EngineCalls.runOn_get_bind]
  by_cases asked : e.devices.hostFile.state = state
  · rw [if_pos asked, if_neg (not_not.2 asked)]
  · rw [if_neg asked, if_pos asked]
    rfl

theorem runOn_provideFile (bytes : List UInt8) :
    (HostCall.provideFileInPlace bytes).runOn e = e.outcome (.provideFile bytes) := by
  rw [HostCall.provideFileInPlace, runOn_ask, outcome, accept?, provideFile, HostFile.provide]
  split <;> rfl

theorem runOn_cancelFile : HostCall.cancelFileInPlace.runOn e = e.outcome .cancelFile := by
  rw [HostCall.cancelFileInPlace, runOn_ask, outcome, accept?, cancelFile, HostFile.cancel]
  split <;> rfl

theorem runOn_acknowledgeFile :
    HostCall.acknowledgeFileInPlace.runOn e = e.outcome .acknowledgeFile := by
  rw [HostCall.acknowledgeFileInPlace, runOn_ask, outcome, accept?, acknowledgeFile,
    HostFile.acknowledge]
  split <;> rfl

/-- **A call in place** is answered, and leaves the engine, as the engine's own definitions say. -/
theorem runOn_inPlace (call : HostCall) : call.inPlace.runOn e = e.outcome call := by
  cases call with
  | loadRom image => exact e.runOn_loadRom image
  | completeInit => exact e.runOn_completeInit
  | loadDisk n image => exact e.runOn_loadDisk n image
  | unloadDisk n => exact e.runOn_unloadDisk n
  | setSliceCount n count => exact e.runOn_setSliceCount n count
  | setManifest n manifest => exact e.runOn_setManifest n manifest
  | setSilenced n silenced => exact e.runOn_setSilenced n silenced
  | setSetting s => exact e.runOn_setSetting s
  | provideFile bytes => exact e.runOn_provideFile bytes
  | cancelFile => exact e.runOn_cancelFile
  | acknowledgeFile => exact e.runOn_acknowledgeFile
  | _ => rfl

/-- What a call leaves is what its outcome leaves. -/
theorem outcome_snd (call : HostCall) : (e.outcome call).2 = e.call call := by
  have orSame_map (r : Except MachineError Engine) :
      (e.settle (r.map some)).2 = e.orSame r := by
    cases r <;> rfl
  have getD (r : Option Engine) : (e.settle (.ok r)).2 = r.getD e := by
    cases r <;> rfl
  cases call with
  | loadRom | completeInit | loadDisk | setSliceCount | setManifest | setSilenced | setSetting =>
      exact orSame_map _
  | unloadDisk n =>
      rw [outcome, accept?, call]
      cases e.unloadDisk n <;> rfl
  | provideFile | cancelFile | acknowledgeFile => exact getD _
  | _ => rfl

end Engine

/-! ### Which calls are rejected -/

/-- The calls that are rejected by an engine built from a configuration. A ROM image comes in banks of
32 KiB, and there are 16 disk units. -/
def HostCall.Rejected (config : Config) (e : Engine) : HostCall → Prop
  | .loadRom image => image.size = 0 ∨ ¬32768 ∣ image.size ∨ config.maxRomSize < image.size
  | .completeInit => e.lifecycle = .created
  | .loadDisk n image => 16 ≤ n ∨ image.size = 0 ∨ ¬config.sectorSize ∣ image.size
  | .unloadDisk n => 16 ≤ n
  | .setSliceCount n count =>
    16 ≤ n ∨ e.devices.disks.unit? n = none ∨ ¬(1 ≤ count.toNat ∧ count.toNat ≤ 128)
  | .setManifest n _ => 16 ≤ n ∨ e.devices.disks.unit? n = none
  | .setSilenced n _ => 16 ≤ n
  | .setSetting s => BootOption.parse? s = none
  | .provideFile _ | .cancelFile => e.devices.hostFile.state ≠ .waitingRead
  | .acknowledgeFile => e.devices.hostFile.state ≠ .writeReady
  | _ => False

instance (config : Config) (e : Engine) (call : HostCall) : Decidable (call.Rejected config e) := by
  cases call <;> unfold HostCall.Rejected <;> infer_instance

theorem isOk_iff {α : Type} {r : Except MachineError α} : r.isOk = true ↔ ∃ a, r = .ok a := by
  cases r with
  | ok a => exact iff_of_true rfl ⟨a, rfl⟩
  | error error => exact iff_of_false nofun nofun

/-- What follows a check without checking anything succeeds as the check does. -/
theorem isOk_bind_pure {α β : Type} (r : Except MachineError α) (f : α → β) :
    (r >>= fun a => pure (f a)).isOk = r.isOk := by
  cases r <;> rfl

theorem Memory.isOk_loadRom (m : Memory) (image : ByteArray) (limit : Nat) :
    (m.loadRom image limit).isOk = true ↔
      ¬(image.size = 0 ∨ ¬32768 ∣ image.size ∨ limit < image.size) := by
  rw [loadRom, isOk_bind_pure, isOk_iff]
  constructor
  · rintro ⟨u, ok⟩
    obtain ⟨some_bytes, whole, within⟩ := checkRomSize_eq_ok.1 ok
    unfold pageSize at whole
    omega
  · intro fits
    have whole : image.size % pageSize = 0 := by
      unfold pageSize
      omega
    exact ⟨(), checkRomSize_eq_ok.2 ⟨by omega, whole, by omega⟩⟩

namespace DiskController

variable (c : DiskController) (n : Nat)

theorem isOk_checkUnit : (checkUnit n).isOk = true ↔ ¬16 ≤ n := by
  have there : checkUnit n = .ok () ↔ n < 16 := checkUnit_eq_ok
  rw [isOk_iff, Nat.not_le, ← there]
  exact ⟨fun ⟨_, ok⟩ => ok, fun ok => ⟨(), ok⟩⟩

/-- A unit is there if its number is one of a slot that holds something. -/
theorem isOk_unit : (c.unit n).isOk = true ↔ ¬(16 ≤ n ∨ c.unit? n = none) := by
  rw [isOk_iff]
  constructor
  · rintro ⟨d, found⟩ missing
    have loaded := unit?_of_unit c n found
    rcases missing with beyond | empty
    · have past : c.units[n]? = none := Vector.getElem?_eq_none beyond
      rw [unit?, past] at loaded
      cases loaded
    · rw [empty] at loaded
      cases loaded
  · intro there
    obtain ⟨-, loaded⟩ := not_or.1 there
    obtain ⟨d, found⟩ := Option.ne_none_iff_exists'.1 loaded
    exact ⟨d, unit_of_unit? c n found⟩

theorem isOk_load (image : ByteArray) :
    (c.load n image).isOk = true ↔ ¬(16 ≤ n ∨ image.size = 0 ∨ ¬c.sectorSize ∣ image.size) := by
  rw [isOk_iff, not_or, not_or, not_not, Nat.not_le, Nat.dvd_iff_mod_eq_zero]
  constructor
  · rintro ⟨c', ok⟩
    obtain ⟨there, size, -⟩ := load_eq_ok.1 ok
    exact ⟨there, DiskUnit.checkSize_eq_ok.1 size⟩
  · rintro ⟨there, size⟩
    exact ⟨_, load_eq_ok.2 ⟨there, DiskUnit.checkSize_eq_ok.2 size, rfl⟩⟩

theorem isOk_unload : (c.unload n).isOk = true ↔ ¬16 ≤ n := by
  rw [← isOk_checkUnit, unload]
  cases checkUnit n with
  | error error => exact Iff.rfl
  | ok u => cases found : c.unit? n <;> exact Iff.rfl

theorem isOk_setSliceCount (count : UInt8) :
    (c.setSliceCount n count).isOk = true ↔
      ¬(16 ≤ n ∨ c.unit? n = none ∨ ¬(1 ≤ count.toNat ∧ count.toNat ≤ 128)) := by
  rw [← or_assoc, not_or, ← isOk_unit, not_not, setSliceCount]
  cases c.unit n with
  | error error => exact iff_of_false nofun fun both => nomatch both.1
  | ok d =>
      have checked : (DiskUnit.checkSliceCount count).isOk = true ↔
          1 ≤ count.toNat ∧ count.toNat ≤ 128 := by
        have counts : 0 < count.toNat ∧ count.toNat ≤ maxSlices ↔ _ :=
          (DiskUnit.checkSliceCount_eq_ok (u := ())).symm
        rw [isOk_iff]
        exact ⟨fun ⟨_, ok⟩ => counts.2 ok, fun fits => ⟨(), counts.1 fits⟩⟩
      refine Iff.trans ?_ (checked.trans (and_iff_right rfl).symm)
      show (DiskUnit.checkSliceCount count >>= _).isOk = true ↔ _
      rw [isOk_bind_pure]

theorem isOk_setManifest (manifest : Bool) :
    (c.setManifest n manifest).isOk = true ↔ ¬(16 ≤ n ∨ c.unit? n = none) := by
  rw [setManifest, isOk_bind_pure, isOk_unit]

theorem isOk_setSilenced (silenced : Bool) :
    (c.setSilenced n silenced).isOk = true ↔ ¬16 ≤ n := by
  rw [setSilenced, isOk_bind_pure, isOk_checkUnit]

end DiskController

namespace Engine

variable {config : Config} {e : Engine}

/-- The call is answered with an engine. -/
def accepts (e : Engine) (call : HostCall) : Bool :=
  match e.accept? call with
  | .ok (some _) => true
  | _ => false

theorem outcome_of_accepts {call : HostCall} (h : e.accepts call = true) :
    e.outcome call = (.ok true, e.call call) := by
  have left := e.outcome_snd call
  unfold accepts at h
  unfold outcome at left ⊢
  split at h
  · next answered =>
      rw [answered] at left ⊢
      rw [← left]
      rfl
  · cases h

theorem outcome_of_not_accepts {call : HostCall} (h : e.accepts call = false) :
    (e.outcome call).1 ≠ .ok true ∧ (e.outcome call).2 = e := by
  unfold accepts at h
  unfold outcome
  split at h
  · cases h
  · next other =>
      cases answered : e.accept? call with
      | error error => exact ⟨nofun, rfl⟩
      | ok answer =>
          cases answer with
          | none => exact ⟨nofun, rfl⟩
          | some e' => exact absurd answered (other e')

theorem accepts_of_map {α : Type} {r : Except MachineError α} {f : α → Engine} {call : HostCall}
    (h : e.accept? call = r.map fun a => some (f a)) : e.accepts call = r.isOk := by
  rw [accepts, h]
  cases r <;> rfl

/-- A call that changes the disks is accepted as they accept the change. -/
theorem accepts_of_disks {r : Except MachineError DiskController} {call : HostCall}
    (h : e.accept? call = (r >>= fun disks => pure (e.withDisks disks)).map some) :
    e.accepts call = r.isOk := by
  rw [accepts, h]
  cases r <;> rfl

/-- The host file device takes an answer only in the state that asks for it. -/
theorem accepts_of_state {r : Option Engine} {state : TransferState} {call : HostCall}
    (h : e.accept? call = .ok r)
    (asked : r.isSome = true ↔ e.devices.hostFile.state = state) :
    e.accepts call = true ↔ ¬e.devices.hostFile.state ≠ state := by
  rw [not_not, ← asked, accepts, h]
  cases r <;> rfl

/-- **A call is rejected** exactly in the cases that are listed. -/
theorem accepts_iff (built : e.config = config)
    (sectorSize : e.devices.disks.sectorSize = config.sectorSize) (call : HostCall) :
    e.accepts call = true ↔ ¬call.Rejected config e := by
  subst built
  cases call with
  | loadRom image =>
      rw [accepts_of_map (r := e.loadRom image) (f := id) rfl, loadRom, isOk_bind_pure,
        Memory.isOk_loadRom]
      rfl
  | completeInit =>
      rw [accepts_of_map (r := e.completeInit) (f := id) rfl, completeInit]
      by_cases created : e.lifecycle = .created
      · rw [if_pos created]
        exact iff_of_false Bool.false_ne_true fun granted => granted created
      · rw [if_neg created]
        exact iff_of_true rfl created
  | loadDisk n image =>
      rw [accepts_of_disks (r := e.devices.disks.load n image) rfl,
        DiskController.isOk_load, sectorSize]
      rfl
  | unloadDisk n =>
      have unloads : (e.unloadDisk n).isOk = (e.devices.disks.unload n).isOk := by
        unfold unloadDisk
        cases e.devices.disks.unload n <;> rfl
      rw [accepts_of_map (r := e.unloadDisk n) (f := Prod.snd) rfl, unloads,
        DiskController.isOk_unload]
      rfl
  | setSliceCount n count =>
      rw [accepts_of_disks (r := e.devices.disks.setSliceCount n count) rfl,
        DiskController.isOk_setSliceCount]
      rfl
  | setManifest n manifest =>
      rw [accepts_of_disks (r := e.devices.disks.setManifest n manifest) rfl,
        DiskController.isOk_setManifest]
      rfl
  | setSilenced n silenced =>
      rw [accepts_of_disks (r := e.devices.disks.setSilenced n silenced) rfl,
        DiskController.isOk_setSilenced]
      rfl
  | setSetting s =>
      rw [accepts_of_map (r := e.setSetting s) (f := id) rfl, setSetting, isOk_bind_pure,
        Nvram.setSetting]
      show _ ↔ ¬BootOption.parse? s = none
      cases BootOption.parse? s with
      | none => exact iff_of_false Bool.false_ne_true fun named => named rfl
      | some option => exact iff_of_true rfl (Option.some_ne_none _)
  | provideFile bytes =>
      refine accepts_of_state rfl ?_
      rw [provideFile, Option.isSome_map, HostFile.provide]
      split
      · next waiting => exact iff_of_true rfl waiting
      · next other => exact iff_of_false Bool.false_ne_true other
  | cancelFile =>
      refine accepts_of_state rfl ?_
      rw [cancelFile, Option.isSome_map, HostFile.cancel]
      split
      · next waiting => exact iff_of_true rfl waiting
      · next other => exact iff_of_false Bool.false_ne_true other
  | acknowledgeFile =>
      refine accepts_of_state rfl ?_
      rw [acknowledgeFile, Option.isSome_map, HostFile.acknowledge]
      split
      · next finished => exact iff_of_true rfl finished
      · next other => exact iff_of_false Bool.false_ne_true other
  | _ => exact iff_of_true rfl id

/-- **A rejected call changes nothing**, however far the program that carries it out in place has come;
and a call is rejected exactly in the cases that are listed, on an engine of any history. -/
theorem rejected_calls_change_nothing {e₀ : Engine} (built : new config = .ok e₀) (steps : List Step)
    (call : HostCall) :
    let e := steps.foldl after e₀
    (e.accepts call = true ↔ ¬call.Rejected config e) ∧
      (call.Rejected config e →
        (call.inPlace.runOn e).1 ≠ .ok true ∧ (call.inPlace.runOn e).2 = e ∧ e.call call = e) ∧
      (¬call.Rejected config e → call.inPlace.runOn e = (.ok true, e.call call)) := by
  intro e
  have same : e.config = config := by
    rw [← config_of_new built]
    exact e₀.config_foldl steps
  have sectorSize : e.devices.disks.sectorSize = config.sectorSize := by
    rw [← same]
    exact sectorSize_foldl built steps
  have exactly := accepts_iff same sectorSize call
  refine ⟨exactly, fun rejected => ?_, fun granted => ?_⟩
  · have refused : e.accepts call = false := by
      rw [Bool.eq_false_iff]
      exact fun accepted => exactly.1 accepted rejected
    obtain ⟨answer, left⟩ := outcome_of_not_accepts refused
    rw [e.runOn_inPlace call]
    exact ⟨answer, left, (e.outcome_snd call).symm.trans left⟩
  · rw [e.runOn_inPlace call]
    exact outcome_of_accepts (exactly.2 granted)

/-- A disk is loaded and sliced; an image of half a sector is to take its place. -/
theorem halfSector_rejected :
    ∃ e₀, new {} = .ok e₀ ∧
      let e := [Step.host (.loadDisk 3 (Bytes.zeros 512)), .host (.setSliceCount 3 20)].foldl after e₀
      (HostCall.loadDisk 3 (Bytes.zeros 256)).Rejected {} e ∧
        ((HostCall.loadDisk 3 (Bytes.zeros 256)).inPlace.runOn e).2 = e := by
  have accepted : Config.validate {} = .ok () := by rfl
  obtain ⟨e₀, built⟩ := new_of_validate accepted
  have rejected (e : Engine) : (HostCall.loadDisk 3 (Bytes.zeros 256)).Rejected {} e := by
    refine .inr (.inr ?_)
    rw [Bytes.size_zeros]
    decide
  have nothing := rejected_calls_change_nothing built
    [.host (.loadDisk 3 (Bytes.zeros 512)), .host (.setSliceCount 3 20)]
    (.loadDisk 3 (Bytes.zeros 256))
  exact ⟨e₀, built, rejected _, (nothing.2.1 (rejected _)).2.1⟩

end Engine

end BankedZ80
