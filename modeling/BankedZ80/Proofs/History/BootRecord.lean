import BankedZ80.Bundle
import BankedZ80.Proofs.Batch.Turn
import BankedZ80.Proofs.Config
import BankedZ80.Proofs.Hbios.Effect
import BankedZ80.Proofs.History.Calls
import BankedZ80.Proofs.History.Step
import BankedZ80.Proofs.Nvram.Record

/-!
# What a history does to the boot record

A history says which actions it takes on the boot record: a write to one of its two ports, and a call
of the host that stores, clears or asks. A bundle with a boot string stores it when it is installed,
and not when it is refused.

* `Board.recordActions`, `Engine.recordActions` and `Engine.recordHistory` list the actions of a guest
  action, of a step and of a history.
* `Engine.nvram_after` shows that a step leaves the record as its actions do and
  `Engine.nvram_foldl` the same of a whole history.
* `Engine.record_follows_history` reads seal, setting and change flag off the list.
-/

namespace BankedZ80

/-- A step of a history in which bundles are installed, too. -/
inductive BundleStep where
  | step (s : Step)
  | install (b : LoadedBundle)

/-! ### Actions of the guest -/

namespace Board

variable (b : Board)

/-- What an action of the guest does to the boot record. -/
def recordActions : GuestAction → List NvramAction
  | .access (.output port v) =>
    match b.devices.ports.resolve (lowByte port) with
    | some (.nvram, register) => [.write register v]
    | _ => []
  | _ => []

/-- What a list of actions does to the boot record. -/
def recordHistory (b : Board) : List GuestAction → List NvramAction
  | [] => []
  | a :: rest => b.recordActions a ++ (b.after a).recordHistory rest

theorem nvram_input (d : Devices) (m : Memory) (port : UInt8) :
    (d.input m port).2.nvram = d.nvram := by
  unfold Devices.input
  split <;> rfl

/-- Firmware calls do not reach the boot record. -/
theorem nvram_afterCall (now : UInt64) (core : Core) :
    (b.afterCall now core).devices.nvram = b.devices.nvram := by
  have effect := Hbios.call_effect ⟨core, b⟩ now
  rw [afterCall_devices]
  generalize Hbios.call now ⟨core, b⟩ = r at effect ⊢
  cases effect <;> rfl

/-- **An action of the guest** leaves the boot record as its list says. -/
theorem nvram_after (a : GuestAction) :
    (b.after a).devices.nvram = (b.recordActions a).foldl Nvram.after b.devices.nvram := by
  cases a with
  | firmware now core => exact b.nvram_afterCall now core
  | access a =>
      cases a with
      | write address byte => rfl
      | input port => exact nvram_input b.devices b.memory (lowByte port)
      | output port v =>
          have after : (b.after (.access (.output port v))).devices.nvram =
            (b.devices.output b.memory (lowByte port) v).2.1.nvram := rfl
          rw [after, recordActions, Devices.output]
          cases decoded : b.devices.ports.resolve (lowByte port) with
          | none => rfl
          | some target =>
              obtain ⟨device, register⟩ := target
              cases device <;> rfl

theorem nvram_foldl (actions : List GuestAction) :
    (actions.foldl after b).devices.nvram =
      (b.recordHistory actions).foldl Nvram.after b.devices.nvram := by
  induction actions generalizing b with
  | nil => rfl
  | cons a rest ih => rw [recordHistory, List.foldl_append, ← nvram_after, List.foldl_cons, ih]

end Board

/-! ### Steps of the engine -/

namespace Engine

variable (e : Engine)

/-- What a step does to the boot record. -/
def recordActions : Step → List NvramAction
  | .host (.setSetting s) => [.set s]
  | .host .clearNvram => [.clear]
  | .host .takeSettingChange => [.ask]
  | .host (.runFor clock budget) =>
    if e.isReady then e.machine.board.recordHistory (e.machine.actionsFrom clock 0 budget) else []
  | .host _ => []
  | .guest action => e.machine.board.recordActions action
  | .writeSector _ _ _ => []

theorem nvram_endBatch (report : BatchReport) (machine : Machine) :
    (e.endBatch report machine).2.devices.nvram = machine.board.devices.nvram := by
  rw [endBatch_devices]

theorem nvram_runFor (clock : Clock) (budget : Nat) :
    (e.runFor clock budget).2.devices.nvram =
      (e.recordActions (.host (.runFor clock budget))).foldl Nvram.after e.devices.nvram := by
  unfold recordActions
  dsimp only
  split
  · next ready =>
      rw [runFor_of_ready (isReady_iff.1 ready), nvram_endBatch, Machine.runFrom_board,
        Board.nvram_foldl]
      rfl
  · next notReady =>
      rw [runFor_of_not_ready (mt isReady_iff.2 notReady)]
      rfl

theorem nvram_setSetting (s : String) :
    (e.orSame (e.setSetting s)).devices.nvram = e.devices.nvram.after (.set s) := by
  rw [setSetting, Nvram.after]
  cases e.devices.nvram.setSetting s <;> rfl

theorem nvram_loadRom {image : ByteArray} {e' : Engine} (h : e.loadRom image = .ok e') :
    e'.devices.nvram = e.devices.nvram := by
  obtain ⟨_, -, h⟩ := bind_eq_ok.1 h
  cases h
  rfl

theorem nvram_loadDisk {n : Nat} {image : ByteArray} {e' : Engine} (h : e.loadDisk n image = .ok e') :
    e'.devices.nvram = e.devices.nvram := by
  obtain ⟨_, -, h⟩ := bind_eq_ok.1 h
  cases h
  rfl

theorem nvram_setManifest {n : Nat} {manifest : Bool} {e' : Engine}
    (h : e.setManifest n manifest = .ok e') : e'.devices.nvram = e.devices.nvram := by
  obtain ⟨_, -, h⟩ := bind_eq_ok.1 h
  cases h
  rfl

theorem nvram_completeInit {e' : Engine} (h : e.completeInit = .ok e') :
    e'.devices.nvram = e.devices.nvram := by
  unfold completeInit at h
  split at h <;> cases h
  rfl

/-- **A step** leaves the boot record as its list says. -/
theorem nvram_after (s : Step) :
    (e.after s).devices.nvram = (e.recordActions s).foldl Nvram.after e.devices.nvram := by
  cases s with
  | guest action => exact e.machine.board.nvram_after action
  | writeSector n lba bytes =>
      rw [after]
      cases e.devices.disks.writeSector n lba bytes <;> rfl
  | host call =>
      cases call with
      | runFor clock budget => exact e.nvram_runFor clock budget
      | setSetting s => exact e.nvram_setSetting s
      | loadRom image => exact e.part_orSame (·.devices.nvram) fun e' h => e.nvram_loadRom h
      | loadDisk n image => exact e.part_orSame (·.devices.nvram) fun e' h => e.nvram_loadDisk h
      | setManifest n manifest => exact e.part_orSame (·.devices.nvram) fun e' h => e.nvram_setManifest h
      | completeInit => exact e.part_orSame (·.devices.nvram) fun e' h => e.nvram_completeInit h
      | setSliceCount | setSilenced =>
          refine e.part_orSame (·.devices.nvram) fun e' h => ?_
          obtain ⟨_, -, h⟩ := bind_eq_ok.1 h
          cases h
          rfl
      | unloadDisk n =>
          rw [after, call, unloadDisk]
          cases e.devices.disks.unload n <;> rfl
      | reset =>
          show e.reset.devices.nvram = e.devices.nvram
          unfold reset
          dsimp only
          split <;> rfl
      | provideFile | cancelFile | acknowledgeFile =>
          exact e.part_getD_withHostFile (·.devices.nvram) (fun _ => rfl) _
      | _ => rfl

/-! ### Installing a bundle -/

/-- The engine after a step. -/
def afterBundle : BundleStep → Engine
  | .step s => e.after s
  | .install b => (b.install.runOn e).2

/-- What a step does to the boot record; an installation stores the boot string of its bundle. -/
def bundleRecordActions : BundleStep → List NvramAction
  | .step s => e.recordActions s
  | .install b =>
    match (b.install.runOn e).1, b.manifest.boot with
    | .ok _, some s => [.set s]
    | _, _ => []

/-- What a history does to the boot record. -/
def recordHistory (e : Engine) : List BundleStep → List NvramAction
  | [] => []
  | s :: rest => e.bundleRecordActions s ++ (e.afterBundle s).recordHistory rest

/-- Loading the disks of a bundle is of no concern to the boot record. -/
theorem keeps_nvram_disks (disks : List BundleDisk) :
    EngineCalls.Keeps (·.devices.nvram) (forIn disks PUnit.unit fun d _ => do
      EngineCalls.attempt (·.loadDisk d.unit d.image)
      EngineCalls.attempt (·.setManifest d.unit d.entry.manifest)
      pure (ForInStep.yield PUnit.unit)) := by
  have disk (d : BundleDisk) : EngineCalls.Keeps (·.devices.nvram)
      (EngineCalls.attempt (·.loadDisk d.unit d.image) >>= fun _ =>
        EngineCalls.attempt (·.setManifest d.unit d.entry.manifest)) :=
    (EngineCalls.Keeps.attempt fun e _ h => e.nvram_loadDisk h).bind fun _ =>
      .attempt fun e _ h => e.nvram_setManifest h
  simpa only [bind_assoc] using EngineCalls.Keeps.forIn disk disks

/-- An installation up to its boot string. -/
def loadBundle (b : LoadedBundle) : EngineCalls Unit := do
  EngineCalls.attempt (·.loadRom b.rom)
  for d in b.disks do
    EngineCalls.attempt (·.loadDisk d.unit d.image)
    EngineCalls.attempt (·.setManifest d.unit d.entry.manifest)
  EngineCalls.attempt (·.completeInit)

theorem keeps_nvram_loadBundle (b : LoadedBundle) :
    EngineCalls.Keeps (·.devices.nvram) (loadBundle b) := by
  refine (EngineCalls.Keeps.attempt fun e _ h => e.nvram_loadRom h).bind fun _ => ?_
  exact (keeps_nvram_disks b.disks).bind fun _ => .attempt fun e _ h => e.nvram_completeInit h

theorem install_eq (b : LoadedBundle) :
    b.install = do
      b.check (← get).config
      loadBundle b
      match b.manifest.boot with
      | some s => EngineCalls.attempt (·.setSetting s)
      | none => pure ()
      return b.manifest := by
  refine bind_congr fun e => bind_congr fun checked => ?_
  unfold loadBundle
  exact ((bind_assoc _ _ _).trans (bind_congr fun loaded => bind_assoc _ _ _)).symm

/-- **An installation** stores the boot string last, if at all. -/
theorem nvram_install (b : LoadedBundle) :
    (b.install.runOn e).2.devices.nvram =
      (e.bundleRecordActions (.install b)).foldl Nvram.after e.devices.nvram := by
  have loaded := keeps_nvram_loadBundle b e
  rw [bundleRecordActions, install_eq, EngineCalls.runOn_bind, EngineCalls.runOn_get]
  dsimp only
  rw [EngineCalls.runOn_bind, EngineCalls.runOn_lift]
  cases b.check e.config with
  | error error => rfl
  | ok checked =>
      dsimp only
      rw [EngineCalls.runOn_bind]
      generalize (loadBundle b).runOn e = r at loaded
      obtain ⟨result, e'⟩ := r
      cases result with
      | error error => exact loaded
      | ok done =>
          cases b.manifest.boot with
          | none => exact loaded
          | some s =>
              have stored := e'.nvram_setSetting s
              dsimp only at loaded ⊢
              rw [EngineCalls.runOn_bind, EngineCalls.runOn_attempt]
              cases set : e'.setSetting s with
              | ok e'' =>
                  rw [set] at stored
                  rw [← loaded]
                  exact stored
              | error error => exact loaded

/-- **A step**, be it an installation. -/
theorem nvram_afterBundle (s : BundleStep) :
    (e.afterBundle s).devices.nvram =
      (e.bundleRecordActions s).foldl Nvram.after e.devices.nvram := by
  cases s with
  | step s => exact e.nvram_after s
  | install b => exact e.nvram_install b

/-- **A history** leaves the boot record as its list says. By induction on its steps. -/
theorem nvram_foldl (steps : List BundleStep) :
    (steps.foldl afterBundle e).devices.nvram =
      (e.recordHistory steps).foldl Nvram.after e.devices.nvram := by
  induction steps generalizing e with
  | nil => rfl
  | cons s rest ih =>
      rw [recordHistory, List.foldl_append, ← nvram_afterBundle, List.foldl_cons, ih]

/-- **The boot record in every state that hosts and guests can reach**, with bundles installed in
between. Its last byte is the checksum of the others, the setting is empty or the canonical text of
the stored option, and the flag tells whether an action changed the record since the host last
asked. -/
theorem record_follows_history {config : Config} {e : Engine} (built : new config = .ok e)
    (steps : List BundleStep) :
    (steps.foldl afterBundle e).devices.nvram.Intact ∧
    ((steps.foldl afterBundle e).takeSettingChange.1 = true ↔
      Nvram.ChangedSinceAsked {} (e.recordHistory steps)) := by
  have record := e.nvram_foldl steps
  rw [(fresh_of_new built).nvram] at record
  have sealed : Nvram.Sealed {} := rfl
  have flag : (steps.foldl afterBundle e).takeSettingChange.1 =
    (steps.foldl afterBundle e).devices.nvram.changed := rfl
  constructor
  · rw [record]
    exact (sealed.foldl _).intact
  · rw [flag, record, Nvram.changed_foldl]
    simp

/-- The guest writes the signature and the host asks; then the guest moves the latch to the checksum,
and the host stores an option. -/
def signAndStore : List BundleStep :=
  [.step (.guest (.access (.output 0xA1 0x57))), .step (.host .takeSettingChange),
    .step (.guest (.access (.output 0xA0 4))), .step (.host (.setSetting "H"))]

theorem signAndStore_recorded :
    ∃ e, new {} = .ok e ∧ (signAndStore.foldl afterBundle e).devices.nvram.Intact ∧
      ((signAndStore.foldl afterBundle e).takeSettingChange.1 = true ↔
        Nvram.ChangedSinceAsked {} (e.recordHistory signAndStore)) := by
  have accepted : Config.validate {} = .ok () := by decide +kernel
  obtain ⟨e, built⟩ := new_of_validate accepted
  exact ⟨e, built, record_follows_history built signAndStore⟩

end Engine

end BankedZ80
