import BankedZ80.Proofs.History.Action

/-!
# Histories of an engine

An engine's state changes by calls of its host and by actions of its guest. `HostCall` lists the calls
that may change anything, batches included, and `Engine.call` is what a call leaves; a refused call
leaves the engine as it was. A history is a list of steps, each a call, a single guest action out of
nowhere, or a sector write of a host that holds the disk controller itself.

`Engine.call_effect` says what a call can do to the engine, whichever it is.
-/

namespace BankedZ80

/-- A call of the host on its engine. -/
inductive HostCall where
  | loadRom (image : ByteArray)
  | completeInit
  | reset
  | runFor (clock : Clock) (budget : Nat)
  | queueInput (v : UInt8)
  | queueText (s : String)
  | drainOutput
  | setSink (hasSink : Bool)
  | loadDisk (n : Nat) (image : ByteArray)
  | unloadDisk (n : Nat)
  | setSliceCount (n : Nat) (count : UInt8)
  | setManifest (n : Nat) (manifest : Bool)
  | setSilenced (n : Nat) (silenced : Bool)
  | setAllSilenced (silenced : Bool)
  | clearDirty (n : Nat)
  | takeWarning
  | setSetting (s : String)
  | takeSettingChange
  | clearNvram
  | provideFile (bytes : List UInt8)
  | cancelFile
  | acknowledgeFile

/-- A step of a history. -/
inductive Step where
  | host (call : HostCall)
  | guest (action : GuestAction)
  /-- A sector write on the controller itself. -/
  | writeSector (n : Nat) (lba : UInt32) (bytes : ByteArray)

namespace Engine

/-- The engine after a call that may be refused. -/
def orSame (e : Engine) : Except MachineError Engine → Engine
  | .ok e' => e'
  | .error _ => e

/-- The engine after a call of its host. -/
def call (e : Engine) : HostCall → Engine
  | .loadRom image => e.orSame (e.loadRom image)
  | .completeInit => e.orSame e.completeInit
  | .reset => e.reset
  | .runFor clock budget => (e.runFor clock budget).2
  | .queueInput v => e.queueInput v
  | .queueText s => e.queueText s
  | .drainOutput => e.drainOutput.2
  | .setSink hasSink => e.setSink hasSink
  | .loadDisk n image => e.orSame (e.loadDisk n image)
  | .unloadDisk n => e.orSame ((e.unloadDisk n).map Prod.snd)
  | .setSliceCount n count => e.orSame (e.setSliceCount n count)
  | .setManifest n manifest => e.orSame (e.setManifest n manifest)
  | .setSilenced n silenced => e.orSame (e.setSilenced n silenced)
  | .setAllSilenced silenced => e.setAllSilenced silenced
  | .clearDirty n => e.clearDirty n
  | .takeWarning => e.takeWarning.2
  | .setSetting s => e.orSame (e.setSetting s)
  | .takeSettingChange => e.takeSettingChange.2
  | .clearNvram => e.clearNvram
  | .provideFile bytes => (e.provideFile bytes).getD e
  | .cancelFile => e.cancelFile.getD e
  | .acknowledgeFile => e.acknowledgeFile.getD e

/-- The engine after a step. -/
def after (e : Engine) : Step → Engine
  | .host call => e.call call
  | .guest action => { e with machine := { e.machine with board := e.machine.board.after action } }
  | .writeSector n lba bytes =>
    e.orSame ((e.devices.disks.writeSector n lba bytes).map e.withDisks)

/-! ### What a call leaves alone -/

section

variable (e : Engine) {γ : Type} (part : Engine → γ)

/-- A call that may be refused and concerns a part in neither case leaves it alone. -/
theorem part_orSame {r : Except MachineError Engine} (h : ∀ e', r = .ok e' → part e' = part e) :
    part (e.orSame r) = part e := by
  cases r with
  | ok e' => exact h e' rfl
  | error error => rfl

/-- A call of the host file device leaves every other part alone. -/
theorem part_getD_withHostFile (h : ∀ hostFile, part (e.withHostFile hostFile) = part e)
    (r : Option HostFile) : part ((r.map e.withHostFile).getD e) = part e := by
  cases r with
  | some hostFile => exact h hostFile
  | none => rfl

end

/-! ### What a call can do -/

/-- What a call of the host can do to its engine. -/
inductive CallEffect (e : Engine) : Engine → Prop where
  | refused : CallEffect e e
  | rom {image : ByteArray} (ok : Memory.checkRomSize image.size e.config.maxRomSize = .ok ()) :
      CallEffect e { e.withMemory { e.memory with rom := image } with lifecycle := .romLoaded }
  | powerOn (lifecycle : Lifecycle) : CallEffect e { e.powerOn with lifecycle }
  | batch (clock : Clock) (budget : Nat) : CallEffect e (e.runFor clock budget).2
  | uart (uart : Uart) : CallEffect e (e.withUart uart)
  | sink (hasSink : Bool) : CallEffect e (e.setSink hasSink)
  | disks (disks : DiskController) : CallEffect e (e.withDisks disks)
  | nvram (nvram : Nvram) : CallEffect e (e.withNvram nvram)
  | hostFile (hostFile : HostFile) : CallEffect e (e.withHostFile hostFile)

namespace CallEffect

variable {e : Engine}

theorem orSame {r : Except MachineError Engine} (h : ∀ e', r = .ok e' → CallEffect e e') :
    CallEffect e (e.orSame r) := by
  cases r with
  | ok e' => exact h e' rfl
  | error error => exact .refused

/-- A call that changes a part of the engine, unless the part refuses it. -/
theorem orSame_map {α : Type} {r : Except MachineError α} {f : α → Engine}
    (h : ∀ a, CallEffect e (f a)) : CallEffect e (e.orSame (r.map f)) := by
  cases r with
  | ok a => exact h a
  | error error => exact .refused

theorem getD_map {r : Option HostFile} : CallEffect e ((r.map e.withHostFile).getD e) := by
  cases r with
  | some hostFile => exact .hostFile hostFile
  | none => exact .refused

end CallEffect

variable (e : Engine)

theorem loadRom_effect {image : ByteArray} {e' : Engine} (ok : e.loadRom image = .ok e') :
    CallEffect e e' := by
  obtain ⟨memory, loaded, h⟩ := bind_eq_ok.1 ok
  obtain ⟨u, legal, changed⟩ := bind_eq_ok.1 loaded
  cases h
  cases changed
  exact .rom legal

theorem completeInit_effect {e' : Engine} (ok : e.completeInit = .ok e') : CallEffect e e' := by
  unfold completeInit at ok
  split at ok
  · cases ok
  · cases ok
    exact .powerOn .ready

theorem reset_effect : CallEffect e e.reset := by
  unfold reset
  dsimp only
  split
  · exact .powerOn .ready
  · exact .powerOn e.lifecycle

/-- What unloading leaves is what the controller leaves. -/
theorem unloadDisk_map_snd (n : Nat) :
    (e.unloadDisk n).map Prod.snd =
      (e.devices.disks.unload n).map fun r => e.withDisks r.2 := by
  unfold unloadDisk
  cases e.devices.disks.unload n <;> rfl

/-- Whatever the call. -/
theorem call_effect (call : HostCall) : CallEffect e (e.call call) := by
  cases call with
  | loadRom image => exact .orSame fun e' ok => e.loadRom_effect ok
  | completeInit => exact .orSame fun e' ok => e.completeInit_effect ok
  | reset => exact e.reset_effect
  | runFor clock budget => exact .batch clock budget
  | queueInput | queueText | drainOutput => exact .uart _
  | setSink hasSink => exact .sink hasSink
  | loadDisk | setSliceCount | setManifest | setSilenced => exact .orSame_map .disks
  | unloadDisk n =>
      rw [call, unloadDisk_map_snd]
      exact .orSame_map fun r => .disks r.2
  | setAllSilenced | clearDirty | takeWarning => exact .disks _
  | setSetting s => exact .orSame_map .nvram
  | takeSettingChange | clearNvram => exact .nvram _
  | provideFile | cancelFile | acknowledgeFile => exact .getD_map

end Engine

end BankedZ80
