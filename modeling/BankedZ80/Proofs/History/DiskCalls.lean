import BankedZ80.Proofs.History.DiskLog

/-!
# Calls on a controller

Whoever changes a controller makes a `DiskCall`: the host with its own calls, the firmware with sector
writes and seek positions, and the guest with writes to registers. A call may be refused
(`DiskController.attempt`), and then the controller stays as it was (`DiskController.after`). A
history is a list of calls, from a controller without images on.

`DiskController.changes` says what a call changes when it is accepted. A call does that, and nothing
else but to registers and seek positions (`evolves_after`), and so does a history
(`evolves_foldl`). So whatever is known of changes is known of calls.
-/

namespace BankedZ80

/-- A call on a disk controller. -/
inductive DiskCall where
  | load (n : Nat) (image : ByteArray)
  | unload (n : Nat)
  | setSliceCount (n : Nat) (count : UInt8)
  /-- A sector write of the host. -/
  | writeSector (n : Nat) (lba : UInt32) (bytes : ByteArray)
  /-- A sector write of the firmware, from memory. -/
  | writeFrom (n : Nat) (lba : UInt32) (m : Memory) (address : UInt16)
  /-- A register write of the guest; commands read and write sectors. -/
  | writeRegister (register v : UInt8) (m : Memory)
  | setManifest (n : Nat) (manifest : Bool)
  | setSilenced (n : Nat) (silenced : Bool)
  | setAllSilenced (silenced : Bool)
  | clearDirty (n : Nat)
  | takeWarning
  | setSeek (n : Nat) (lba : UInt32)
  | resetRegisters

namespace DiskController

/-- The controller after a call that may be refused. -/
def attempt (c : DiskController) : DiskCall → Except MachineError DiskController
  | .load n image => c.load n image
  | .unload n => (c.unload n).map Prod.snd
  | .setSliceCount n count => c.setSliceCount n count
  | .writeSector n lba bytes => c.writeSector n lba bytes
  | .writeFrom n lba m address => c.writeFrom n lba m address
  | .writeRegister register v m => .ok (c.writeRegister register v m).1
  | .setManifest n manifest => c.setManifest n manifest
  | .setSilenced n silenced => c.setSilenced n silenced
  | .setAllSilenced silenced => .ok (c.setAllSilenced silenced)
  | .clearDirty n => .ok (c.clearDirty n)
  | .takeWarning => .ok c.takeWarning.2
  | .setSeek n lba => .ok (c.setSeek n lba)
  | .resetRegisters => .ok c.resetRegisters

/-- The controller after a call; a refused call leaves it as it was. -/
def after (c : DiskController) (call : DiskCall) : DiskController :=
  match c.attempt call with
  | .ok c' => c'
  | .error _ => c

/-- What a call changes when it is accepted. -/
def changes (c : DiskController) : DiskCall → List DiskChange
  | .load n image => [.event (.loaded n image)]
  | .unload n => [.event (.unloaded n)]
  | .setSliceCount n count => [.sliced n count]
  | .writeSector n lba bytes => [.event (.wrote n lba bytes)]
  | .writeFrom n lba m address =>
    [.event (.wrote n lba (Bytes.ofList (m.readBlock address c.sectorSize)))]
  | .writeRegister register v m =>
    if register = 7 ∧ v = 2 ∧ (c.command 2 m).1.status = 0 then
      [.event (.wrote c.selected.toNat c.lba (Bytes.ofList (m.readBlock c.address c.sectorSize)))]
    else []
  | .setManifest n manifest => [.flagged n manifest]
  | .setSilenced n silenced => [.silenced n silenced]
  | .setAllSilenced silenced => [.silencedAll silenced]
  | .clearDirty n => [.saved n (c.image n)]
  | .takeWarning => [.warningTaken]
  | .setSeek _ _ | .resetRegisters => []

/-- What a history changes, in order. -/
def changeHistory (c : DiskController) : List DiskCall → List DiskChange
  | [] => []
  | call :: rest =>
    (if (c.attempt call).isOk then c.changes call else []) ++ (c.after call).changeHistory rest

variable {c c' : DiskController} {call : DiskCall}

theorem after_of_ok (ok : c.attempt call = .ok c') : c.after call = c' := by rw [after, ok]

theorem after_of_error {e : MachineError} (refused : c.attempt call = .error e) : c.after call = c := by
  rw [after, refused]

/-- A register write writes a sector if it is a write command that succeeds, and else nothing. -/
theorem evolves_writeRegister (register v : UInt8) (m : Memory) :
    Evolves c (c.changes (.writeRegister register v m)) (c.writeRegister register v m).1 := by
  by_cases command : register = 7 ∧ v = 2
  · obtain ⟨rfl, rfl⟩ := command
    have evolves := c.evolves_writeCommand m
    rw [changes]
    by_cases done : (c.command 2 m).1.status = 0
    · rw [if_pos done] at evolves
      rw [if_pos ⟨rfl, rfl, done⟩]
      exact evolves
    · rw [if_neg done] at evolves
      rw [if_neg fun h => done h.2.2]
      exact evolves
  · rw [changes, if_neg fun h => command ⟨h.1, h.2.1⟩]
    exact .of_registers (c.writeRegister_resetRegisters command m)

/-- An accepted call changes a controller as it says. -/
theorem evolves_attempt (ok : c.attempt call = .ok c') : Evolves c (c.changes call) c' := by
  cases call with
  | load n image => exact .of_change (.load ok)
  | unload n =>
      rw [attempt] at ok
      cases hu : c.unload n with
      | error e =>
          rw [hu] at ok
          cases ok
      | ok r =>
          rw [hu] at ok
          cases ok
          exact .of_change (.unload hu)
  | setSliceCount n count => exact .of_change (.slice ok)
  | writeSector n lba bytes =>
      obtain ⟨_, legal, rest⟩ := bind_eq_ok.1 ok
      cases rest
      exact .of_change (.write legal)
  | writeFrom n lba m address =>
      obtain ⟨_, legal, rest⟩ := bind_eq_ok.1 ok
      cases rest
      exact .of_change (c.change_copyIn m address legal)
  | writeRegister register v m =>
      cases ok
      exact evolves_writeRegister register v m
  | setManifest n manifest => exact .of_change (.flag ok)
  | setSilenced n silenced => exact .of_change (.silence ok)
  | setAllSilenced silenced =>
      cases ok
      exact .of_change (.silenceAll silenced)
  | clearDirty n =>
      cases ok
      exact .of_change (.save n)
  | takeWarning =>
      cases ok
      exact .of_change .takeWarning
  | setSeek n lba =>
      cases ok
      exact .of_registers (setSeek_resetRegisters c n lba)
  | resetRegisters =>
      cases ok
      exact .of_registers c.resetRegisters_idem

/-- **A call** changes a controller as it says, or not at all. -/
theorem evolves_after (c : DiskController) (call : DiskCall) :
    Evolves c (if (c.attempt call).isOk then c.changes call else []) (c.after call) := by
  cases attempted : c.attempt call with
  | ok c' =>
      rw [after_of_ok attempted]
      exact evolves_attempt attempted
  | error e =>
      rw [after_of_error attempted]
      exact .refl c

/-- **A history** changes a controller as it says. By induction on the calls. -/
theorem evolves_foldl (c : DiskController) (calls : List DiskCall) :
    Evolves c (c.changeHistory calls) (calls.foldl after c) := by
  induction calls generalizing c with
  | nil => exact .refl c
  | cons call rest ih =>
      rw [changeHistory, List.foldl_cons]
      exact (c.evolves_after call).trans (ih (c.after call))

end DiskController

end BankedZ80
