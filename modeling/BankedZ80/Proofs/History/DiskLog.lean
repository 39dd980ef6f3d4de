import BankedZ80.Proofs.Batch.Turn
import BankedZ80.Proofs.Config
import BankedZ80.Proofs.Disk.Change
import BankedZ80.Proofs.Disk.Command
import BankedZ80.Proofs.Hbios.Effect
import BankedZ80.Proofs.History.Step

/-!
# What a history does to the disks

The log of a history is read off from outside: a write command counts when the status register is
zero after it, a firmware transfer for as many sectors as it leaves in E, and a call of the host
when it was not refused. The bytes of a written sector are those that the memory held at that
moment.

* `Board.diskEvents` is the log of an action of the guest, `Engine.diskEvents` that of a step, and
  `Engine.diskChanges` adds what the host does to flags, slices and warnings.
* `Board.evolves_after` shows that an action changes the controller as its log says and in no other
  way, `Engine.evolves_after` the same of every step, and `Engine.evolves_foldl` of the whole
  history.
-/

namespace BankedZ80

/-- Sectors written one after another from a block and a memory address on. -/
def DiskEvent.writtenFrom (m : Memory) (n size : Nat) (lba : UInt32) (address : UInt16) :
    Nat → List DiskEvent
  | 0 => []
  | count + 1 =>
    .wrote n lba (Bytes.ofList (m.readBlock address size)) ::
      writtenFrom m n size (lba + 1) (address + size.toUInt16) count

/-- What an action of the guest does to the disks. -/
def Board.diskEvents (b : Board) : GuestAction → List DiskEvent
  | .access (.output port v) =>
    let c := b.devices.disks
    if b.devices.ports.resolve (lowByte port) = some (.disk, 7) ∧ v = 2 ∧
        (b.after (.access (.output port v))).devices.disks.status = 0 then
      DiskEvent.writtenFrom b.memory c.selected.toNat c.sectorSize c.lba c.address 1
    else []
  | .access _ => []
  | .firmware now core =>
    let c := b.devices.disks
    if HbiosFunction.ofCode? core.b = some .diskWrite then
      DiskEvent.writtenFrom b.memory core.c.toNat c.sectorSize (c.seek core.c.toNat) core.hl
        (Hbios.call now ⟨core, b⟩).1.core.e.toNat
    else []

namespace DiskController

variable (c : DiskController)

/-! ### Commands -/

/-- A sector copied in from memory is a sector written. -/
theorem change_copyIn {n : Nat} {lba : UInt32} (m : Memory) (address : UInt16)
    (ok : c.checkWrite n lba c.sectorSize = .ok ()) :
    Change c (.event (.wrote n lba (Bytes.ofList (m.readBlock address c.sectorSize))))
      (c.copyIn n lba m address) := by
  refine .write ?_
  rw [size_readBlock]
  exact ok

theorem resetRegisters_registers (selected status : UInt8) (lba : UInt32) (address : UInt16) :
    { c with selected, lba, address, status }.resetRegisters = c.resetRegisters := rfl

/-- Every command but the write command concerns registers and memory alone. -/
theorem command_resetRegisters {v : UInt8} (hv : v ≠ 2) (m : Memory) :
    (c.command v m).1.resetRegisters = c.resetRegisters := by
  have run : (c.runCommand v m).1.resetRegisters = c.resetRegisters := by
    unfold runCommand
    split
    · rfl
    · next two => exact absurd (UInt8.toNat_inj.1 two) hv
    · rfl
  rw [DiskController.command]
  split
  · cases c.checkCommand v with
    | ok _ => exact run
    | error e => rfl
  · rfl

/-- A write command writes a sector when the status says that it succeeded, and else nothing. -/
theorem evolves_writeCommand (m : Memory) :
    Evolves c
      ((if (c.command 2 m).1.status = 0 then
          DiskEvent.writtenFrom m c.selected.toNat c.sectorSize c.lba c.address 1
        else []).map .event)
      (c.command 2 m).1 := by
  rw [show (2 : UInt8) = sectorCommand true from rfl]
  cases hs : c.checkSector true c.selected.toNat c.lba with
  | error e =>
      rw [command_of_error c true m hs, if_neg (DiskStatus.code_ofError_ne_zero e)]
      exact .of_registers rfl
  | ok _ =>
      have done : (c.command (sectorCommand true) m).1.status = 0 := by
        rw [command_of_ok c true m hs]
        rfl
      rw [if_pos done, command_of_ok c true m hs]
      exact .change (c.change_copyIn m c.address hs) (.of_registers rfl)

/-- Every other register write concerns registers and memory alone. -/
theorem writeRegister_resetRegisters {register v : UInt8} (h : ¬(register = 7 ∧ v = 2)) (m : Memory) :
    (c.writeRegister register v m).1.resetRegisters = c.resetRegisters := by
  unfold DiskController.writeRegister
  split
  case h_8 seven =>
    have hr : register = 7 := UInt8.toNat_inj.1 seven
    exact c.command_resetRegisters (fun hv => h ⟨hr, hv⟩) m
  case h_9 => rfl
  all_goals exact resetRegisters_registers c _ _ _ _

end DiskController

/-! ### Firmware transfers -/

namespace Hbios.Transfer

open DiskController

/-- A transfer before its first round. -/
def ofCall (s : HbiosState) : Transfer :=
  { disks := s.board.devices.disks, memory := s.board.memory, address := s.core.hl, moved := 0 }

theorem transfer_disks (s : HbiosState) (write : Bool) :
    (transfer s write).1.board.devices.disks =
      ((ofCall s).moveMany write s.core.c.toNat s.core.e.toNat).2.disks := rfl

theorem transfer_moved (s : HbiosState) (write : Bool) :
    (transfer s write).1.core.e =
      ((ofCall s).moveMany write s.core.c.toNat s.core.e.toNat).2.moved := rfl

variable {t : Transfer} {n : Nat}

/-- What a successful check of a round has found. -/
theorem check_eq_ok (h : t.check true n = .ok ()) :
    ∃ d, t.disks.unit n = .ok d ∧ t.disks.checkWrite n d.seek t.disks.sectorSize = .ok () := by
  obtain ⟨d, hd, ok⟩ := bind_eq_ok.1 h
  exact ⟨d, hd, ok⟩

/-- A round of a transfer that passes its check writes the sector at the seek position. -/
theorem checkWrite_of_check (h : t.check true n = .ok ()) :
    t.disks.checkWrite n (t.disks.seek n) t.disks.sectorSize = .ok () := by
  obtain ⟨d, hd, ok⟩ := check_eq_ok h
  rw [seek_of_unit t.disks n hd]
  exact ok

/-- A round leaves the seek position at the next sector. -/
theorem seek_move (h : t.check true n = .ok ()) :
    (t.move true n).disks.seek n = t.disks.seek n + 1 := by
  obtain ⟨d, hd, -⟩ := check_eq_ok h
  have written : (t.disks.copyIn n (t.disks.seek n) t.memory t.address).unit? n =
      some (d.putSector (t.disks.seek n)
        (Bytes.ofList (t.memory.readBlock t.address t.disks.sectorSize))) := by
    rw [copyIn, unit?_putSector, unit?_of_unit t.disks n hd, if_pos rfl]
    rfl
  exact seek_setSeek written (t.disks.seek n + 1)

/-- A round leaves the sector size alone. -/
theorem sectorSize_move (t : Transfer) (n : Nat) :
    (t.move true n).disks.sectorSize = t.disks.sectorSize := by
  show (t.disks.copyIn n (t.disks.seek n) t.memory t.address).sectorSize = t.disks.sectorSize
  rw [copyIn, putSector_eq]
  rfl

/-- A round counts its sector. The count is a byte; `room` keeps it from wrapping. -/
theorem moved_move (t : Transfer) (write : Bool) (n : Nat) (room : t.moved.toNat < 255) :
    (t.move write n).moved.toNat = t.moved.toNat + 1 := by
  show (t.moved + 1).toNat = t.moved.toNat + 1
  have one : (1 : UInt8).toNat = 1 := rfl
  rw [UInt8.toNat_add, one]
  omega

/-- There is room for all the sectors that a call asks for. -/
theorem room_ofCall (s : HbiosState) : (ofCall s).moved.toNat + s.core.e.toNat ≤ 255 := by
  have zero : (ofCall s).moved.toNat = 0 := rfl
  have count := s.core.e.toNat_lt
  omega

/-- A transfer writes as many sectors as it counts. By induction on the number of sectors that are
left. -/
theorem evolves_moveMany (count : Nat) (room : t.moved.toNat + count ≤ 255) :
    ∃ k, (t.moveMany true n count).2.moved.toNat = t.moved.toNat + k ∧
      Evolves t.disks
        ((DiskEvent.writtenFrom t.memory n t.disks.sectorSize (t.disks.seek n) t.address k).map .event)
        (t.moveMany true n count).2.disks := by
  induction count generalizing t with
  | zero => exact ⟨0, rfl, .refl t.disks⟩
  | succ count ih =>
      rw [moveMany]
      cases hc : t.check true n with
      | error e => exact ⟨0, rfl, .refl t.disks⟩
      | ok _ =>
          have one := t.moved_move true n (by omega)
          have address : (t.move true n).address = t.address + t.disks.sectorSize.toUInt16 := by
            rw [← sectorSize_move t n]
            rfl
          obtain ⟨k, moved, evolves⟩ := ih (t := t.move true n) (by omega)
          rw [sectorSize_move, seek_move hc, address] at evolves
          refine ⟨k + 1, ?_, ?_⟩
          · rw [moved, one]
            omega
          · rw [DiskEvent.writtenFrom, List.map_cons]
            exact .change (t.disks.change_copyIn t.memory t.address (checkWrite_of_check hc))
              (.registers (setSeek_resetRegisters _ n _) evolves)

/-- Reading concerns seek positions and memory alone. -/
theorem moveMany_resetRegisters (t : Transfer) (n count : Nat) :
    (t.moveMany false n count).2.disks.resetRegisters = t.disks.resetRegisters := by
  induction count generalizing t with
  | zero => rfl
  | succ count ih =>
      rw [moveMany]
      cases t.check false n with
      | error e => rfl
      | ok _ => exact (ih (t.move false n)).trans (setSeek_resetRegisters t.disks n _)

end Hbios.Transfer

/-! ### Actions of the guest -/

namespace Devices

variable (d : Devices) (m : Memory) (port v : UInt8)

theorem input_disks : (d.input m port).2.disks = d.disks := by
  unfold input
  split <;> rfl

theorem output_disks_of_disk {register : UInt8} (h : d.ports.resolve port = some (.disk, register)) :
    (d.output m port v).2.1.disks = (d.disks.writeRegister register v m).1 := by
  rw [output, h]

theorem output_disks_of_other (h : ∀ register, d.ports.resolve port ≠ some (.disk, register)) :
    (d.output m port v).2.1.disks = d.disks := by
  unfold output
  split
  case h_3 register there => exact absurd there (h register)
  all_goals rfl

end Devices

namespace Board

open DiskController

variable (b : Board)

theorem evolves_output (port : UInt16) (v : UInt8) :
    Evolves b.devices.disks ((b.diskEvents (.access (.output port v))).map .event)
      (b.after (.access (.output port v))).devices.disks := by
  have after : (b.after (.access (.output port v))).devices.disks =
    (b.devices.output b.memory (lowByte port) v).2.1.disks := rfl
  unfold diskEvents
  by_cases hw : b.devices.ports.resolve (lowByte port) = some (.disk, 7) ∧ v = 2
  · obtain ⟨there, rfl⟩ := hw
    rw [Devices.output_disks_of_disk _ _ _ _ there] at after
    simp only [there, true_and, after]
    exact b.devices.disks.evolves_writeCommand b.memory
  · dsimp only
    rw [if_neg fun both => hw ⟨both.1, both.2.1⟩, after]
    by_cases hd : ∃ register, b.devices.ports.resolve (lowByte port) = some (.disk, register)
    · obtain ⟨register, there⟩ := hd
      rw [Devices.output_disks_of_disk _ _ _ _ there]
      refine .of_registers (writeRegister_resetRegisters _ (fun both => hw ⟨?_, both.2⟩) b.memory)
      rw [there, both.1]
    · rw [Devices.output_disks_of_other _ _ _ _ fun register there => hd ⟨register, there⟩]
      exact .refl _

/-- A firmware call that is no write transfer concerns seek positions alone. -/
theorem call_resetRegisters (now : UInt64) (core : Core)
    (hf : HbiosFunction.ofCode? core.b ≠ some .diskWrite) :
    (Hbios.call now ⟨core, b⟩).1.board.devices.disks.resetRegisters =
      b.devices.disks.resetRegisters := by
  have effect := Hbios.call_effect ⟨core, b⟩ now
  generalize Hbios.call now ⟨core, b⟩ = r at effect ⊢
  cases effect with
  | seek core n lba => exact setSeek_resetRegisters b.devices.disks n lba
  | move write function =>
      cases write with
      | true => exact absurd function hf
      | false =>
          rw [Hbios.Transfer.transfer_disks]
          exact Hbios.Transfer.moveMany_resetRegisters (.ofCall ⟨core, b⟩) core.c.toNat core.e.toNat
  | _ => rfl

theorem evolves_firmware (now : UInt64) (core : Core) :
    Evolves b.devices.disks ((b.diskEvents (.firmware now core)).map .event)
      (b.after (.firmware now core)).devices.disks := by
  rw [show (b.after (.firmware now core)).devices.disks = (b.afterCall now core).devices.disks
    from rfl, afterCall_devices]
  unfold diskEvents
  by_cases hf : HbiosFunction.ofCode? core.b = some .diskWrite
  · have call : Hbios.call now ⟨core, b⟩ = Hbios.transfer ⟨core, b⟩ true := by
      rw [Hbios.call, hf]
    obtain ⟨k, moved, evolves⟩ := Hbios.Transfer.evolves_moveMany (t := .ofCall ⟨core, b⟩)
      (n := core.c.toNat) core.e.toNat (Hbios.Transfer.room_ofCall ⟨core, b⟩)
    have count : (Hbios.transfer ⟨core, b⟩ true).1.core.e.toNat = k := by
      rw [Hbios.Transfer.transfer_moved, moved]
      exact Nat.zero_add k
    dsimp only
    rw [if_pos hf, call, count, Hbios.Transfer.transfer_disks]
    exact evolves
  · dsimp only
    rw [if_neg hf]
    exact .of_registers (b.call_resetRegisters now core hf)

/-- **An action of the guest** changes the controller as its log says. -/
theorem evolves_after (a : GuestAction) :
    Evolves b.devices.disks ((b.diskEvents a).map .event) (b.after a).devices.disks := by
  cases a with
  | access a =>
      cases a with
      | write address byte => exact .refl _
      | input port =>
          rw [show (b.after (.access (.input port))).devices.disks =
            (b.devices.input b.memory (lowByte port)).2.disks from rfl, Devices.input_disks]
          exact .refl _
      | output port v => exact b.evolves_output port v
  | firmware now core => exact b.evolves_firmware now core

/-- What a list of actions does to the disks. -/
def diskHistory (b : Board) : List GuestAction → List DiskEvent
  | [] => []
  | a :: rest => b.diskEvents a ++ (b.after a).diskHistory rest

theorem evolves_foldl (actions : List GuestAction) :
    Evolves b.devices.disks ((b.diskHistory actions).map .event)
      (actions.foldl after b).devices.disks := by
  induction actions generalizing b with
  | nil => exact .refl _
  | cons a rest ih =>
      rw [diskHistory, List.map_append, List.foldl_cons]
      exact (b.evolves_after a).trans (ih (b.after a))

end Board

/-! ### New engines -/

namespace Engine

open DiskController

/-- A new engine has no disks. -/
theorem unit?_of_new {config : Config} {e : Engine} (h : new config = .ok e) (n : Nat) :
    e.devices.disks.unit? n = none := by
  rw [(fresh_of_new h).disks]
  exact unit?_of_replicate rfl n

/-! ### Steps of the engine -/

/-- What a step does to the disks. -/
def diskEvents (e : Engine) : Step → List DiskEvent
  | .host (.loadDisk n image) => if (e.loadDisk n image).isOk then [.loaded n image] else []
  | .host (.unloadDisk n) => if (e.unloadDisk n).isOk then [.unloaded n] else []
  | .host (.runFor clock budget) =>
    if e.isReady then e.machine.board.diskHistory (e.machine.actionsFrom clock 0 budget) else []
  | .host _ => []
  | .guest action => e.machine.board.diskEvents action
  | .writeSector n lba bytes =>
    if (e.devices.disks.writeSector n lba bytes).isOk then [.wrote n lba bytes] else []

/-- What a history does to the disks. -/
def diskHistory (e : Engine) : List Step → List DiskEvent
  | [] => []
  | s :: rest => e.diskEvents s ++ (e.after s).diskHistory rest

/-- What a step changes in the controller. -/
def diskChanges (e : Engine) : Step → List DiskChange
  | .host (.clearDirty n) => [.saved n (e.devices.disks.image n)]
  | .host (.setSliceCount n count) => if (e.setSliceCount n count).isOk then [.sliced n count] else []
  | .host (.setManifest n manifest) =>
    if (e.setManifest n manifest).isOk then [.flagged n manifest] else []
  | .host (.setSilenced n silenced) =>
    if (e.setSilenced n silenced).isOk then [.silenced n silenced] else []
  | .host (.setAllSilenced silenced) => [.silencedAll silenced]
  | .host .takeWarning => [.warningTaken]
  | s => (e.diskEvents s).map .event

/-- What a history changes in the controller. -/
def diskChangeHistory (e : Engine) : List Step → List DiskChange
  | [] => []
  | s :: rest => e.diskChanges s ++ (e.after s).diskChangeHistory rest

/-- Among the changes of a step are its events. -/
theorem filterMap_diskChanges (e : Engine) (s : Step) :
    (e.diskChanges s).filterMap DiskChange.event? = e.diskEvents s := by
  have events (log : List DiskEvent) :
      (log.map DiskChange.event).filterMap DiskChange.event? = log := by
    rw [List.filterMap_map]
    exact List.filterMap_some
  unfold diskChanges
  split
  case h_1 | h_5 | h_6 => rfl
  case h_2 | h_3 | h_4 => split <;> rfl
  case h_7 => exact events _

theorem filterMap_diskChangeHistory (e : Engine) (steps : List Step) :
    (e.diskChangeHistory steps).filterMap DiskChange.event? = e.diskHistory steps := by
  induction steps generalizing e with
  | nil => rfl
  | cons s rest ih =>
      rw [diskChangeHistory, diskHistory, List.filterMap_append, filterMap_diskChanges, ih]

variable (e : Engine)

/-- A call of the disks that may be refused makes its change, or none. -/
theorem evolves_attempt {r : Except MachineError DiskController} {a : DiskChange}
    (change : ∀ c, r = .ok c → Change e.devices.disks a c) :
    Evolves e.devices.disks (if (r.map e.withDisks).isOk then [a] else [])
      (e.orSame (r.map e.withDisks)).devices.disks := by
  cases r with
  | ok c => exact .of_change (change c rfl)
  | error error => exact .refl _

theorem evolves_unloadDisk (n : Nat) :
    Evolves e.devices.disks (if (e.unloadDisk n).isOk then [.event (.unloaded n)] else [])
      (e.orSame ((e.unloadDisk n).map Prod.snd)).devices.disks := by
  have attempt : e.unloadDisk n =
    (e.devices.disks.unload n).map fun r => (r.1, e.withDisks r.2) := rfl
  rw [attempt]
  cases hl : e.devices.disks.unload n with
  | error error => exact .refl _
  | ok r => exact .of_change (.unload hl)

theorem evolves_writeSector (n : Nat) (lba : UInt32) (bytes : ByteArray) :
    Evolves e.devices.disks ((e.diskEvents (.writeSector n lba bytes)).map .event)
      (e.after (.writeSector n lba bytes)).devices.disks := by
  rw [diskEvents, after]
  unfold writeSector
  cases hw : e.devices.disks.checkWrite n lba bytes.size with
  | error error => exact .refl _
  | ok _ => exact .of_change (.write hw)

theorem evolves_runFor (clock : Clock) (budget : Nat) :
    Evolves e.devices.disks ((e.diskEvents (.host (.runFor clock budget))).map .event)
      (e.runFor clock budget).2.devices.disks := by
  unfold diskEvents
  dsimp only
  split
  · next ready =>
      rw [runFor_of_ready (isReady_iff.1 ready), endBatch_disks, Machine.runFrom_board]
      exact e.machine.board.evolves_foldl _
  · next notReady =>
      rw [runFor_of_not_ready (mt isReady_iff.2 notReady)]
      exact .refl _

/-- Bringing the machine to its first state concerns registers and seek positions alone. -/
theorem powerOn_resetRegisters :
    e.powerOn.devices.disks.resetRegisters = e.devices.disks.resetRegisters :=
  resetRegisters_idem e.devices.disks

theorem evolves_completeInit :
    Evolves e.devices.disks [] (e.orSame e.completeInit).devices.disks := by
  unfold completeInit
  split
  · exact .refl _
  · exact .of_registers e.powerOn_resetRegisters

theorem evolves_reset : Evolves e.devices.disks [] e.reset.devices.disks := by
  unfold reset
  dsimp only
  split <;> exact .of_registers e.powerOn_resetRegisters

/-- A call that is none of the disks leaves them alone. -/
theorem disks_loadRom (image : ByteArray) :
    (e.orSame (e.loadRom image)).devices.disks = e.devices.disks := by
  unfold loadRom
  cases e.memory.loadRom image e.config.maxRomSize <;> rfl

theorem disks_setSetting (s : String) :
    (e.orSame (e.setSetting s)).devices.disks = e.devices.disks := by
  unfold setSetting
  cases e.devices.nvram.setSetting s <;> rfl

theorem disks_getD_withHostFile (hostFile : Option HostFile) :
    ((hostFile.map e.withHostFile).getD e).devices.disks = e.devices.disks :=
  e.part_getD_withHostFile (·.devices.disks) (fun _ => rfl) hostFile

/-- **A step** changes the controller as its log says. -/
theorem evolves_after (s : Step) :
    Evolves e.devices.disks (e.diskChanges s) (e.after s).devices.disks := by
  cases s with
  | guest action => exact e.machine.board.evolves_after action
  | writeSector n lba bytes => exact e.evolves_writeSector n lba bytes
  | host call =>
      cases call with
      | loadRom image => exact (e.disks_loadRom image).symm ▸ .refl _
      | completeInit => exact e.evolves_completeInit
      | reset => exact e.evolves_reset
      | runFor clock budget => exact e.evolves_runFor clock budget
      | loadDisk n image =>
          rw [diskChanges, diskEvents, apply_ite (List.map DiskChange.event)]
          · exact e.evolves_attempt fun c ok => .load ok
          all_goals nofun
      | unloadDisk n =>
          rw [diskChanges, diskEvents, apply_ite (List.map DiskChange.event)]
          · exact e.evolves_unloadDisk n
          all_goals nofun
      | setSliceCount n count => exact e.evolves_attempt fun c ok => .slice ok
      | setManifest n manifest => exact e.evolves_attempt fun c ok => .flag ok
      | setSilenced n silenced => exact e.evolves_attempt fun c ok => .silence ok
      | setAllSilenced silenced => exact .of_change (.silenceAll silenced)
      | clearDirty n => exact .of_change (.save n)
      | takeWarning => exact .of_change .takeWarning
      | setSetting s => exact (e.disks_setSetting s).symm ▸ .refl _
      | provideFile bytes => exact (e.disks_getD_withHostFile _).symm ▸ .refl _
      | cancelFile => exact (e.disks_getD_withHostFile _).symm ▸ .refl _
      | acknowledgeFile => exact (e.disks_getD_withHostFile _).symm ▸ .refl _
      | _ => exact .refl _

/-- **A history** changes the controller as its log says. -/
theorem evolves_foldl (steps : List Step) :
    Evolves e.devices.disks (e.diskChangeHistory steps) (steps.foldl after e).devices.disks := by
  induction steps generalizing e with
  | nil => exact .refl _
  | cons s rest ih =>
      rw [diskChangeHistory, List.foldl_cons]
      exact (e.evolves_after s).trans (ih (e.after s))

/-! ### The sector size -/

/-- No step changes the configuration. -/
theorem config_after (s : Step) : (e.after s).config = e.config := by
  cases s with
  | guest action => rfl
  | writeSector n lba bytes =>
      rw [after]
      cases e.devices.disks.writeSector n lba bytes <;> rfl
  | host call =>
      show (e.call call).config = e.config
      have effect := e.call_effect call
      generalize e.call call = e' at effect ⊢
      cases effect with
      | batch clock budget =>
          unfold runFor
          split
          · rfl
          · exact e.endBatch_config _ _
      | _ => rfl

theorem config_foldl (steps : List Step) : (steps.foldl after e).config = e.config := by
  induction steps generalizing e with
  | nil => rfl
  | cons s rest ih => exact (ih (e.after s)).trans (e.config_after s)

theorem config_of_new {config : Config} {e : Engine} (h : new config = .ok e) : e.config = config :=
  (fresh_of_new h).config

/-- **The sector size** of the disks is the configured one, whatever happens. -/
theorem sectorSize_foldl {config : Config} {e : Engine} (h : new config = .ok e) (steps : List Step) :
    (steps.foldl after e).devices.disks.sectorSize = (steps.foldl after e).config.sectorSize := by
  rw [(e.evolves_foldl steps).sectorSize, e.config_foldl, (fresh_of_new h).disks, config_of_new h]

end Engine

end BankedZ80
