import BankedZ80.Proofs.Batch.Turn
import BankedZ80.Proofs.Config
import BankedZ80.Proofs.Disk.Outline
import BankedZ80.Proofs.HostFile.Action
import BankedZ80.Proofs.Safety.Batch

/-!
# What a guest cannot do

A guest reaches the memory and the devices by accesses of the processor and by firmware calls, through
any bank and any port, for as long as it likes. `Engine.Confined` lists what stays as the host has set
it up all the same, and `Engine.runFor_confined` says that a batch of any guest leaves it so.

* **Board.** `Board.Framed` holds between a board and what an action leaves, and is kept over any
  number of actions: the ROM, the port table, the outline of every disk and the silenced warnings.
* **Files.** The state of a transfer moves only as `TransferState.GuestStep` allows. It gets idle when
  the guest closes a file that it still waits for, and not otherwise.
-/

namespace BankedZ80

/-! ### The board -/

/-- Whatever the guest does to the disks is a sector write. -/
theorem DiskEvent.wrote_of_mem_writtenFrom {m : Memory} {n size count : Nat} {lba : UInt32}
    {address : UInt16} {event : DiskEvent} (h : event ∈ writtenFrom m n size lba address count) :
    ∃ lba bytes, event = .wrote n lba bytes := by
  induction count generalizing lba address with
  | zero => cases h
  | succ count ih =>
      rw [writtenFrom, List.mem_cons] at h
      obtain rfl | later := h
      · exact ⟨_, _, rfl⟩
      · exact ih later

theorem Devices.input_ports (d : Devices) (m : Memory) (port : UInt8) :
    (d.input m port).2.ports = d.ports := by
  unfold input
  split <;> rfl

theorem Devices.output_ports (d : Devices) (m : Memory) (port v : UInt8) :
    (d.output m port v).2.1.ports = d.ports := by
  unfold output
  split <;> rfl

namespace Board

variable (b : Board)

theorem wrote_of_mem_diskEvents {a : GuestAction} {event : DiskEvent} (h : event ∈ b.diskEvents a) :
    ∃ n lba bytes, event = .wrote n lba bytes := by
  unfold diskEvents at h
  split at h
  · split at h
    · exact ⟨_, DiskEvent.wrote_of_mem_writtenFrom h⟩
    · cases h
  · cases h
  · dsimp only at h
    split at h
    · exact ⟨_, DiskEvent.wrote_of_mem_writtenFrom h⟩
    · cases h

/-- A firmware call works on the serial port and on the disks; any other part of the devices it leaves
alone. -/
theorem part_afterCall {γ : Type} (part : Devices → γ)
    (uart : ∀ d uart, part { d with uart } = part d)
    (disks : ∀ d disks, part { d with disks } = part d) (now : UInt64) (core : Core) :
    part (b.afterCall now core).devices = part b.devices := by
  have effect := Hbios.call_effect ⟨core, b⟩ now
  rw [afterCall_devices]
  generalize Hbios.call now ⟨core, b⟩ = r at effect ⊢
  cases effect with
  | takeInput | putOutput => exact uart b.devices _
  | move | seek => exact disks b.devices _
  | _ => rfl

theorem ports_after (a : GuestAction) : (b.after a).devices.ports = b.devices.ports := by
  cases a with
  | firmware now core => exact b.part_afterCall (·.ports) (fun _ _ => rfl) (fun _ _ => rfl) now core
  | access a =>
      cases a with
      | write address byte => rfl
      | input port => exact b.devices.input_ports b.memory (lowByte port)
      | output port v => exact b.devices.output_ports b.memory (lowByte port) v

/-- What the host has set up on a board, and guests leave alone. -/
structure Framed (b b' : Board) : Prop where
  rom : b'.memory.rom = b.memory.rom
  ports : b'.devices.ports = b.devices.ports
  disks : b.devices.disks.SameOutlines b'.devices.disks

/-- An action of the guest leaves it alone. -/
theorem framed_after (a : GuestAction) : Framed b (b.after a) where
  rom := (b.samePages_after a).rom
  ports := b.ports_after a
  disks := by
    refine .evolves (b.evolves_after a) fun change written => ?_
    obtain ⟨event, happened, rfl⟩ := List.mem_map.1 written
    obtain ⟨n, lba, bytes, rfl⟩ := b.wrote_of_mem_diskEvents happened
    exact ⟨n, lba, bytes, rfl⟩

theorem framed_foldl (actions : List GuestAction) : Framed b (actions.foldl after b) := by
  induction actions generalizing b with
  | nil => exact ⟨rfl, rfl, .refl _⟩
  | cons a rest ih =>
      have first := b.framed_after a
      have later := ih (b.after a)
      exact ⟨later.rom.trans first.rom, later.ports.trans first.ports,
        first.disks.trans later.disks⟩

end Board

/-! ### Transfers of files -/

/-- How a guest moves the state of a transfer on, with a proof of `closes` where it closes a file that it
reads. -/
inductive TransferState.GuestStep (closes : Prop) : TransferState → TransferState → Prop
  | stay (s : TransferState) : GuestStep closes s s
  | openRead : GuestStep closes .idle .waitingRead
  | openWrite : GuestStep closes .idle .writing
  | closeRead (h : closes) : GuestStep closes .waitingRead .idle
  | closeWrite : GuestStep closes .writing .writeReady

theorem TransferState.GuestStep.imp {closes closes' : Prop} {s s' : TransferState}
    (step : GuestStep closes s s') (h : closes → closes') : GuestStep closes' s s' := by
  cases step with
  | stay => exact .stay _
  | openRead => exact .openRead
  | openWrite => exact .openWrite
  | closeRead here => exact .closeRead (h here)
  | closeWrite => exact .closeWrite

namespace HostFile

open TransferState (GuestStep)

variable (h : HostFile)

theorem idle_of_not_busy (free : ¬h.busy) : h.state = .idle :=
  (busy_eq_false.1 (eq_false_of_ne_true free)).1

theorem guestStep_command (v : UInt8) : GuestStep (v = 3) h.state (h.command v).state := by
  unfold command
  split
  · unfold openRead
    split
    · exact .stay _
    · next free =>
        rw [h.idle_of_not_busy free]
        exact .openRead
  · unfold openWrite
    split
    · exact .stay _
    · next free =>
        rw [h.idle_of_not_busy free]
        exact .openWrite
  · next three =>
      unfold closeRead
      dsimp only
      split
      · next waiting =>
          rw [waiting]
          exact .closeRead (UInt8.toNat_inj.1 three)
      · exact .stay _
  · unfold closeWrite
    split
    · next writing =>
        rw [writing]
        exact .closeWrite
    · exact .stay _
  · exact .stay _
  · exact .stay _

theorem guestStep_writeRegister (register v : UInt8) :
    GuestStep (register = 0 ∧ v = 3) h.state (h.writeRegister register v).state := by
  unfold writeRegister
  split
  · next zero => exact (h.guestStep_command v).imp fun three => ⟨UInt8.toNat_inj.1 zero, three⟩
  · unfold typeName
    split <;> exact .stay _
  · split <;> exact .stay _
  · exact .stay _

theorem state_readRegister (register : UInt8) : (h.readRegister register).2.state = h.state := by
  unfold readRegister
  split
  case h_3 => split <;> rfl
  all_goals rfl

end HostFile

namespace Board

open TransferState (GuestStep)

variable (b : Board)

/-- The guest closes the file that it reads, or still waits for. -/
def ClosesRead (b : Board) (a : GuestAction) : Prop :=
  ∃ port, a = .access (.output port 3) ∧
    b.devices.ports.resolve (lowByte port) = some (.hostFile, 0)

theorem guestStep_input (port : UInt16) :
    (b.after (.access (.input port))).devices.hostFile.state = b.devices.hostFile.state := by
  show (b.devices.input b.memory (lowByte port)).2.hostFile.state = b.devices.hostFile.state
  unfold Devices.input
  split
  case h_5 register _ => exact b.devices.hostFile.state_readRegister register
  all_goals rfl

theorem guestStep_output (port : UInt16) (v : UInt8) :
    GuestStep (b.ClosesRead (.access (.output port v))) b.devices.hostFile.state
      (b.after (.access (.output port v))).devices.hostFile.state := by
  have after : (b.after (.access (.output port v))).devices.hostFile =
    (b.devices.output b.memory (lowByte port) v).2.1.hostFile := rfl
  rw [after]
  unfold Devices.output
  split
  case h_5 register decoded =>
    refine (b.devices.hostFile.guestStep_writeRegister register v).imp ?_
    rintro ⟨rfl, rfl⟩
    exact ⟨port, rfl, decoded⟩
  all_goals exact .stay _

/-- **An action of the guest** moves the state of a transfer on as a guest may. -/
theorem guestStep_after (a : GuestAction) :
    GuestStep (b.ClosesRead a) b.devices.hostFile.state (b.after a).devices.hostFile.state := by
  cases a with
  | firmware now core =>
      have same : (b.after (.firmware now core)).devices.hostFile = b.devices.hostFile :=
        b.part_afterCall (·.hostFile) (fun _ _ => rfl) (fun _ _ => rfl) now core
      rw [same]
      exact .stay _
  | access a =>
      cases a with
      | write address byte => exact .stay _
      | input port =>
          rw [guestStep_input]
          exact .stay _
      | output port v => exact b.guestStep_output port v

/-- What no step of a guest ends lasts. -/
theorem state_foldl {I : TransferState → Prop}
    (kept : ∀ {closes s s'}, GuestStep closes s s' → I s → I s') (actions : List GuestAction)
    (start : I b.devices.hostFile.state) : I (actions.foldl after b).devices.hostFile.state := by
  induction actions generalizing b with
  | nil => exact start
  | cons a rest ih => exact ih (b.after a) (kept (b.guestStep_after a) start)

end Board

/-! ### Batches -/

namespace Engine

/-- What the actions of a guest leave as the host has set it up, and how they move a transfer on. -/
structure Confined (e : Engine) (actions : List GuestAction) (e' : Engine) : Prop where
  rom : e'.memory.rom = e.memory.rom
  config : e'.config = e.config
  ports : e'.devices.ports = e.devices.ports
  loaded (n : Nat) : e'.devices.disks.isLoaded n = e.devices.disks.isLoaded n
  imageSize (n : Nat) :
    (e'.devices.disks.image n).map (·.size) = (e.devices.disks.image n).map (·.size)
  sliceCount (n : Nat) : e'.devices.disks.sliceCount n = e.devices.disks.sliceCount n
  manifest (n : Nat) :
    (e'.devices.disks.unit? n).map (·.manifest) = (e.devices.disks.unit? n).map (·.manifest)
  silenced : e'.devices.disks.silenced = e.devices.disks.silenced
  lifecycle : e'.lifecycle = .ready ∨ e'.lifecycle = .halted
  /-- The transfer device is as the actions leave it. -/
  hostFile : e'.devices.hostFile = (actions.foldl Board.after e.machine.board).devices.hostFile
  /-- An action after which no transfer is under way, and before which one was, closes a file that the
  guest waits for. -/
  becomesIdle (past : List GuestAction) (a : GuestAction) (rest : List GuestAction) :
    actions = past ++ a :: rest →
      let b := past.foldl Board.after e.machine.board
      b.devices.hostFile.state ≠ .idle → (b.after a).devices.hostFile.state = .idle →
        b.devices.hostFile.state = .waitingRead ∧ b.ClosesRead a
  /-- A finished file waits for the host. -/
  writeReady : e.devices.hostFile.state = .writeReady → e'.devices.hostFile.state = .writeReady
  /-- A file that is being written can only be finished. -/
  writing : e.devices.hostFile.state = .writing →
    e'.devices.hostFile.state = .writing ∨ e'.devices.hostFile.state = .writeReady

variable {e : Engine}

/-- **A guest is confined.** Whatever program runs and however long the batch, what the host has set up
stays as it is, and the state of a transfer moves on as a guest may move it. -/
theorem runFor_confined (ready : e.lifecycle = .ready) (clock : Clock) (budget : Nat) :
    Confined e (e.machine.actionsFrom clock 0 budget) (e.runFor clock budget).2 := by
  have run := e.machine.runFrom_board clock 0 0 budget
  have framed := e.machine.board.framed_foldl (e.machine.actionsFrom clock 0 budget)
  have lasts {I : TransferState → Prop}
      (kept : ∀ {closes s s'}, TransferState.GuestStep closes s s' → I s → I s') :=
    e.machine.board.state_foldl kept (e.machine.actionsFrom clock 0 budget)
  rw [runFor_of_ready ready]
  rw [← run] at framed lasts
  have disks : e.devices.disks.SameOutlines
      (e.endBatch (e.machine.runFrom clock 0 0 budget).1
        (e.machine.runFrom clock 0 0 budget).2).2.devices.disks := by
    rw [endBatch_disks]
    exact framed.disks
  constructor
  case rom => rw [endBatch_memory]; exact framed.rom
  case config => exact e.endBatch_config _ _
  case ports => rw [endBatch_devices]; exact framed.ports
  case loaded => exact disks.isLoaded
  case imageSize => exact disks.imageSize
  case sliceCount => exact disks.sliceCount
  case manifest => exact disks.manifest
  case silenced => exact disks.silenced
  case lifecycle =>
    rw [endBatch_lifecycle]
    split
    · exact .inr rfl
    · exact .inl rfl
  case hostFile => rw [endBatch_devices, run]
  case becomesIdle =>
    intro past a rest _ b busy idle
    have step := b.guestStep_after a
    rw [idle] at step
    generalize b.devices.hostFile.state = s at busy step ⊢
    cases step with
    | stay => exact absurd rfl busy
    | closeRead closes => exact ⟨rfl, closes⟩
  case writeReady =>
    intro start
    rw [endBatch_devices]
    refine lasts (I := (· = .writeReady)) ?_ start
    rintro closes s s' step rfl
    cases step
    rfl
  case writing =>
    intro start
    rw [endBatch_devices]
    refine lasts (I := fun s => s = .writing ∨ s = .writeReady) ?_ (.inl start)
    rintro closes s s' step (rfl | rfl) <;> cases step <;> simp

/-- A guest that asks for a file by a name of one letter, closes it before the host has answered, and
halts. -/
def closingGuest : List UInt8 :=
  [0x3E, 0x41, 0xD3, 0xB1, 0x3E, 0x01, 0xD3, 0xB0, 0x3E, 0x03, 0xD3, 0xB0, 0x76]

/-- A machine in which this guest waits for its file. -/
def closingSetup : Except MachineError Engine := do
  let ready ← setUp { ramSize := 65536 } closingGuest
  return (ready.runFor (Clock.still 0) 4).2

/-- It ends the transfer, and changes nothing else that the host has set up. -/
theorem closingGuest_confined :
    ∃ e, closingSetup = .ok e ∧ e.lifecycle = .ready ∧ e.devices.hostFile.state = .waitingRead ∧
      (e.runFor (Clock.still 0) 3).2.devices.hostFile.state = .idle ∧
      Confined e (e.machine.actionsFrom (Clock.still 0) 0 3) (e.runFor (Clock.still 0) 3).2 := by
  have closes : closingSetup.toOption.any (fun e => e.lifecycle = .ready ∧
      e.devices.hostFile.state = .waitingRead ∧
      (e.runFor (Clock.still 0) 3).2.devices.hostFile.state = .idle) = true := by
    decide +kernel
  obtain ⟨e, built, ready, waits, idle⟩ := exists_of_toOption_any closes
  exact ⟨e, built, ready, waits, idle, runFor_confined ready (Clock.still 0) 3⟩

end Engine

end BankedZ80
