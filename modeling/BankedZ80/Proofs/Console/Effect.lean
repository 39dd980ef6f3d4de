import BankedZ80.Proofs.Batch.Turn
import BankedZ80.Proofs.History.Step

/-!
# What happens to the serial port

The console's two queues are reached from three sides: by the registers of the serial port, by the
firmware's character calls, and by the host. For each side there is one lemma that says what is left of
the port, whatever was done:

* `Uart.readRegister_snd`, and for writes `Uart.input_writeRegister` and `Uart.output_writeRegister`;
* `Hbios.uart_call` for a firmware call;
* `Engine.uart_call` for a call of the host.

A log tells what happens along a list of actions (`logAlong`). What relates the two ends of every
single action by its part of the log relates the two ends of the whole list (`relates_logAlong`).
-/

namespace BankedZ80

/-! ### Logs -/

section

variable {σ α ε : Type} (after : σ → α → σ) (log : σ → α → List ε)

/-- What happens along a list of actions, where `log` tells what happens in a single one. -/
def logAlong : σ → List α → List ε
  | _, [] => []
  | s, a :: rest => log s a ++ logAlong (after s a) rest

/-- **From actions to lists of actions.** By induction on the list. -/
theorem relates_logAlong {R : σ → List ε → σ → Prop} (refl : ∀ s, R s [] s)
    (trans : ∀ {s s' s'' events events'}, R s events s' → R s' events' s'' →
      R s (events ++ events') s'')
    (actions : List α) (step : ∀ s, ∀ a ∈ actions, R s (log s a) (after s a)) (s : σ) :
    R s (logAlong after log s actions) (actions.foldl after s) := by
  induction actions generalizing s with
  | nil => exact refl s
  | cons a rest ih =>
      have first := step s a List.mem_cons_self
      have later := ih (fun s a ha => step s a (List.mem_cons_of_mem _ ha)) (after s a)
      exact trans first later

/-- What goes through a queue in two stretches goes through it in one: the bytes that were there and
those that enter are those that leave, in this order, and those that are there at the end. -/
theorem queue_append {start middle stop entered entered' left left' : List UInt8}
    (first : start ++ entered = left ++ middle) (later : middle ++ entered' = left' ++ stop) :
    start ++ (entered ++ entered') = left ++ left' ++ stop := by
  rw [← List.append_assoc, first, List.append_assoc, later, List.append_assoc]

end

/-! ### Registers -/

namespace Uart

variable (u : Uart)

/-- What the host has chosen for the console. -/
def settings (u : Uart) : Bool × Bool := (u.lfToCr, u.stripHighBit)

theorem takeInput_of_nil (h : u.input = []) : u.takeInput = none := by
  rw [takeInput, h]

theorem takeInput_of_cons {v : UInt8} {rest : List UInt8} (h : u.input = v :: rest) :
    u.takeInput = some (u.seenByGuest v, { u with input := rest }) := by
  rw [takeInput, h]

theorem readRegister_zero :
    u.readRegister 0 =
      if u.divisorOpen then (lowByte u.divisor, u)
      else match u.takeInput with
        | some (v, u) => (v, u)
        | none => (0, u) := rfl

/-- A read of register 0 with the divisor closed takes an input byte; no other read changes anything. -/
theorem readRegister_snd (register : UInt8) :
    (u.readRegister register).2 =
      { u with
        input := if register = 0 ∧ u.divisorOpen = false then u.input.tail else u.input } := by
  by_cases data : register = 0
  · subst data
    rw [readRegister_zero]
    cases u.divisorOpen with
    | true => simp
    | false =>
        cases pending : u.input with
        | nil =>
            rw [u.takeInput_of_nil pending]
            show u = { u with input := [] }
            rw [← pending]
        | cons v rest =>
            rw [u.takeInput_of_cons pending]
            rfl
  · have same : (u.readRegister register).2 = u := by
      unfold readRegister
      split
      case h_1 zero => exact absurd (UInt8.toNat_inj.1 zero) data
      all_goals rfl
    rw [same, if_neg fun both => data both.1]

/-- The value of such a read is the byte taken. -/
theorem readRegister_data {v : UInt8} {rest : List UInt8} (closed : u.divisorOpen = false)
    (h : u.input = v :: rest) : (u.readRegister 0).1 = u.seenByGuest v := by
  rw [readRegister_zero, closed, takeInput_of_cons u h]
  rfl

/-- Only a write of register 2 with bit 1 set drops input. -/
theorem input_writeRegister (register v : UInt8) :
    (u.writeRegister register v).input = if register = 2 ∧ v &&& 2 ≠ 0 then [] else u.input := by
  by_cases control : register = 2
  · subst control
    show (if v &&& 2 != 0 then [] else u.input) = _
    simp
  · have other : ¬(register = 2 ∧ v &&& 2 ≠ 0) := fun both => control both.1
    rw [if_neg other]
    unfold writeRegister
    split
    case h_1 | h_2 => split <;> rfl
    case h_3 two => exact absurd (UInt8.toNat_inj.1 two) control
    all_goals rfl

/-- Only a write of register 0 with the divisor closed transmits. -/
theorem output_writeRegister (register v : UInt8) :
    (u.writeRegister register v).output =
      if register = 0 ∧ u.divisorOpen = false then u.output.push (u.seenByHost v)
      else u.output := by
  by_cases data : register = 0
  · subst data
    show Uart.output (if u.divisorOpen then _ else u.putOutput v) = _
    cases u.divisorOpen with
    | true => simp
    | false => simp [putOutput]
  · have other : ¬(register = 0 ∧ u.divisorOpen = false) := fun both => data both.1
    rw [if_neg other]
    unfold writeRegister
    split
    case h_1 zero => exact absurd (UInt8.toNat_inj.1 zero) data
    case h_2 => split <;> rfl
    all_goals rfl

theorem settings_writeRegister (register v : UInt8) :
    (u.writeRegister register v).settings = u.settings := by
  unfold writeRegister
  split
  case h_1 | h_2 => split <;> rfl
  all_goals rfl

end Uart

/-! ### Firmware calls -/

namespace Hbios

variable (s : HbiosState)

theorem uart_diskCall (f : HbiosFunction) :
    (diskCall s f).1.board.devices.uart = s.board.devices.uart := by
  unfold diskCall
  dsimp only
  split <;> rfl

theorem uart_systemCall (f : HbiosFunction) :
    (systemCall s f).1.board.devices.uart = s.board.devices.uart := by
  unfold systemCall
  split
  · split
    · rfl
    · split <;> rfl
  · rfl
  · rfl
  · rfl
  · split <;> rfl

variable {s}

/-- A call for console input that finds some. -/
theorem call_charInput_of_cons (f : HbiosFunction.ofCode? s.core.b = some .charInput)
    (console : isConsole s.core.c = true) {v : UInt8} {rest : List UInt8}
    (h : s.board.devices.uart.input = v :: rest) (now : UInt64) :
    call now s =
      finish (withUart { s with core := { s.core with e := s.board.devices.uart.seenByGuest v } }
        { s.board.devices.uart with input := rest }) .success := by
  rw [call, f]
  dsimp only [consoleCall]
  rw [console, Uart.takeInput_of_cons _ h]
  rfl

/-- A call for console input that finds none. -/
theorem call_charInput_of_nil (f : HbiosFunction.ofCode? s.core.b = some .charInput)
    (console : isConsole s.core.c = true) (h : s.board.devices.uart.input = []) (now : UInt64) :
    call now s = ({ s with core := { s.core with pc := s.core.pc - trapLength } }, .waitForInput) := by
  rw [call, f]
  dsimp only [consoleCall]
  rw [console, Uart.takeInput_of_nil _ h]
  rfl

theorem call_charOutput (f : HbiosFunction.ofCode? s.core.b = some .charOutput)
    (console : isConsole s.core.c = true) (now : UInt64) :
    call now s = finish (withUart s (s.board.devices.uart.putOutput s.core.e)) .success := by
  rw [call, f]
  dsimp only
  unfold consoleCall
  rw [console]
  rfl

theorem call_charInputStatus (f : HbiosFunction.ofCode? s.core.b = some .charInputStatus)
    (console : isConsole s.core.c = true) (now : UInt64) :
    call now s =
      ({ s with
        core := { s.core with a := (min s.board.devices.uart.pendingInput 0xFF).toUInt8 } },
        .proceed) := by
  rw [call, f]
  dsimp only
  unfold consoleCall
  rw [console]
  rfl

/-- Any other call leaves the serial port alone. -/
theorem uart_call_of_other
    (h : ¬((HbiosFunction.ofCode? s.core.b = some .charInput ∨
      HbiosFunction.ofCode? s.core.b = some .charOutput) ∧ isConsole s.core.c = true))
    (now : UInt64) : (call now s).1.board.devices.uart = s.board.devices.uart := by
  unfold call
  split
  · rfl
  · next f function =>
      cases f with
      | charInput | charOutput | charInputStatus | charOutputStatus =>
          dsimp only
          unfold consoleCall
          cases console : isConsole s.core.c with
          | true => simp_all
          | false => rfl
      | diskRead | diskWrite => rfl
      | diskStatus | diskSeek | diskMedia | diskCapacity => exact uart_diskCall s _
      | clockRead => rfl
      | systemReset | systemVersion | systemSetBank | systemGetBank | systemGet =>
          exact uart_systemCall s _

end Hbios

/-! ### Actions of the guest -/

namespace Board

variable (b : Board)

theorem uart_input (port : UInt16) :
    (b.after (.access (.input port))).devices.uart =
      match b.devices.ports.resolve (lowByte port) with
      | some (.uart, register) => (b.devices.uart.readRegister register).2
      | _ => b.devices.uart := by
  show (b.devices.input b.memory (lowByte port)).2.uart = _
  rw [Devices.input]
  cases b.devices.ports.resolve (lowByte port) with
  | none => rfl
  | some target =>
      obtain ⟨device, register⟩ := target
      cases device <;> rfl

theorem uart_output (port : UInt16) (v : UInt8) :
    (b.after (.access (.output port v))).devices.uart =
      match b.devices.ports.resolve (lowByte port) with
      | some (.uart, register) => b.devices.uart.writeRegister register v
      | _ => b.devices.uart := by
  show (b.devices.output b.memory (lowByte port) v).2.1.uart = _
  rw [Devices.output]
  cases b.devices.ports.resolve (lowByte port) with
  | none => rfl
  | some target =>
      obtain ⟨device, register⟩ := target
      cases device <;> rfl

end Board

/-! ### Calls of the host -/

namespace Engine

variable (e : Engine)

theorem endBatch_uart (report : BatchReport) (machine : Machine) :
    (e.endBatch report machine).2.devices.uart =
      if e.hasSink then { machine.board.devices.uart with output := .empty }
      else machine.board.devices.uart := by
  rw [endBatch_devices]

/-- A call that changes another part of the engine, unless the part refuses it. -/
theorem uart_orSame_map {α : Type} {r : Except MachineError α} {f : α → Engine}
    (h : ∀ a, (f a).devices.uart = e.devices.uart) :
    (e.orSame (r.map f)).devices.uart = e.devices.uart := by
  cases r with
  | ok a => exact h a
  | error error => rfl

theorem uart_loadRom (image : ByteArray) :
    (e.orSame (e.loadRom image)).devices.uart = e.devices.uart := by
  refine e.part_orSame (·.devices.uart) fun e' ok => ?_
  obtain ⟨memory, -, h⟩ := bind_eq_ok.1 ok
  cases h
  rfl

theorem uart_reset : e.reset.devices.uart = e.devices.uart.reset := by
  unfold reset
  dsimp only
  split <;> rfl

theorem uart_completeInit :
    (e.orSame e.completeInit).devices.uart =
      if e.lifecycle = .created then e.devices.uart else e.devices.uart.reset := by
  unfold completeInit
  split <;> rfl

/-- **What a call of the host leaves of the serial port.** -/
theorem uart_call (call : HostCall) :
    (e.call call).devices.uart =
      match call with
      | .queueInput v => e.devices.uart.queueInput v
      | .queueText s => e.devices.uart.queueText s
      | .drainOutput => { e.devices.uart with output := .empty }
      | .reset => e.devices.uart.reset
      | .completeInit => if e.lifecycle = .created then e.devices.uart else e.devices.uart.reset
      | .runFor clock budget => (e.runFor clock budget).2.devices.uart
      | _ => e.devices.uart := by
  cases call with
  | loadRom image => exact e.uart_loadRom image
  | completeInit => exact e.uart_completeInit
  | reset => exact e.uart_reset
  | unloadDisk n =>
      rw [Engine.call, unloadDisk_map_snd]
      exact e.uart_orSame_map fun _ => rfl
  | loadDisk | setSliceCount | setManifest | setSilenced | setSetting =>
      exact e.uart_orSame_map fun _ => rfl
  | provideFile | cancelFile | acknowledgeFile =>
      exact e.part_getD_withHostFile (·.devices.uart) (fun _ => rfl) _
  | _ => rfl

theorem uart_writeSector (n : Nat) (lba : UInt32) (bytes : ByteArray) :
    (e.after (.writeSector n lba bytes)).devices.uart = e.devices.uart :=
  e.uart_orSame_map fun _ => rfl

variable {e} in
/-- The serial port of a new engine. -/
theorem uart_of_new {config : Config} (built : new config = .ok e) :
    e.devices.uart = { lfToCr := config.lfToCr, stripHighBit := config.stripHighBit } := by
  obtain ⟨_, -, h⟩ := bind_eq_ok.1 built
  obtain ⟨ports, -, h⟩ := bind_eq_ok.1 h
  cases h
  rfl

end Engine

end BankedZ80
