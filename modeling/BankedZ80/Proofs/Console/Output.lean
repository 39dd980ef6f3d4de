import BankedZ80.Proofs.Batch.Split
import BankedZ80.Proofs.Console.Input

/-!
# Console output

Two guest paths transmit into one buffer. The host empties it in two ways, by draining it and by a sink
that every batch hands its output to, and may change between them at any time. A history tells what the
guest transmits and what the host receives, in order (`Engine.outputHistory`); as long as the machine is
not restarted, what the host has received and what is still there is what was transmitted, with bit 7
cleared if so configured (`Engine.output_lossless`).

`Uart.OutputAccounted` is this law between two states of the serial port. Every action and every call
but a restart obeys it, and it is kept over any number of them.
-/

namespace BankedZ80

/-! ### Logs of output -/

/-- Something that happens to the console's output. -/
inductive OutputEvent where
  | transmitted (v : UInt8)
  /-- The host receives these bytes, from a sink or by draining. -/
  | received (bytes : List UInt8)
deriving DecidableEq

namespace OutputEvent

/-- The bytes that the guest transmits, in order. -/
def transmittedIn (log : List OutputEvent) : List UInt8 :=
  log.flatMap fun
    | transmitted v => [v]
    | received _ => []

/-- The bytes that the host receives, in order. -/
def receivedIn (log : List OutputEvent) : List UInt8 :=
  log.flatMap fun
    | transmitted _ => []
    | received bytes => bytes

variable (log log' : List OutputEvent)

theorem transmittedIn_append :
    transmittedIn (log ++ log') = transmittedIn log ++ transmittedIn log' :=
  List.flatMap_append

theorem receivedIn_append : receivedIn (log ++ log') = receivedIn log ++ receivedIn log' :=
  List.flatMap_append

end OutputEvent

open OutputEvent (transmittedIn receivedIn)

/-! ### The law -/

/-- The log accounts for every byte of output between two states of a serial port. -/
structure Uart.OutputAccounted (u : Uart) (log : List OutputEvent) (u' : Uart) : Prop where
  settings : u'.settings = u.settings
  /-- What was there and what is transmitted is received in this order, or is still there. -/
  bytes : Bytes.toList u.output ++ (transmittedIn log).map u.seenByHost =
    receivedIn log ++ Bytes.toList u'.output

namespace Uart.OutputAccounted

variable {u u' u'' : Uart} {log log' : List OutputEvent}

theorem seenByHost (h : u.OutputAccounted log u') : u'.seenByHost = u.seenByHost := by
  have stripHighBit : u'.stripHighBit = u.stripHighBit := congrArg Prod.snd h.settings
  funext v
  rw [Uart.seenByHost, Uart.seenByHost, stripHighBit]

theorem trans (h : u.OutputAccounted log u') (h' : u'.OutputAccounted log' u'') :
    u.OutputAccounted (log ++ log') u'' where
  settings := h'.settings.trans h.settings
  bytes := by
    have later := h'.bytes
    rw [h.seenByHost] at later
    rw [OutputEvent.transmittedIn_append, OutputEvent.receivedIn_append, List.map_append]
    exact queue_append h.bytes later

/-- Nothing happens to the output. -/
theorem same (settings : u'.settings = u.settings) (output : u'.output = u.output) :
    u.OutputAccounted [] u' where
  settings := settings
  bytes := by
    rw [output]
    exact List.append_nil _

theorem transmit {v : UInt8} (settings : u'.settings = u.settings)
    (output : u'.output = u.output.push (u.seenByHost v)) :
    u.OutputAccounted [.transmitted v] u' where
  settings := settings
  bytes := by
    have pushed : Bytes.toList (u.output.push (u.seenByHost v)) =
        Bytes.toList u.output ++ [u.seenByHost v] :=
      Array.toList_push
    rw [output, pushed]
    rfl

/-- The first part of the output is received. -/
theorem receive {bytes : ByteArray} (settings : u'.settings = u.settings)
    (output : bytes ++ u'.output = u.output) :
    u.OutputAccounted [.received (Bytes.toList bytes)] u' where
  settings := settings
  bytes := by
    have parts : Bytes.toList (bytes ++ u'.output) = Bytes.toList bytes ++ Bytes.toList u'.output := by
      rw [Bytes.toList, ByteArray.data_append]
      exact Array.toList_append
    have received : receivedIn [.received (Bytes.toList bytes)] = Bytes.toList bytes :=
      List.append_nil _
    rw [← output, parts, received]
    exact List.append_nil _

end Uart.OutputAccounted

/-! ### Actions of the guest -/

namespace Board

variable (b : Board)

/-- What an action of the guest does to the console's output. -/
def outputEvents (b : Board) : GuestAction → List OutputEvent
  | .access (.output port v) =>
    if b.devices.ports.resolve (lowByte port) = some (.uart, 0) ∧
        b.devices.uart.divisorOpen = false then
      [.transmitted v]
    else []
  | .access _ => []
  | .firmware _ core =>
    if HbiosFunction.ofCode? core.b = some .charOutput ∧ Hbios.isConsole core.c = true then
      [.transmitted core.e]
    else []

theorem outputAccounted_input (port : UInt16) :
    b.devices.uart.OutputAccounted [] (b.after (.access (.input port))).devices.uart := by
  rw [uart_input]
  split
  · rw [Uart.readRegister_snd]
    exact .same rfl rfl
  · exact .same rfl rfl

theorem outputAccounted_output (port : UInt16) (v : UInt8) :
    b.devices.uart.OutputAccounted (b.outputEvents (.access (.output port v)))
      (b.after (.access (.output port v))).devices.uart := by
  have after := b.uart_output port v
  unfold outputEvents
  dsimp only
  split
  · next transmitted =>
      rw [transmitted.1] at after
      dsimp only at after
      rw [after]
      refine .transmit (Uart.settings_writeRegister _ 0 v) ?_
      rw [Uart.output_writeRegister, if_pos ⟨rfl, transmitted.2⟩]
  · next kept =>
      rw [after]
      split
      · next register decoded =>
          refine .same (Uart.settings_writeRegister _ register v) ?_
          rw [Uart.output_writeRegister, if_neg]
          rintro ⟨rfl, closed⟩
          exact kept ⟨decoded, closed⟩
      · exact .same rfl rfl

theorem outputAccounted_firmware (now : UInt64) (core : Core) :
    b.devices.uart.OutputAccounted (b.outputEvents (.firmware now core))
      (b.after (.firmware now core)).devices.uart := by
  have after : (b.after (.firmware now core)).devices.uart =
      (Hbios.call now ⟨core, b⟩).1.board.devices.uart :=
    congrArg Devices.uart (b.afterCall_devices now core)
  rw [after]
  unfold outputEvents
  dsimp only
  split
  · next transmitted =>
      rw [Hbios.call_charOutput (s := ⟨core, b⟩) transmitted.1 transmitted.2]
      exact .transmit rfl rfl
  · next kept =>
      by_cases input : HbiosFunction.ofCode? core.b = some .charInput ∧
          Hbios.isConsole core.c = true
      · cases pending : b.devices.uart.input with
        | nil =>
            rw [Hbios.call_charInput_of_nil (s := ⟨core, b⟩) input.1 input.2 pending]
            exact .same rfl rfl
        | cons v rest =>
            rw [Hbios.call_charInput_of_cons (s := ⟨core, b⟩) input.1 input.2 pending]
            exact .same rfl rfl
      · have other := Hbios.uart_call_of_other (s := ⟨core, b⟩)
          (fun both => both.1.elim (fun here => input ⟨here, both.2⟩) fun here =>
            kept ⟨here, both.2⟩) now
        rw [other]
        exact .same rfl rfl

/-- **An action of the guest** does to the output what its log says. -/
theorem outputAccounted_after (a : GuestAction) :
    b.devices.uart.OutputAccounted (b.outputEvents a) (b.after a).devices.uart := by
  cases a with
  | firmware now core => exact b.outputAccounted_firmware now core
  | access a =>
      cases a with
      | write address byte => exact .same rfl rfl
      | input port => exact b.outputAccounted_input port
      | output port v => exact b.outputAccounted_output port v

end Board

/-! ### Batches -/

/-- A transmitted byte as the host sees it: bit 7 is cleared, if so configured. -/
def Config.asReceived (c : Config) (v : UInt8) : UInt8 :=
  if c.stripHighBit = true then v &&& 0x7F else v

theorem Uart.seenByHost_eq_asReceived {u : Uart} {c : Config}
    (h : u.stripHighBit = c.stripHighBit) : u.seenByHost = c.asReceived := by
  funext v
  rw [seenByHost, Config.asReceived, h]

/-- What a batch hands to a sink. -/
def BatchResult.deliveries (r : BatchResult) : List OutputEvent :=
  r.delivered.toList.map fun bytes => .received (Bytes.toList bytes)

namespace Engine

variable (e : Engine)

/-- What a step does to the console's output. -/
def outputEvents (e : Engine) : Step → List OutputEvent
  | .host (.runFor clock budget) =>
    (if e.isReady then
      logAlong Board.after Board.outputEvents e.machine.board (e.machine.actionsFrom clock 0 budget)
    else []) ++ (e.runFor clock budget).1.deliveries
  | .host .drainOutput => [.received (Bytes.toList e.drainOutput.1)]
  | .host _ => []
  | .guest action => e.machine.board.outputEvents action
  | .writeSector _ _ _ => []

/-- What a history does to the console's output. -/
def outputHistory (e : Engine) (steps : List Step) : List OutputEvent :=
  logAlong after outputEvents e steps

/-- The end of a batch hands over all output or none. -/
theorem outputAccounted_endBatch (report : BatchReport) (machine : Machine) :
    machine.board.devices.uart.OutputAccounted (e.endBatch report machine).1.deliveries
      (e.endBatch report machine).2.devices.uart := by
  have all := congrArg (fun b : Board => b.devices.uart.output) (e.endBatch_board report machine)
  change (e.endBatch report machine).1.handedOver ++ (e.endBatch report machine).2.devices.uart.output
    = machine.board.devices.uart.output at all
  have settings : (e.endBatch report machine).2.devices.uart.settings =
      machine.board.devices.uart.settings := by
    rw [endBatch_uart]
    split <;> rfl
  rw [BatchResult.handedOver] at all
  rw [BatchResult.deliveries]
  cases delivered : (e.endBatch report machine).1.delivered with
  | none =>
      rw [delivered, Option.getD_none, ByteArray.empty_append] at all
      exact .same settings all
  | some bytes =>
      rw [delivered] at all
      exact .receive settings all

/-- A batch transmits along its actions, and hands over at its end. -/
theorem outputAccounted_runFor (clock : Clock) (budget : Nat) :
    e.devices.uart.OutputAccounted (e.outputEvents (.host (.runFor clock budget)))
      (e.runFor clock budget).2.devices.uart := by
  unfold outputEvents
  dsimp only
  split
  · next ready =>
      have run := relates_logAlong Board.after Board.outputEvents
        (R := fun b log b' => b.devices.uart.OutputAccounted log b'.devices.uart)
        (fun _ => .same rfl rfl) (fun first later => first.trans later)
        (e.machine.actionsFrom clock 0 budget) (fun b a _ => b.outputAccounted_after a)
        e.machine.board
      rw [← e.machine.runFrom_board clock 0 0] at run
      rw [runFor_of_ready (isReady_iff.1 ready)]
      exact run.trans (e.outputAccounted_endBatch _ _)
  · next notReady =>
      rw [runFor_of_not_ready (mt isReady_iff.2 notReady)]
      exact .same rfl rfl

/-- A batch delivers once at most, only to a sink, and never nothing. -/
structure DeliversOnce (e : Engine) (clock : Clock) (budget : Nat) : Prop where
  once : (e.runFor clock budget).1.deliveries.length ≤ 1
  sink : e.hasSink = false → (e.runFor clock budget).1.delivered = none
  nonempty {bytes : ByteArray} : (e.runFor clock budget).1.delivered = some bytes → bytes.size ≠ 0
  notRunning : (e.runFor clock budget).1.report.outcome = .notRunning →
    (e.runFor clock budget).1.delivered = none

theorem endBatch_delivered (report : BatchReport) (machine : Machine) :
    (e.endBatch report machine).1.delivered =
      if e.hasSink then machine.board.devices.uart.flushOutput.1 else none := by
  unfold endBatch
  dsimp only
  split <;> rfl

/-- On every engine. -/
theorem deliversOnce (clock : Clock) (budget : Nat) : e.DeliversOnce clock budget := by
  by_cases ready : e.lifecycle = .ready
  · have delivered : (e.runFor clock budget).1.delivered =
        if e.hasSink then (e.machine.runFrom clock 0 0 budget).2.board.devices.uart.flushOutput.1
        else none := by
      rw [runFor_of_ready ready, endBatch_delivered]
    constructor
    case once =>
      rw [BatchResult.deliveries, List.length_map]
      cases (e.runFor clock budget).1.delivered with
      | none => exact Nat.zero_le 1
      | some bytes => exact Nat.le_refl 1
    case sink =>
      intro none
      rw [delivered, none]
      rfl
    case nonempty =>
      intro bytes some
      rw [delivered] at some
      split at some
      · unfold Uart.flushOutput at some
        split at some
        · next output =>
            cases some
            exact bne_iff_ne.1 output
        · cases some
      · cases some
    case notRunning =>
      intro outcome
      rw [runFor_of_ready ready, endBatch_report] at outcome
      obtain ⟨-, ⟨exhausted, -⟩ | ended⟩ := e.machine.runFrom_reported clock 0 0 budget
      · rw [outcome] at exhausted
        cases exhausted
      · rw [outcome] at ended
        exact ended.elim
  · have nothing : (e.runFor clock budget).1 = { report := ⟨0, 0, .notRunning⟩ } := by
      rw [runFor_of_not_ready ready]
    constructor
    case once => rw [nothing]; decide
    case sink => rw [nothing]; exact fun _ => rfl
    case nonempty => rw [nothing]; exact nofun
    case notRunning => rw [nothing]; exact fun _ => rfl

/-! ### Histories -/

/-- **A step** does to the output what its log says, unless it restarts the machine. -/
theorem outputAccounted_after {s : Step} (running : s ≠ .host .reset ∧ s ≠ .host .completeInit) :
    e.devices.uart.OutputAccounted (e.outputEvents s) (e.after s).devices.uart := by
  cases s with
  | guest action => exact e.machine.board.outputAccounted_after action
  | writeSector n lba bytes =>
      rw [uart_writeSector]
      exact .same rfl rfl
  | host call =>
      rw [show (e.after (.host call)).devices.uart = (e.call call).devices.uart from rfl, uart_call]
      cases call with
      | reset => exact absurd rfl running.1
      | completeInit => exact absurd rfl running.2
      | drainOutput => exact .receive rfl ByteArray.append_empty
      | runFor clock budget => exact e.outputAccounted_runFor clock budget
      | _ => exact .same rfl rfl

/-- **Console output is neither lost nor doubled nor reordered**, whatever hosts and guests do in
whatever order, as long as the machine is not restarted. From any state of an engine on, what is
there and what is transmitted from then on, as the host sees it, is what the host receives, in order,
and then what is still there. -/
theorem output_lossless {config : Config} {e : Engine} (built : new config = .ok e)
    (past steps : List Step) (running : ∀ s ∈ steps, s ≠ .host .reset ∧ s ≠ .host .completeInit) :
    let start := past.foldl after e
    Bytes.toList start.devices.uart.output ++
          (transmittedIn (start.outputHistory steps)).map config.asReceived =
        receivedIn (start.outputHistory steps) ++
          Bytes.toList (steps.foldl after start).devices.uart.output ∧
      ∀ (e : Engine) (clock : Clock) (budget : Nat), e.DeliversOnce clock budget := by
  intro start
  have history := relates_logAlong after outputEvents
    (R := fun e log e' => e.devices.uart.OutputAccounted log e'.devices.uart)
    (fun _ => .same rfl rfl) (fun first later => first.trans later) steps
    (fun e s hs => e.outputAccounted_after (running s hs)) start
  have stripHighBit : start.devices.uart.stripHighBit = config.stripHighBit := by
    have settings := congrArg Prod.snd (e.inputAccounted_foldl past).settings
    rw [uart_of_new built] at settings
    exact settings
  have bytes := history.bytes
  rw [Uart.seenByHost_eq_asReceived stripHighBit] at bytes
  exact ⟨bytes, fun e clock budget => e.deliversOnce clock budget⟩

/-- The guest transmits at a port and the host drains, then the guest calls the firmware to transmit. -/
def transmitAndDrain : List Step :=
  [.guest (.access (.output 0x68 0xC1)), .host .drainOutput,
    .guest (.firmware 0 { b := 0x01, c := 0x80, e := 0x42 })]

theorem transmitAndDrain_lossless :
    (∀ s ∈ transmitAndDrain, s ≠ .host .reset ∧ s ≠ .host .completeInit) ∧
      ∃ e, new {} = .ok e ∧
        e.outputHistory transmitAndDrain =
          [.transmitted 0xC1, .received [0x41], .transmitted 0x42] ∧
        Bytes.toList e.devices.uart.output ++
            (transmittedIn (e.outputHistory transmitAndDrain)).map (Config.asReceived {}) =
          receivedIn (e.outputHistory transmitAndDrain) ++
            Bytes.toList (transmitAndDrain.foldl after e).devices.uart.output := by
  have running : ∀ s ∈ transmitAndDrain, s ≠ .host .reset ∧ s ≠ .host .completeInit := by
    simp [transmitAndDrain]
  have logged : (new {}).toOption.any (·.outputHistory transmitAndDrain =
      [.transmitted 0xC1, .received [0x41], .transmitted 0x42]) = true := by
    decide +kernel
  obtain ⟨e, built, log⟩ := exists_of_toOption_any logged
  exact ⟨running, e, built, log, (output_lossless built [] transmitAndDrain running).1⟩

end Engine

end BankedZ80
