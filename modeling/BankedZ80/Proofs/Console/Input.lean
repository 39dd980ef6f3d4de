import BankedZ80.Proofs.Config
import BankedZ80.Proofs.Console.Effect

/-!
# Console input

Two guest paths and two host calls share one queue of keystrokes. A history of the engine tells what is
queued, what the guest obtains and what is dropped, in order (`Engine.inputHistory`). The bytes that
left the queue and those that still wait are together those that were queued, each of them once and in
the same order (`Engine.input_lossless`).

* `Uart.InputAccounted` is this law between two states of the serial port. Every action and every call
  obeys it, and it is kept over any number of them.
* `Board.ConsumesInput` lists the three ways in which an action of the guest takes bytes from the queue.
-/

namespace BankedZ80

/-! ### Logs of input -/

/-- Something that happens to the console's input. -/
inductive InputEvent where
  | queued (v : UInt8)
  /-- The guest obtains this byte. -/
  | obtained (v : UInt8)
  /-- The waiting bytes are dropped, which are these. -/
  | dropped (pending : List UInt8)
deriving DecidableEq

namespace InputEvent

/-- The bytes that are queued, in order. -/
def queuedIn (log : List InputEvent) : List UInt8 :=
  log.flatMap fun
    | queued v => [v]
    | _ => []

/-- The bytes that leave the queue, in order and as the guest sees them, or would have seen them. -/
def leftIn (seen : UInt8 → UInt8) (log : List InputEvent) : List UInt8 :=
  log.flatMap fun
    | queued _ => []
    | obtained v => [v]
    | dropped pending => pending.map seen

variable (seen : UInt8 → UInt8) (log log' : List InputEvent)

theorem queuedIn_append : queuedIn (log ++ log') = queuedIn log ++ queuedIn log' :=
  List.flatMap_append

theorem leftIn_append : leftIn seen (log ++ log') = leftIn seen log ++ leftIn seen log' :=
  List.flatMap_append

theorem queuedIn_map_queued (bytes : List UInt8) : queuedIn (bytes.map queued) = bytes := by
  induction bytes with
  | nil => rfl
  | cons v rest ih => exact congrArg (v :: ·) ih

theorem leftIn_map_queued (bytes : List UInt8) : leftIn seen (bytes.map queued) = [] := by
  induction bytes with
  | nil => rfl
  | cons v rest ih => exact ih

end InputEvent

open InputEvent (queuedIn leftIn)

/-! ### The law -/

/-- The log accounts for every byte of input between two states of a serial port. -/
structure Uart.InputAccounted (u : Uart) (log : List InputEvent) (u' : Uart) : Prop where
  settings : u'.settings = u.settings
  /-- What was there and what is queued leaves the queue in this order, or still waits. What has left is
  what the log says, as the guest sees it. -/
  bytes : ∃ left, u.input ++ queuedIn log = left ++ u'.input ∧
    left.map u.seenByGuest = leftIn u.seenByGuest log

namespace Uart.InputAccounted

variable {u u' u'' : Uart} {log log' : List InputEvent}

theorem seenByGuest (h : u.InputAccounted log u') : u'.seenByGuest = u.seenByGuest := by
  have lfToCr : u'.lfToCr = u.lfToCr := congrArg Prod.fst h.settings
  funext v
  rw [Uart.seenByGuest, Uart.seenByGuest, lfToCr]

theorem trans (h : u.InputAccounted log u') (h' : u'.InputAccounted log' u'') :
    u.InputAccounted (log ++ log') u'' where
  settings := h'.settings.trans h.settings
  bytes := by
    obtain ⟨left, first, seen⟩ := h.bytes
    obtain ⟨left', later, seen'⟩ := h'.bytes
    rw [h.seenByGuest] at seen'
    refine ⟨left ++ left', ?_, ?_⟩
    · rw [InputEvent.queuedIn_append]
      exact queue_append first later
    · rw [List.map_append, seen, seen', InputEvent.leftIn_append]

/-- Nothing happens to the queue. -/
theorem same (settings : u'.settings = u.settings) (input : u'.input = u.input) :
    u.InputAccounted [] u' where
  settings := settings
  bytes := by
    rw [input]
    exact ⟨[], List.append_nil _, rfl⟩

theorem queue (u : Uart) (bytes : List UInt8) :
    u.InputAccounted (bytes.map .queued) { u with input := u.input ++ bytes } where
  settings := rfl
  bytes := by
    rw [InputEvent.queuedIn_map_queued, InputEvent.leftIn_map_queued]
    exact ⟨[], rfl, rfl⟩

/-- The first byte is obtained. -/
theorem obtain {v : UInt8} {rest : List UInt8} (pending : u.input = v :: rest)
    (settings : u'.settings = u.settings) (input : u'.input = rest) :
    u.InputAccounted [.obtained (u.seenByGuest v)] u' where
  settings := settings
  bytes := by
    rw [pending, input]
    exact ⟨[v], List.append_nil _, rfl⟩

/-- All bytes are dropped. -/
theorem drop (settings : u'.settings = u.settings) (input : u'.input = []) :
    u.InputAccounted [.dropped u.input] u' where
  settings := settings
  bytes := by
    rw [input]
    exact ⟨u.input, rfl, (List.append_nil _).symm⟩

/-- Where nothing is queued and nothing leaves, the queue stays. -/
theorem input_eq (h : u.InputAccounted [] u') : u'.input = u.input := by
  obtain ⟨left, bytes, seen⟩ := h.bytes
  rw [List.map_eq_nil_iff.1 seen] at bytes
  exact bytes.symm.trans (List.append_nil u.input)

end Uart.InputAccounted

/-! ### Actions of the guest -/

namespace Board

variable (b : Board)

/-- What an action of the guest does to the console's input. -/
def inputEvents (b : Board) : GuestAction → List InputEvent
  | .access (.input port) =>
    if b.devices.ports.resolve (lowByte port) = some (.uart, 0) ∧
        b.devices.uart.divisorOpen = false ∧ b.devices.uart.input ≠ [] then
      [.obtained (b.devices.input b.memory (lowByte port)).1]
    else []
  | .access (.output port v) =>
    if b.devices.ports.resolve (lowByte port) = some (.uart, 2) ∧ v &&& 2 ≠ 0 then
      [.dropped b.devices.uart.input]
    else []
  | .access (.write _ _) => []
  | .firmware now core =>
    if HbiosFunction.ofCode? core.b = some .charInput ∧ Hbios.isConsole core.c = true ∧
        (Hbios.call now ⟨core, b⟩).2 = .proceed then
      [.obtained (Hbios.call now ⟨core, b⟩).1.core.e]
    else []

/-- An action of the guest that takes bytes from the queue, and finds some where it takes a single one. -/
inductive ConsumesInput (b : Board) : GuestAction → Prop
  | read {port : UInt16} (data : b.devices.ports.resolve (lowByte port) = some (.uart, 0))
      (closed : b.devices.uart.divisorOpen = false) (pending : b.devices.uart.input ≠ []) :
      ConsumesInput b (.access (.input port))
  | clear {port : UInt16} {v : UInt8}
      (control : b.devices.ports.resolve (lowByte port) = some (.uart, 2)) (bit : v &&& 2 ≠ 0) :
      ConsumesInput b (.access (.output port v))
  | call {now : UInt64} {core : Core}
      (function : HbiosFunction.ofCode? core.b = some .charInput)
      (console : Hbios.isConsole core.c = true) (pending : b.devices.uart.input ≠ []) :
      ConsumesInput b (.firmware now core)

theorem inputAccounted_input (port : UInt16) :
    b.devices.uart.InputAccounted (b.inputEvents (.access (.input port)))
      (b.after (.access (.input port))).devices.uart := by
  have after := b.uart_input port
  unfold inputEvents
  dsimp only
  split
  · next taken =>
      obtain ⟨data, closed, pending⟩ := taken
      obtain ⟨v, rest, pending⟩ := List.exists_cons_of_ne_nil pending
      rw [data] at after
      dsimp only at after
      rw [Uart.readRegister_snd, if_pos ⟨rfl, closed⟩, pending] at after
      have value : (b.devices.input b.memory (lowByte port)).1 = b.devices.uart.seenByGuest v := by
        rw [Devices.input, data, ← Uart.readRegister_data _ closed pending]
      rw [value, after]
      exact .obtain pending rfl rfl
  · next kept =>
      rw [after]
      split
      · next register decoded =>
          rw [Uart.readRegister_snd]
          refine .same rfl ?_
          show (if register = 0 ∧ b.devices.uart.divisorOpen = false then _ else _) = _
          split
          · next read =>
              obtain ⟨rfl, closed⟩ := read
              have empty : b.devices.uart.input = [] :=
                Decidable.not_not.1 fun pending => kept ⟨decoded, closed, pending⟩
              rw [empty]
              rfl
          · rfl
      · exact .same rfl rfl

theorem inputAccounted_output (port : UInt16) (v : UInt8) :
    b.devices.uart.InputAccounted (b.inputEvents (.access (.output port v)))
      (b.after (.access (.output port v))).devices.uart := by
  have after := b.uart_output port v
  unfold inputEvents
  dsimp only
  split
  · next cleared =>
      rw [cleared.1] at after
      dsimp only at after
      rw [after]
      refine .drop (Uart.settings_writeRegister _ 2 v) ?_
      rw [Uart.input_writeRegister, if_pos ⟨rfl, cleared.2⟩]
  · next kept =>
      rw [after]
      split
      · next register decoded =>
          refine .same (Uart.settings_writeRegister _ register v) ?_
          rw [Uart.input_writeRegister, if_neg]
          rintro ⟨rfl, bit⟩
          exact kept ⟨decoded, bit⟩
      · exact .same rfl rfl

theorem inputAccounted_firmware (now : UInt64) (core : Core) :
    b.devices.uart.InputAccounted (b.inputEvents (.firmware now core))
      (b.after (.firmware now core)).devices.uart := by
  have after : (b.after (.firmware now core)).devices.uart =
      (Hbios.call now ⟨core, b⟩).1.board.devices.uart :=
    congrArg Devices.uart (b.afterCall_devices now core)
  rw [after]
  unfold inputEvents
  dsimp only
  by_cases function : HbiosFunction.ofCode? core.b = some .charInput
  · cases console : Hbios.isConsole core.c with
    | true =>
        cases pending : b.devices.uart.input with
        | nil =>
            rw [Hbios.call_charInput_of_nil (s := ⟨core, b⟩) function console pending,
              if_neg (fun all => nomatch all.2.2)]
            exact .same rfl rfl
        | cons v rest =>
            rw [Hbios.call_charInput_of_cons (s := ⟨core, b⟩) function console pending,
              if_pos ⟨function, rfl, rfl⟩]
            exact .obtain pending rfl rfl
    | false =>
        have other := Hbios.uart_call_of_other (s := ⟨core, b⟩)
          (fun both => nomatch console.symm.trans both.2) now
        rw [if_neg (fun all => nomatch all.2.1), other]
        exact .same rfl rfl
  · rw [if_neg fun all => function all.1]
    by_cases transmits : HbiosFunction.ofCode? core.b = some .charOutput ∧
        Hbios.isConsole core.c = true
    · rw [Hbios.call_charOutput (s := ⟨core, b⟩) transmits.1 transmits.2]
      exact .same rfl rfl
    · have other := Hbios.uart_call_of_other (s := ⟨core, b⟩)
        (fun both => both.1.elim function fun output => transmits ⟨output, both.2⟩) now
      rw [other]
      exact .same rfl rfl

/-- **An action of the guest** does to the queue what its log says. -/
theorem inputAccounted_after (a : GuestAction) :
    b.devices.uart.InputAccounted (b.inputEvents a) (b.after a).devices.uart := by
  cases a with
  | firmware now core => exact b.inputAccounted_firmware now core
  | access a =>
      cases a with
      | write address byte => exact .same rfl rfl
      | input port => exact b.inputAccounted_input port
      | output port v => exact b.inputAccounted_output port v

/-- Nothing else takes a byte from the queue. -/
theorem consumesInput_of_ne {a : GuestAction}
    (h : (b.after a).devices.uart.input ≠ b.devices.uart.input) : b.ConsumesInput a := by
  have accounted := b.inputAccounted_after a
  unfold inputEvents at accounted
  split at accounted
  · split at accounted
    · next taken => exact .read taken.1 taken.2.1 taken.2.2
    · exact absurd accounted.input_eq h
  · split at accounted
    · next cleared => exact .clear cleared.1 cleared.2
    · exact absurd accounted.input_eq h
  · exact absurd accounted.input_eq h
  · next now core =>
      split at accounted
      · next answered =>
          obtain ⟨function, console, proceeds⟩ := answered
          refine .call function console fun empty => ?_
          rw [Hbios.call_charInput_of_nil (s := ⟨core, b⟩) function console empty] at proceeds
          cases proceeds
      · exact absurd accounted.input_eq h

/-- How a guest learns whether input waits, and what takes it away. -/
structure ConsoleInput (b : Board) : Prop where
  consumed {a : GuestAction} : (b.after a).devices.uart.input ≠ b.devices.uart.input →
    b.ConsumesInput a
  /-- The firmware counts the waiting bytes, up to 255. -/
  status {now : UInt64} {core : Core} :
    HbiosFunction.ofCode? core.b = some .charInputStatus → Hbios.isConsole core.c = true →
      (Hbios.call now ⟨core, b⟩).2 = .proceed ∧
        (Hbios.call now ⟨core, b⟩).1.core.a.toNat = min 255 b.devices.uart.input.length
  /-- Bit 0 of the line status register tells whether there are any. -/
  dataReady {port : UInt8} : b.devices.ports.resolve port = some (.uart, 5) →
    ((b.devices.input b.memory port).1 &&& 1 ≠ 0 ↔ 0 < b.devices.uart.input.length)

/-- On every board. -/
theorem consoleInput : b.ConsoleInput where
  consumed := b.consumesInput_of_ne
  status {now core} function console := by
    rw [Hbios.call_charInputStatus (s := ⟨core, b⟩) function console]
    refine ⟨rfl, ?_⟩
    show ((min b.devices.uart.input.length 0xFF).toUInt8).toNat = _
    rw [Nat.toUInt8_eq, UInt8.toNat_ofNat']
    omega
  dataReady {port} decoded := by
    have value : (b.devices.input b.memory port).1 = b.devices.uart.lineStatus := by
      rw [Devices.input, decoded]
      rfl
    rw [value, Uart.lineStatus, Uart.hasInput]
    cases b.devices.uart.input with
    | nil => decide
    | cons v rest =>
        have set : (Uart.transmitterReady ||| bitIf true Uart.dataReady) &&& 1 ≠ 0 := by decide
        exact ⟨fun _ => Nat.succ_pos rest.length, fun _ => set⟩

end Board

/-! ### Histories -/

/-- An input byte as the guest sees it: a line feed becomes a carriage return, if so configured. -/
def Config.asSeen (c : Config) (v : UInt8) : UInt8 := if c.lfToCr = true ∧ v = 0x0A then 0x0D else v

theorem Uart.seenByGuest_eq_asSeen {u : Uart} {c : Config} (h : u.lfToCr = c.lfToCr) :
    u.seenByGuest = c.asSeen := by
  funext v
  rw [seenByGuest, Config.asSeen, h]
  cases c.lfToCr <;> simp

namespace Engine

variable (e : Engine)

/-- What a step does to the console's input. -/
def inputEvents (e : Engine) : Step → List InputEvent
  | .host (.queueInput v) => [.queued v]
  | .host (.queueText s) => (Uart.asciiBytes s).map .queued
  | .host .reset => [.dropped e.devices.uart.input]
  | .host .completeInit => if e.lifecycle = .created then [] else [.dropped e.devices.uart.input]
  | .host (.runFor clock budget) =>
    if e.isReady then
      logAlong Board.after Board.inputEvents e.machine.board (e.machine.actionsFrom clock 0 budget)
    else []
  | .host _ => []
  | .guest action => e.machine.board.inputEvents action
  | .writeSector _ _ _ => []

/-- What a history does to the console's input. -/
def inputHistory (e : Engine) (steps : List Step) : List InputEvent :=
  logAlong after inputEvents e steps

/-- A batch is a list of actions, and its end hands output over at most. -/
theorem inputAccounted_runFor (clock : Clock) (budget : Nat) :
    e.devices.uart.InputAccounted (e.inputEvents (.host (.runFor clock budget)))
      (e.runFor clock budget).2.devices.uart := by
  unfold inputEvents
  dsimp only
  split
  · next ready =>
      have run := relates_logAlong Board.after Board.inputEvents
        (R := fun b log b' => b.devices.uart.InputAccounted log b'.devices.uart)
        (fun _ => .same rfl rfl) (fun first later => first.trans later)
        (e.machine.actionsFrom clock 0 budget) (fun b a _ => b.inputAccounted_after a)
        e.machine.board
      have ended : (e.machine.runFrom clock 0 0 budget).2.board.devices.uart.InputAccounted []
          (e.runFor clock budget).2.devices.uart := by
        rw [runFor_of_ready (isReady_iff.1 ready), endBatch_uart]
        split <;> exact .same rfl rfl
      rw [e.machine.runFrom_board] at ended
      rw [← List.append_nil (logAlong _ _ _ _)]
      exact run.trans ended
  · next notReady =>
      rw [runFor_of_not_ready (mt isReady_iff.2 notReady)]
      exact .same rfl rfl

/-- **A step** does to the queue what its log says. -/
theorem inputAccounted_after (s : Step) :
    e.devices.uart.InputAccounted (e.inputEvents s) (e.after s).devices.uart := by
  cases s with
  | guest action => exact e.machine.board.inputAccounted_after action
  | writeSector n lba bytes =>
      rw [uart_writeSector]
      exact .same rfl rfl
  | host call =>
      rw [show (e.after (.host call)).devices.uart = (e.call call).devices.uart from rfl, uart_call]
      cases call with
      | queueInput v => exact .queue e.devices.uart [v]
      | queueText s => exact .queue e.devices.uart (Uart.asciiBytes s)
      | reset => exact .drop rfl rfl
      | completeInit =>
          unfold inputEvents
          dsimp only
          split
          · exact .same rfl rfl
          · exact .drop rfl rfl
      | runFor clock budget => exact e.inputAccounted_runFor clock budget
      | _ => exact .same rfl rfl

theorem inputAccounted_foldl (steps : List Step) :
    e.devices.uart.InputAccounted (e.inputHistory steps) (steps.foldl after e).devices.uart :=
  relates_logAlong after inputEvents
    (R := fun e log e' => e.devices.uart.InputAccounted log e'.devices.uart)
    (fun _ => .same rfl rfl) (fun first later => first.trans later) steps
    (fun e s _ => e.inputAccounted_after s) e

/-- **Console input is neither lost nor doubled nor reordered**, whatever hosts and guests do in
whatever order. The queued bytes are those that have left the queue, and then those that still wait.
Those that have left are, as the guest sees them, what it has obtained and what was dropped. -/
theorem input_lossless {config : Config} {e : Engine} (built : new config = .ok e)
    (steps : List Step) :
    (∃ left,
      queuedIn (e.inputHistory steps) = left ++ (steps.foldl after e).devices.uart.input ∧
        left.map config.asSeen = leftIn config.asSeen (e.inputHistory steps)) ∧
      ∀ b : Board, b.ConsoleInput := by
  have bytes := (e.inputAccounted_foldl steps).bytes
  rw [uart_of_new built, Uart.seenByGuest_eq_asSeen (c := config) rfl] at bytes
  exact ⟨bytes, fun b => b.consoleInput⟩

/-- A line is typed, the guest takes its first byte at a port, and the machine is reset. Another line
feed is typed, and the guest calls the firmware for it. -/
def typeAndReset : List Step :=
  [.host (.queueText "R\n"), .guest (.access (.input 0x68)), .host .reset, .host (.queueInput 0x0A),
    .guest (.firmware 0 { b := 0x00, c := 0x80 })]

theorem typeAndReset_lossless :
    ∃ e, new {} = .ok e ∧
      e.inputHistory typeAndReset =
        [.queued 0x52, .queued 0x0A, .obtained 0x52, .dropped [0x0A], .queued 0x0A,
          .obtained 0x0D] ∧
      ∃ left,
        queuedIn (e.inputHistory typeAndReset) =
            left ++ (typeAndReset.foldl after e).devices.uart.input ∧
          left.map (Config.asSeen {}) = leftIn (Config.asSeen {}) (e.inputHistory typeAndReset) := by
  have logged : (new {}).toOption.any (·.inputHistory typeAndReset =
      [.queued 0x52, .queued 0x0A, .obtained 0x52, .dropped [0x0A], .queued 0x0A,
        .obtained 0x0D]) = true := by
    decide +kernel
  obtain ⟨e, built, log⟩ := exists_of_toOption_any logged
  exact ⟨e, built, log, (input_lossless built typeAndReset).1⟩

end Engine

end BankedZ80
