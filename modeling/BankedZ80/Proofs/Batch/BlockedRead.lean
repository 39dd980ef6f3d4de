import BankedZ80.Proofs.Batch.Refresh
import BankedZ80.Proofs.Batch.Split
import BankedZ80.Proofs.Hbios.Refusal

/-!
# Waiting for console input

A guest that asks for input when there is none has its call undone: PC goes back by the length of the
instruction that called, and the batch ends. The next batch executes the instruction again.

* `Machine.AsksForInput` says that the next instruction is such a call. One turn of it is told in full,
  in vain (`turn_of_nil`) and with an answer (`turn_of_cons`).
* `Engine.Retried` says what vain batches leave. It holds of none (`refl`), of one (`Blocked.retried`)
  and of those after each other (`trans`), hence of any number (`Blocked.runBatches`).
* Behind the answer, the registers and the board differ in what the guest does not see: in the refresh
  register (`Machine.runFrom_sameButRefresh`) and in output from before (`Machine.runFrom_alike`).
  `Engine.blocked_read_transparent` puts these together.
-/

namespace BankedZ80

/-! ### The instruction that asks for input -/

namespace Core

/-- What executing an instruction to write A to a port leaves in the core besides PC: the refresh
register counts, and the latch and what the next step depends on are set anew. -/
def withCallMade (flavour : Flavour) (port : UInt8) (c : Core) : Core :=
  { storeLatch ⟨flavour, c.index, c.flagsFresh⟩ c (word 0 port) with
    r := refreshed c.r, index := .hl, flagsFresh := false }

/-- The core without the refresh register and without what no instruction names: the latch, the pair
that an index byte selected, and whether flags were computed last. -/
def namedRegisters (c : Core) : Core :=
  { c with r := 0, wz := 0, index := .hl, flagsFresh := false }

@[simp] theorem namedRegisters_withRefresh (r : UInt8) (c : Core) :
    (c.withRefresh r).namedRegisters = c.namedRegisters := rfl

theorem pc_of_same {c c' : Core} (same : c'.namedRegisters = c.namedRegisters) : c'.pc = c.pc := by
  have pc := congrArg Core.pc same
  exact pc

/-- Where the registers that have names are the same, making the call leaves the same core but for the
refresh register. -/
theorem withCallMade_of_same {c c' : Core} (same : c'.namedRegisters = c.namedRegisters)
    (flavour : Flavour) (port : UInt8) :
    c'.withCallMade flavour port =
      (c.withCallMade flavour port).withRefresh (refreshed c'.r) := by
  obtain ⟨r, wz, index, fresh, rfl⟩ :
      ∃ r wz index fresh, c' = { c with r, wz, index, flagsFresh := fresh } := by
    refine ⟨c'.r, c'.wz, c'.index, c'.flagsFresh, ?_⟩
    exact congrArg (fun core : Core =>
      { core with r := c'.r, wz := c'.wz, index := c'.index, flagsFresh := c'.flagsFresh }) same
  rfl

end Core

namespace Machine

/-- The next instruction writes A to the trap port, to ask for a byte of console input. -/
structure AsksForInput (m : Machine) : Prop where
  running : m.cpu.core.halted = false
  opcode : m.board.memory.read m.cpu.core.pc = 0xD3
  trap : ∃ register, m.board.devices.ports.resolve (m.board.memory.read (m.cpu.core.pc + 1)) =
    some (.hbiosTrap, register)
  function : m.cpu.core.b = 0x00
  unit : m.cpu.core.c = 0x00 ∨ m.cpu.core.c = 0x80

/-- The port that the next instruction names, if it names one. -/
def namedPort (m : Machine) : UInt8 := m.board.memory.read (m.cpu.core.pc + 1)

instance (m : Machine) : Decidable m.AsksForInput :=
  decidable_of_iff
    (m.cpu.core.halted = false ∧ m.board.memory.read m.cpu.core.pc = 0xD3 ∧
      (m.board.devices.ports.resolve m.namedPort).map Prod.fst = some .hbiosTrap ∧
      m.cpu.core.b = 0x00 ∧ (m.cpu.core.c = 0x00 ∨ m.cpu.core.c = 0x80))
    ⟨fun ⟨running, opcode, device, function, unit⟩ => by
        obtain ⟨⟨_, register⟩, trap, rfl⟩ := Option.map_eq_some_iff.1 device
        exact ⟨running, opcode, ⟨register, trap⟩, function, unit⟩,
      fun ⟨running, opcode, ⟨_, trap⟩, function, unit⟩ =>
        ⟨running, opcode, congrArg (Option.map Prod.fst) trap, function, unit⟩⟩

variable {m : Machine}

/-- The step executes the instruction and changes nothing on the board. -/
theorem AsksForInput.step (asks : m.AsksForInput) :
    m.cpu.step m.board =
      (⟨11, some (.trap m.cpu.core.a)⟩,
        { m.cpu with
          core := { m.cpu.core.withCallMade m.cpu.flavour m.namedPort with
            pc := m.cpu.core.pc + 1 + 1 }
          clock := m.cpu.clock + Int32.ofNat 11 },
        m.board) := by
  obtain ⟨⟨flavour, core, clock⟩, board⟩ := m
  obtain ⟨running, opcode, ⟨register, trap⟩, -, -⟩ := asks
  dsimp only at running opcode trap ⊢
  let n := board.memory.read (core.pc + 1)
  have written : Board.bus.output (word core.a n) core.a { board } =
      { board, trap := some core.a } := by
    rw [Board.bus_output, lowByte_word, Devices.output, trap]
    rfl
  have run : (core.step flavour).run Board.bus { board } =
      (⟨{ core.withCallMade flavour n with pc := core.pc + 1 + 1 }, 11⟩,
        { board, trap := some core.a }) := by
    let ctx : StepContext := ⟨flavour, core.index, core.flagsFresh⟩
    let start : Core :=
      { core with pc := core.pc + 1, r := Core.refreshed core.r, index := .hl, flagsFresh := false }
    show (Core.execute ctx start (Instruction.ofOpcode (board.memory.read core.pc))).run Board.bus
      { board } = _
    rw [opcode]
    show (_, Board.bus.output (word core.a n) core.a { board }) = _
    rw [written]
    rfl
  rw [Processor.step]
  dsimp only
  rw [running, if_neg Bool.false_ne_true, run]
  rfl

/-! ### One turn -/

/-- The machine after asking in vain: PC is back on the instruction. -/
def askedInVain (m : Machine) : Machine :=
  { m with
    cpu :=
      { m.cpu with
        core := m.cpu.core.withCallMade m.cpu.flavour m.namedPort
        clock := m.cpu.clock + Int32.ofNat 11 } }

/-- The machine after it was given a byte, when these are left. -/
def answered (m : Machine) (v : UInt8) (rest : List UInt8) : Machine where
  cpu :=
    { m.cpu with
      core := { m.cpu.core.withCallMade m.cpu.flavour m.namedPort with
        a := HbiosResult.success.code
        e := m.board.devices.uart.seenByGuest v
        pc := m.cpu.core.pc + 2 }
      clock := m.cpu.clock + Int32.ofNat 11 }
  board :=
    { m.board with
      devices := { m.board.devices with uart := { m.board.devices.uart with input := rest } } }

/-- PC is past the instruction, A says that the call succeeded, and E holds the byte; the other
registers that have names are as before. -/
theorem answered_namedRegisters (m : Machine) (v : UInt8) (rest : List UInt8) :
    (m.answered v rest).cpu.core.namedRegisters =
      { m.cpu.core with
        a := 0x00
        e := m.board.devices.uart.seenByGuest v
        pc := m.cpu.core.pc + 2 }.namedRegisters := by
  simp only [answered, Core.withCallMade, Core.storeLatch, Core.namedRegisters]
  rfl

theorem AsksForInput.calls (asks : m.AsksForInput) :
    HbiosFunction.ofCode? m.cpu.core.b = some .charInput ∧
      Hbios.isConsole m.cpu.core.c = true := by
  rw [asks.function, Hbios.isConsole_iff]
  exact ⟨rfl, asks.unit⟩

/-- A call moves PC past its instruction, and when it finds no input back onto it. -/
theorem pc_past (pc : UInt16) : pc + 1 + 1 = pc + 2 ∧ pc + 1 + 1 - Hbios.trapLength = pc := by
  have past : pc + 1 + 1 = pc + 2 := UInt16.add_assoc pc 1 1
  refine ⟨past, ?_⟩
  rw [past]
  exact UInt16.add_sub_cancel pc 2

theorem AsksForInput.turn_of_nil (asks : m.AsksForInput) (empty : m.board.devices.uart.input = [])
    (now : UInt64) : m.turn now = ⟨11, some .waitingForInput, m.askedInVain⟩ := by
  obtain ⟨function, console⟩ := asks.calls
  rw [turn, asks.step]
  dsimp only
  rw [serve]
  dsimp only
  rw [Hbios.call_charInput_of_nil (by exact function) (by exact console) (by exact empty)]
  dsimp only
  rw [(pc_past m.cpu.core.pc).2]
  rfl

theorem AsksForInput.turn_of_cons (asks : m.AsksForInput) {v : UInt8} {rest : List UInt8}
    (queued : m.board.devices.uart.input = v :: rest) (now : UInt64) :
    m.turn now = ⟨11, none, m.answered v rest⟩ := by
  obtain ⟨function, console⟩ := asks.calls
  rw [turn, asks.step]
  dsimp only
  rw [serve]
  dsimp only
  rw [Hbios.call_charInput_of_cons (by exact function) (by exact console) (by exact queued)]
  dsimp only
  rw [(pc_past m.cpu.core.pc).1]
  rfl

end Machine

/-- Devices that agree but for their output agree when what the one lacks is put in front. -/
theorem Devices.prependOutput_eq {d d' : Devices} {pre : ByteArray}
    (same : d'.withoutOutput = d.withoutOutput) (output : pre ++ d'.uart.output = d.uart.output) :
    d'.prependOutput pre = d := by
  calc d'.prependOutput pre
      = { d'.withoutOutput with
          uart := { d'.withoutOutput.uart with output := pre ++ d'.uart.output } } := rfl
    _ = { d.withoutOutput with uart := { d.withoutOutput.uart with output := d.uart.output } } := by
        rw [same, output]
    _ = d := rfl

/-- A board that some output was put in front of has the same parts but for its output. -/
theorem Board.parts_of_prependOutput {b b' : Board} {pre : ByteArray}
    (same : b.prependOutput pre = b') :
    b.memory = b'.memory ∧ b.devices.withoutOutput = b'.devices.withoutOutput ∧
      pre ++ b.devices.uart.output = b'.devices.uart.output := by
  subst same
  exact ⟨rfl, rfl, rfl⟩

/-! ### Asking again and again -/

namespace Engine

/-- The guest's next instruction asks for a byte of console input, and there is none. -/
structure Blocked (e : Engine) : Prop where
  ready : e.lifecycle = .ready
  asks : e.machine.AsksForInput
  empty : e.devices.uart.input = []

instance (e : Engine) : Decidable e.Blocked :=
  decidable_of_iff
    (e.lifecycle = .ready ∧ e.machine.AsksForInput ∧ e.devices.uart.input = [])
    ⟨fun ⟨ready, asks, empty⟩ => ⟨ready, asks, empty⟩,
      fun ⟨ready, asks, empty⟩ => ⟨ready, asks, empty⟩⟩

/-- Run batches one after another. -/
def runBatches (e : Engine) : List (Clock × Nat) → List BatchResult × Engine
  | [] => ([], e)
  | (clock, budget) :: rest =>
    let first := e.runFor clock budget
    let later := first.2.runBatches rest
    (first.1 :: later.1, later.2)

/-- What some batches have handed to the host, one after another. -/
def handedOver : List BatchResult → ByteArray
  | [] => .empty
  | first :: rest => first.handedOver ++ handedOver rest

/-- What batches that met a blocked guest have returned and left. -/
structure Retried (e : Engine) (results : List BatchResult) (e' : Engine) : Prop where
  /-- Each executed the one instruction that asks. -/
  reports : ∀ r ∈ results, r.report = ⟨1, 11, .waitingForInput⟩
  /-- PC is on it, and all other registers are as before. -/
  registers : e'.core.namedRegisters = e.core.namedRegisters
  flavour : e'.machine.cpu.flavour = e.machine.cpu.flavour
  memory : e'.memory = e.memory
  /-- So are the devices, but a sink gets the output that was still there. -/
  devices : e'.devices =
    if e.hasSink = true ∧ results ≠ [] then e.devices.withoutOutput else e.devices
  output : handedOver results ++ e'.devices.uart.output = e.devices.uart.output
  config : e'.config = e.config
  hasSink : e'.hasSink = e.hasSink
  lifecycle : e'.lifecycle = e.lifecycle
  stats : e'.stats =
    { batches := e.stats.batches + results.length
      instructions := e.stats.instructions + results.length
      cycles := e.stats.cycles + 11 * results.length }

variable {e e' e'' : Engine} {results later : List BatchResult}

@[simp] theorem endBatch_hasSink (report : BatchReport) (machine : Machine) :
    (e.endBatch report machine).2.hasSink = e.hasSink := by
  unfold endBatch
  dsimp only
  split <;> rfl

theorem Blocked.runFor (blocked : e.Blocked) (clock : Clock) {budget : Nat} (nonzero : budget ≠ 0) :
    e.runFor clock budget = e.endBatch ⟨1, 11, .waitingForInput⟩ e.machine.askedInVain := by
  obtain ⟨budget, rfl⟩ := Nat.exists_eq_succ_of_ne_zero nonzero
  have turn := blocked.asks.turn_of_nil blocked.empty (clock.time (0 + 1))
  have ended : (e.machine.turn (clock.time (0 + 1))).outcome = some .waitingForInput := by rw [turn]
  rw [runFor_of_ready blocked.ready, Machine.runFrom_of_some ended, turn]
  rfl

theorem Retried.refl (e : Engine) : e.Retried [] e where
  reports := nofun
  registers := rfl
  flavour := rfl
  memory := rfl
  devices := (if_neg fun both => both.2 rfl).symm
  output := ByteArray.empty_append
  config := rfl
  hasSink := rfl
  lifecycle := rfl
  stats := rfl

theorem Blocked.retried (blocked : e.Blocked) (clock : Clock) {budget : Nat} (nonzero : budget ≠ 0) :
    e.Retried [(e.runFor clock budget).1] (e.runFor clock budget).2 := by
  have board := e.endBatch_board ⟨1, 11, .waitingForInput⟩ e.machine.askedInVain
  rw [blocked.runFor clock nonzero]
  constructor
  case reports =>
      intro r one
      rw [List.mem_singleton.1 one, endBatch_report]
  case registers =>
      rw [endBatch_core]
      rfl
  case flavour =>
      rw [endBatch_cpu]
      rfl
  case memory => exact endBatch_memory e _ _
  case devices =>
      rw [endBatch_devices]
      cases e.hasSink <;> rfl
  case output =>
      rw [handedOver, handedOver, ByteArray.append_empty]
      exact (Board.parts_of_prependOutput board).2.2
  case config => exact endBatch_config e _ _
  case hasSink => exact endBatch_hasSink _ _
  case lifecycle => rw [endBatch_lifecycle, blocked.ready]; rfl
  case stats => exact endBatch_stats e _ _

theorem handedOver_append (results later : List BatchResult) :
    handedOver (results ++ later) = handedOver results ++ handedOver later := by
  induction results with
  | nil => exact ByteArray.empty_append.symm
  | cons first rest ih => rw [List.cons_append, handedOver, handedOver, ih, ByteArray.append_assoc]

theorem Retried.trans (first : e.Retried results e') (second : e'.Retried later e'') :
    e.Retried (results ++ later) e'' := by
  constructor
  case reports =>
      intro r here
      exact (List.mem_append.1 here).elim (first.reports r) (second.reports r)
  case registers => exact second.registers.trans first.registers
  case flavour => exact second.flavour.trans first.flavour
  case memory => exact second.memory.trans first.memory
  case devices =>
      rw [second.devices, first.hasSink, first.devices]
      cases e.hasSink <;> cases results <;> cases later <;> simp [Devices.withoutOutput]
  case output =>
      rw [handedOver_append, ByteArray.append_assoc, second.output, first.output]
  case config => exact second.config.trans first.config
  case hasSink => exact second.hasSink.trans first.hasSink
  case lifecycle => exact second.lifecycle.trans first.lifecycle
  case stats =>
      rw [second.stats, first.stats, List.length_append, Nat.mul_add]
      simp only [Nat.add_assoc]

/-- The guest asks the same of an engine that is like this one. -/
theorem asks_of_same (asks : e.machine.AsksForInput)
    (registers : e'.core.namedRegisters = e.core.namedRegisters) (memory : e'.memory = e.memory)
    (ports : e'.devices.ports = e.devices.ports) : e'.machine.AsksForInput := by
  have pc : e'.core.pc = e.core.pc := Core.pc_of_same registers
  obtain ⟨running, opcode, ⟨register, trap⟩, function, unit⟩ := asks
  constructor
  case running => exact (congrArg Core.halted registers).trans running
  case opcode =>
      show e'.memory.read e'.core.pc = 0xD3
      rw [memory, pc]
      exact opcode
  case trap =>
      refine ⟨register, ?_⟩
      show e'.devices.ports.resolve (e'.memory.read (e'.core.pc + 1)) = _
      rw [ports, memory, pc]
      exact trap
  case function => exact (congrArg Core.b registers).trans function
  case unit =>
      show e'.core.namedRegisters.c = 0x00 ∨ e'.core.namedRegisters.c = 0x80
      rw [registers]
      exact unit

/-- The guest is still blocked. -/
theorem Retried.blocked (retried : e.Retried results e') (blocked : e.Blocked) : e'.Blocked := by
  have ports : e'.devices.ports = e.devices.ports := by
    rw [retried.devices]
    split <;> rfl
  refine ⟨retried.lifecycle.trans blocked.ready,
    asks_of_same blocked.asks retried.registers retried.memory ports, ?_⟩
  rw [retried.devices]
  split
  · exact blocked.empty
  · exact blocked.empty

/-- **Any number of batches** meet the guest blocked, by induction: it is so again after the first. -/
theorem Blocked.runBatches (blocked : e.Blocked) {attempts : List (Clock × Nat)}
    (nonzero : ∀ a ∈ attempts, a.2 ≠ 0) :
    e.Retried (e.runBatches attempts).1 (e.runBatches attempts).2 := by
  induction attempts generalizing e with
  | nil => exact .refl e
  | cons a rest ih =>
      have first := blocked.retried a.1 (nonzero a List.mem_cons_self)
      have second := ih (first.blocked blocked) fun b hb => nonzero b (List.mem_cons_of_mem a hb)
      exact first.trans second

/-! ### The answer -/

theorem Retried.withoutOutput (retried : e.Retried results e') :
    e'.devices.withoutOutput = e.devices.withoutOutput := by
  rw [retried.devices]
  split <;> rfl

/-- The board is the one from before, without the output that was handed over. -/
theorem Retried.board (retried : e.Retried results e') :
    e.machine.board = e'.machine.board.prependOutput (handedOver results) := by
  have memory : e.machine.board.memory = e'.machine.board.memory := retried.memory.symm
  have devices : e.devices = e'.devices.prependOutput (handedOver results) :=
    (Devices.prependOutput_eq retried.withoutOutput retried.output).symm
  calc e.machine.board = ⟨e.machine.board.memory, e.devices⟩ := rfl
    _ = ⟨e'.machine.board.memory, e'.devices.prependOutput (handedOver results)⟩ := by
        rw [memory, devices]
    _ = e'.machine.board.prependOutput (handedOver results) := rfl

/-- A byte that is queued is the answer. -/
theorem Blocked.turn_of_queued (blocked : e.Blocked) (v : UInt8) (now : UInt64) :
    (e.queueInput v).machine.turn now = ⟨11, none, e.machine.answered v []⟩ := by
  have asks : (e.queueInput v).machine.AsksForInput := asks_of_same blocked.asks rfl rfl rfl
  have queued : (e.queueInput v).machine.board.devices.uart.input = [v] := by
    show e.devices.uart.input ++ [v] = [v]
    rw [blocked.empty, List.nil_append]
  rw [asks.turn_of_cons queued]
  rfl

/-- So a batch goes on behind it. -/
theorem Blocked.runFor_of_queued (blocked : e.Blocked) (v : UInt8) (clock : Clock) (budget : Nat) :
    let run := (e.machine.answered v []).runFrom clock 1 11 budget
    (e.queueInput v).runFor clock (budget + 1) = (e.queueInput v).endBatch run.1 run.2 := by
  have ready : (e.queueInput v).lifecycle = .ready := blocked.ready
  have turn := blocked.turn_of_queued v (clock.time (0 + 1))
  have goes : ((e.queueInput v).machine.turn (clock.time (0 + 1))).outcome = none := by rw [turn]
  rw [runFor_of_ready ready, Machine.runFrom_of_none goes, turn]
  rfl

theorem Blocked.answered_board (blocked : e.Blocked) (v : UInt8) :
    (e.machine.answered v []).board = e.machine.board := by
  have input : e.machine.board.devices.uart.input = [] := blocked.empty
  unfold Machine.answered
  rw [← input]

/-- Whether and how often the guest asked before shows in the refresh register alone. -/
theorem Retried.answered (retried : e.Retried results e') (v : UInt8) :
    (e.machine.answered v []).cpu.SameButRefresh (e'.machine.answered v []).cpu := by
  have pc : e'.core.pc = e.core.pc := Core.pc_of_same retried.registers
  have port : e'.machine.namedPort = e.machine.namedPort := by
    show e'.memory.read (e'.core.pc + 1) = e.memory.read (e.core.pc + 1)
    rw [retried.memory, pc]
  have seen : e'.devices.uart.seenByGuest v = e.devices.uart.seenByGuest v := by
    show e'.devices.withoutOutput.uart.seenByGuest v = e.devices.withoutOutput.uart.seenByGuest v
    rw [retried.withoutOutput]
  refine ⟨retried.flavour, Core.refreshed e'.core.r, ?_⟩
  have made := Core.withCallMade_of_same retried.registers e.machine.cpu.flavour e.machine.namedPort
  show { e'.core.withCallMade e'.machine.cpu.flavour e'.machine.namedPort with
    a := HbiosResult.success.code, e := e'.devices.uart.seenByGuest v, pc := e'.core.pc + 2 } = _
  rw [retried.flavour, port, seen, pc, made]
  rfl

/-- What a batch has left that executes the answered call alone, after some that had asked in vain. -/
structure Answered (e : Engine) (tried : List BatchResult) (v : UInt8) (r : BatchResult × Engine) :
    Prop where
  report : r.1.report = ⟨1, 11, .budgetExhausted⟩
  /-- PC is past the instruction, A says that the call succeeded, and E holds the byte. -/
  registers : r.2.core.namedRegisters =
    { e.core with
      a := 0x00, e := e.devices.uart.seenByGuest v, pc := e.core.pc + 2 }.namedRegisters
  consumed : r.2.devices.uart.input = []
  memory : r.2.memory = e.memory
  devices : r.2.devices.withoutOutput = e.devices.withoutOutput
  output : handedOver tried ++ r.1.handedOver ++ r.2.devices.uart.output = e.devices.uart.output
  lifecycle : r.2.lifecycle = .ready

theorem Retried.answers (retried : e.Retried results e') (blocked : e.Blocked) (v : UInt8)
    (clock : Clock) : e.Answered results v ((e'.queueInput v).runFor clock 1) := by
  have blocked' := retried.blocked blocked
  have run : (e'.queueInput v).runFor clock 1 =
      (e'.queueInput v).endBatch ⟨1, 11, .budgetExhausted⟩ (e'.machine.answered v []) :=
    blocked'.runFor_of_queued v clock 0
  have board : ((e'.queueInput v).endBatch ⟨1, 11, .budgetExhausted⟩
      (e'.machine.answered v [])).2.machine.board.prependOutput _ = e'.machine.board :=
    (endBatch_board _ _ _).trans (blocked'.answered_board v)
  obtain ⟨memory, devices, output⟩ := Board.parts_of_prependOutput <|
    (congrArg (Board.prependOutput (handedOver results)) board).trans retried.board.symm
  obtain ⟨-, r, core⟩ := retried.answered v
  rw [run]
  constructor
  case report => exact endBatch_report _ _ _
  case registers =>
      rw [endBatch_core, core, Core.namedRegisters_withRefresh, Machine.answered_namedRegisters]
      rfl
  case consumed => rw [endBatch_input, blocked'.answered_board]; exact blocked'.empty
  case memory => exact memory
  case devices => exact devices
  case output => rw [ByteArray.append_assoc]; exact output
  case lifecycle => exact endBatch_lifecycle _ _ _

/-! ### Whatever comes after the answer -/

/-- A batch on an engine on which some batches had asked in vain, and one without them. -/
structure Resumes (tried : List BatchResult) (early late : BatchResult × Engine) : Prop where
  report : late.1.report = early.1.report
  cpu : early.2.machine.cpu.SameButRefresh late.2.machine.cpu
  memory : late.2.memory = early.2.memory
  devices : late.2.devices.withoutOutput = early.2.devices.withoutOutput
  /-- In all the same is transmitted. -/
  output : handedOver tried ++ late.1.handedOver ++ late.2.devices.uart.output =
    early.1.handedOver ++ early.2.devices.uart.output
  lifecycle : late.2.lifecycle = early.2.lifecycle
  config : late.2.config = early.2.config
  hasSink : late.2.hasSink = early.2.hasSink
  stats : late.2.stats =
    { batches := early.2.stats.batches + tried.length
      instructions := early.2.stats.instructions + tried.length
      cycles := early.2.stats.cycles + 11 * tried.length }

/-- A batch that spares the refresh register does so behind the answer. -/
theorem Blocked.spares_answered (blocked : e.Blocked) {v : UInt8} {clock : Clock} {budget : Nat}
    (spares : (e.queueInput v).machine.sparesRefresh clock 0 (budget + 1) = true) :
    (e.machine.answered v []).sparesRefresh clock 1 budget = true := by
  rw [Machine.sparesRefresh, blocked.turn_of_queued, Bool.and_eq_true] at spares
  exact spares.2

/-- Behind the answer both runs go the same way: the registers differ in the refresh register alone, and
the boards in output that was handed over. -/
theorem Retried.runFrom_answered (retried : e.Retried results e') (blocked : e.Blocked) (v : UInt8)
    {clock : Clock} {budget : Nat}
    (spares : (e.machine.answered v []).sparesRefresh clock 1 budget = true) :
    let early := (e.machine.answered v []).runFrom clock 1 11 budget
    let late := (e'.machine.answered v []).runFrom clock 1 11 budget
    late.1 = early.1 ∧ early.2.cpu.SameButRefresh late.2.cpu ∧
      early.2.board = late.2.board.prependOutput (handedOver results) := by
  intro early late
  -- The registers of the one and the board of the other.
  let between : Machine := ⟨(e'.machine.answered v []).cpu, (e.machine.answered v []).board⟩
  have boards : between.board =
      (e'.machine.answered v []).board.prependOutput (handedOver results) := by
    show (e.machine.answered v []).board = _
    rw [blocked.answered_board, (retried.blocked blocked).answered_board, retried.board]
  have registers : (e.machine.answered v []).SameButRefresh between := ⟨retried.answered v, rfl⟩
  have output : (e'.machine.answered v []).Alike
      (fun b b' => b' = b.prependOutput (handedOver results)) between := ⟨rfl, boards⟩
  obtain ⟨report, cpu, board⟩ := Machine.runFrom_sameButRefresh registers spares
  obtain ⟨report', cpu', board'⟩ :=
    Machine.runFrom_alike (Board.prependOutput_indistinguishable _) output clock 1 11 budget
  exact ⟨report'.trans report, cpu' ▸ cpu, board.symm.trans board'⟩

/-- **A batch goes on as if the byte had been there before**, but for the refresh register and the clock,
the output that a sink got in the vain batches, and what these count for. -/
theorem Retried.resumes (retried : e.Retried results e') (blocked : e.Blocked) {v : UInt8}
    {clock : Clock} {budget : Nat} (nonzero : budget ≠ 0)
    (spares : (e.queueInput v).machine.sparesRefresh clock 0 budget = true) :
    Resumes results ((e.queueInput v).runFor clock budget)
      ((e'.queueInput v).runFor clock budget) := by
  obtain ⟨budget, rfl⟩ := Nat.exists_eq_succ_of_ne_zero nonzero
  obtain ⟨report, cpu, board⟩ :=
    retried.runFrom_answered blocked v (blocked.spares_answered spares)
  rw [blocked.runFor_of_queued, (retried.blocked blocked).runFor_of_queued]
  generalize (e.machine.answered v []).runFrom clock 1 11 budget = early at report cpu board ⊢
  generalize (e'.machine.answered v []).runFrom clock 1 11 budget = late at report cpu board ⊢
  have boards : (((e'.queueInput v).endBatch late.1 late.2).2.machine.board.prependOutput
      ((e'.queueInput v).endBatch late.1 late.2).1.handedOver).prependOutput (handedOver results) =
        ((e.queueInput v).endBatch early.1 early.2).2.machine.board.prependOutput
          ((e.queueInput v).endBatch early.1 early.2).1.handedOver := by
    rw [endBatch_board, endBatch_board, board]
  obtain ⟨memory, devices, output⟩ := Board.parts_of_prependOutput boards
  constructor
  case report => rw [endBatch_report, endBatch_report, report]
  case cpu => rw [endBatch_cpu, endBatch_cpu]; exact cpu
  case memory => exact memory
  case devices => exact devices
  case output => rw [ByteArray.append_assoc]; exact output
  case lifecycle => rw [endBatch_lifecycle, endBatch_lifecycle, report]
  case config => rw [endBatch_config, endBatch_config]; exact retried.config
  case hasSink => rw [endBatch_hasSink, endBatch_hasSink]; exact retried.hasSink
  case stats =>
      rw [endBatch_stats, endBatch_stats, report]
      have stats : (e'.queueInput v).stats = _ := retried.stats
      rw [stats]
      dsimp only
      rw [Nat.add_right_comm e.stats.batches, Nat.add_right_comm e.stats.instructions,
        Nat.add_right_comm e.stats.cycles]
      rfl

/-- **Waiting for input is transparent.** However often a blocked guest is run, every batch executes the
one instruction that asks, and returns that it waits for input; the registers that have names, the
memory and the devices stay, but for output that a sink gets. A byte that is queued then is the answer,
and from there on the guest goes the way it would have gone if the byte had been there from the
beginning, but for the refresh register and the clock, as long as it does not look at this register. -/
theorem blocked_read_transparent (e : Engine) (blocked : e.Blocked) (attempts : List (Clock × Nat))
    (nonzero : ∀ a ∈ attempts, a.2 ≠ 0) :
    let tried := e.runBatches attempts
    e.Retried tried.1 tried.2 ∧ tried.2.Blocked ∧
      ∀ (v : UInt8) (clock : Clock), e.Answered tried.1 v ((tried.2.queueInput v).runFor clock 1) ∧
        ∀ budget, budget ≠ 0 →
          (e.queueInput v).machine.sparesRefresh clock 0 budget = true →
          Resumes tried.1 ((e.queueInput v).runFor clock budget)
            ((tried.2.queueInput v).runFor clock budget) := by
  intro tried
  have retried : e.Retried tried.1 tried.2 := blocked.runBatches nonzero
  refine ⟨retried, retried.blocked blocked, fun v clock => ⟨?_, fun budget some spares => ?_⟩⟩
  · exact retried.answers blocked v clock
  · exact retried.resumes blocked some spares

/-- A guest that transmits a character and asks for a byte, then loads A with it, and then with the
refresh register. -/
def askingGuest : List UInt8 :=
  [0x06, 0x01, 0x1E, 0x21, 0xD3, 0xEF, 0x06, 0x00, 0xD3, 0xEF, 0x7B, 0xED, 0x5F, 0x76]

/-- A machine in which this guest asks next. The sink came after the character, and has not got it. -/
def askingSetup : Except MachineError Engine := do
  let ready ← setUp { ramSize := 65536 } askingGuest
  return (ready.runFor (Clock.still 0) 4).2.setSink true

/-- After two vain attempts the guest gets its letter, and after two instructions has it in A, as it
would have at once. -/
theorem askingGuest_transparent :
    ∃ e, askingSetup = .ok e ∧
      let tried := e.runBatches [(Clock.still 0, 1), (Clock.still 5, 7)]
      e.Retried tried.1 tried.2 ∧
        e.Answered tried.1 0x41 ((tried.2.queueInput 0x41).runFor (Clock.still 9) 1) ∧
        Resumes tried.1 ((e.queueInput 0x41).runFor (Clock.still 9) 2)
          ((tried.2.queueInput 0x41).runFor (Clock.still 9) 2) := by
  have asking : askingSetup.toOption.any (fun e => e.Blocked ∧
      (e.queueInput 0x41).machine.sparesRefresh (Clock.still 9) 0 2 = true) = true := by
    decide +kernel
  obtain ⟨e, built, blocked, spares⟩ := exists_of_toOption_any asking
  obtain ⟨retried, -, queued⟩ :=
    blocked_read_transparent e blocked [(Clock.still 0, 1), (Clock.still 5, 7)] (by simp)
  obtain ⟨answered, resumes⟩ := queued 0x41 (Clock.still 9)
  exact ⟨e, built, retried, answered, resumes 2 (by decide) spares⟩

/-- A vain attempt is not without a trace: the output from before goes to the sink, and by the refresh
register the guest finds out that it had to ask twice. -/
theorem askingGuest_notices :
    ∃ e, askingSetup = .ok e ∧
      let tried := e.runFor (Clock.still 0) 1
      e.Blocked ∧ tried.1.report.outcome = .waitingForInput ∧ tried.2.devices ≠ e.devices ∧
        ((tried.2.queueInput 0x41).runFor (Clock.still 0) 3).2.core.a ≠
          ((e.queueInput 0x41).runFor (Clock.still 0) 3).2.core.a := by
  have traces : askingSetup.toOption.any (fun e =>
      let tried := e.runFor (Clock.still 0) 1
      e.Blocked ∧ tried.1.report.outcome = .waitingForInput ∧
        tried.2.devices.uart ≠ e.devices.uart ∧
        ((tried.2.queueInput 0x41).runFor (Clock.still 0) 3).2.core.a ≠
          ((e.queueInput 0x41).runFor (Clock.still 0) 3).2.core.a) = true := by
    decide +kernel
  obtain ⟨e, built, blocked, waits, uart, a⟩ := exists_of_toOption_any traces
  exact ⟨e, built, blocked, waits, fun same => uart (congrArg Devices.uart same), a⟩

end Engine

end BankedZ80
