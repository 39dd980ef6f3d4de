import BankedZ80.Proofs.Hbios.Served
import BankedZ80.Proofs.Memory.Blocks
import BankedZ80.Proofs.Safety.Firmware

/-!
# What a firmware call leaves alone

The guest's firmware relies on a call for what it does not touch as much as for its answer.

* `call_registers`: all registers but those of the answer are as before.
* `call_board`: memory, devices and disks are as before, apart from what the function is for; `BoardFrame`
  says what that is.
* `failed_call`: a call that fails changes nothing but its result, unless it is a transfer that has moved
  some sectors.

`call_touches_only_documented` puts these together, for every function and whatever the registers hold.
-/

namespace BankedZ80

namespace DiskController

/-- The controllers differ at most in one unit and in the pending warning. -/
structure SameBut (n : Nat) (c c' : DiskController) : Prop where
  units (k : Nat) (other : k ≠ n) : c'.unit? k = c.unit? k
  rest : { c' with units := c.units, pendingWarning := c.pendingWarning } = c

namespace SameBut

variable {n : Nat} {c c' c'' : DiskController}

theorem refl (n : Nat) (c : DiskController) : SameBut n c c := ⟨fun _ _ => rfl, rfl⟩

theorem trans (h : SameBut n c c') (h' : SameBut n c' c'') : SameBut n c c'' where
  units k other := (h'.units k other).trans (h.units k other)
  rest := by
    have later : { c'' with units := c.units, pendingWarning := c.pendingWarning } =
        { c' with units := c.units, pendingWarning := c.pendingWarning } :=
      congrArg ({ · with units := c.units, pendingWarning := c.pendingWarning }) h'.rest
    exact later.trans h.rest

theorem modifyUnit (n : Nat) (c : DiskController) (f : DiskUnit → DiskUnit) :
    SameBut n c (c.modifyUnit n f) where
  units k other := by
    rw [unit?_modifyUnit, if_neg (Ne.symm other), Option.map_id]
    rfl
  rest := rfl

theorem setSeek (n : Nat) (c : DiskController) (lba : UInt32) : SameBut n c (c.setSeek n lba) :=
  modifyUnit n c _

theorem putSector (n : Nat) (c : DiskController) (lba : UInt32) (bytes : ByteArray) :
    SameBut n c (c.putSector n lba bytes) := by
  rw [putSector_eq]
  exact ⟨(modifyUnit n c (·.putSector lba bytes)).units, rfl⟩

end SameBut

end DiskController

namespace Hbios

variable {now : UInt64} {s : HbiosState}

/-! ### Registers -/

theorem not_blocks_of_refusal {reason : HbiosResult} (h : refusal? s = some reason) : ¬Blocks s := by
  rintro ⟨function, console, -⟩
  rw [refusal?, function] at h
  exact (Option.ite_none_left_eq_some.1 h).1 ((isConsole_iff s.core.c).1 console)

theorem not_restarts_of_refusal {reason : HbiosResult} (h : refusal? s = some reason) :
    ¬Restarts s := by
  rintro ⟨function, known⟩
  rw [refusal?, function] at h
  exact (Option.ite_none_left_eq_some.1 h).1 known

theorem answers_of_refusal {reason : HbiosResult} (h : refusal? s = some reason) :
    answers s = failureAnswers s := by
  have refused : (refusal? s).isSome = true := by
    rw [h]
    rfl
  rw [answers, if_neg (not_blocks_of_refusal h), if_neg (not_restarts_of_refusal h), if_pos refused]

theorem answers_of_accepted (accepted : refusal? s = none) {f : HbiosFunction} (function : Asks s f)
    (blocks : ¬Blocks s) (restarts : ¬Restarts s) : answers s = f.answers := by
  have granted : ¬(refusal? s).isSome = true := by
    rw [accepted]
    nofun
  rw [answers, if_neg blocks, if_neg restarts, if_neg granted, function]
  rfl

/-- A result in A is among the answers. -/
theorem taking_setResult {core other : Core} {registers : List CallRegister}
    (h : other = core.taking other registers) (a : .a ∈ registers) (r : HbiosResult) :
    setResult other r = core.taking (setResult other r) registers := by
  calc setResult other r
      = setResult (core.taking other registers) r := congrArg (setResult · r) h
    _ = core.taking (setResult other r) registers := by
        rw [Core.taking, Core.taking, if_pos a, if_pos a]
        rfl

/-- What a refused call changes in the registers. -/
theorem taking_of_refusal {reason : HbiosResult} (h : refusal? s = some reason) (now : UInt64) :
    (call now s).1.core = s.core.taking (call now s).1.core (failureAnswers s) := by
  rw [call_of_refusal h, refused, failureAnswers]
  split <;> rfl

/-- **Every register that is not among the answers** is as before, the flags, the stack pointer and the
shadow registers included. -/
theorem call_registers (now : UInt64) (s : HbiosState) :
    (call now s).1.core = s.core.taking (call now s).1.core (answers s) := by
  cases refused : refusal? s with
  | some reason =>
      rw [answers_of_refusal refused]
      exact taking_of_refusal refused now
  | none =>
      have served := call_served refused now
      have plain {f : HbiosFunction} (function : Asks s f) (input : f ≠ .charInput)
          (reset : f ≠ .systemReset) : answers s = f.answers :=
        answers_of_accepted refused function (not_blocks function input) (not_restarts function reset)
      generalize call now s = r at served ⊢
      cases served with
      | block blocks =>
          rw [answers, if_pos blocks]
          rfl
      | restart cold function kind =>
          rw [answers, if_neg (not_blocks function nofun), if_pos (restarts_of_kind function kind)]
          rfl
      | takeInput function console pending =>
          have blocks : ¬Blocks s := fun blocks => absurd (pending.symm.trans blocks.2.2) nofun
          rw [answers_of_accepted refused function blocks (not_restarts function nofun)]
          rfl
      | putOutput function _ | seek function _ | clock function | selectBank function =>
          rw [plain function nofun nofun]
          rfl
      | status function query v =>
          rcases query with rfl | rfl <;> rw [plain function nofun nofun] <;> rfl
      | answer function input reset registers =>
          rw [plain function input reset]
          exact taking_setResult registers (HbiosFunction.a_mem_answers _) .success
      | move write function =>
          cases write <;> rw [plain function nofun nofun] <;> rfl

/-! ### Memory, devices and disks -/

/-- What the rounds of a transfer leave alone. -/
structure Transfer.Frame (write : Bool) (n : Nat) (t t' : Transfer) : Prop where
  pages : Memory.SamePages t.memory t'.memory
  bank : t'.memory.bank = t.memory.bank
  /-- A write only reads the memory. -/
  memory : write = true → t'.memory = t.memory
  unit : t.disks.SameBut n t'.disks
  warning : write = false → t'.disks.pendingWarning = t.disks.pendingWarning

namespace Transfer

variable {write : Bool} {n : Nat} {t t' t'' : Transfer}

theorem Frame.refl (t : Transfer) : Frame write n t t :=
  ⟨.refl t.memory, rfl, fun _ => rfl, .refl n t.disks, fun _ => rfl⟩

theorem Frame.trans (h : Frame write n t t') (h' : Frame write n t' t'') : Frame write n t t'' where
  pages := h.pages.trans h'.pages
  bank := h'.bank.trans h.bank
  memory writes := (h'.memory writes).trans (h.memory writes)
  unit := h.unit.trans h'.unit
  warning reads := (h'.warning reads).trans (h.warning reads)

theorem Frame.move (write : Bool) (n : Nat) (t : Transfer) : Frame write n t (t.move write n) := by
  have pages := samePages_move t write n
  cases write with
  | false => exact ⟨pages, t.memory.bank_loadAt _ _, nofun, .setSeek n t.disks _, fun _ => rfl⟩
  | true =>
      have sector := DiskController.SameBut.putSector n t.disks (t.disks.seek n)
        (Bytes.ofList (t.memory.readBlock t.address t.disks.sectorSize))
      exact ⟨pages, rfl, fun _ => rfl, sector.trans (.setSeek n _ _), nofun⟩

/-- By induction on the sectors that are left. -/
theorem Frame.moveMany (write : Bool) (n count : Nat) (t : Transfer) :
    Frame write n t (t.moveMany write n count).2 := by
  induction count generalizing t with
  | zero => exact .refl t
  | succ count ih =>
      rw [Transfer.moveMany]
      cases t.check write n with
      | error e => exact .refl t
      | ok u => exact (Frame.move write n t).trans (ih (t.move write n))

/-- The count of sectors does not go down. -/
theorem le_moved_moveMany (write : Bool) (n count : Nat) (t : Transfer)
    (room : t.moved.toNat + count ≤ 255) :
    t.moved.toNat ≤ (t.moveMany write n count).2.moved.toNat := by
  induction count generalizing t with
  | zero => exact Nat.le_refl _
  | succ count ih =>
      rw [Transfer.moveMany]
      cases t.check write n with
      | error e => exact Nat.le_refl _
      | ok u =>
          have one := t.moved_move write n (by omega)
          have later := ih (t.move write n) (by omega)
          rw [one] at later
          exact Nat.le_of_succ_le later

/-- A transfer that counts no sector has left everything as it was. -/
theorem moveMany_of_moved (write : Bool) (n count : Nat) (t : Transfer)
    (room : t.moved.toNat + count ≤ 255)
    (none_moved : (t.moveMany write n count).2.moved = t.moved) :
    (t.moveMany write n count).2 = t := by
  cases count with
  | zero => rfl
  | succ count =>
      rw [Transfer.moveMany] at none_moved ⊢
      cases checked : t.check write n with
      | error e => rfl
      | ok u =>
          rw [checked] at none_moved
          have one := t.moved_move write n (by omega)
          have later := le_moved_moveMany write n count (t.move write n) (by omega)
          have same := congrArg UInt8.toNat none_moved
          dsimp only at same
          omega

end Transfer

/-- What a call may change of the board on which it is made. -/
structure BoardFrame (s : HbiosState) (b : Board) : Prop where
  /-- The ROM and the number of RAM pages stay. -/
  pages : Memory.SamePages s.board.memory b.memory
  bytes (l : Location) :
    b.memory.byteAt l = s.board.memory.byteAt l ∨ Asks s .diskRead ∨
      Asks s .clockRead ∧
        ∃ k < 6, l = s.board.memory.locate s.board.memory.bank (s.core.hl + k.toUInt16)
  bank : b.memory.bank = s.board.memory.bank ∨ Asks s .systemSetBank
  uart : b.devices.uart = s.board.devices.uart ∨
    (Asks s .charInput ∨ Asks s .charOutput) ∧ isConsole s.core.c = true
  disks : b.devices.disks = s.board.devices.disks ∨ Asks s .diskSeek ∨ AsksTransfer s
  /-- Of the disks, the unit in C and the pending warning. -/
  unit : s.board.devices.disks.SameBut s.core.c.toNat b.devices.disks
  warning : b.devices.disks.pendingWarning = s.board.devices.disks.pendingWarning ∨
    Asks s .diskWrite
  nvram : b.devices.nvram = s.board.devices.nvram
  hostFile : b.devices.hostFile = s.board.devices.hostFile
  ports : b.devices.ports = s.board.devices.ports

namespace BoardFrame

theorem refl (s : HbiosState) : BoardFrame s s.board where
  pages := .refl s.board.memory
  bytes _ := .inl rfl
  bank := .inl rfl
  uart := .inl rfl
  disks := .inl rfl
  unit := .refl _ _
  warning := .inl rfl
  nvram := rfl
  hostFile := rfl
  ports := rfl

theorem withUart (uart : Uart)
    (console : (Asks s .charInput ∨ Asks s .charOutput) ∧ isConsole s.core.c = true) :
    BoardFrame s (withUart s uart).board :=
  { refl s with uart := .inr console }

theorem seek (function : Asks s .diskSeek) (lba : UInt32) :
    BoardFrame s (withDisks s (s.board.devices.disks.setSeek s.core.c.toNat lba)).board :=
  { refl s with
    disks := .inr (.inl function)
    unit := .setSeek _ _ lba }

theorem clock (function : Asks s .clockRead) {bytes : List UInt8} (six : bytes.length = 6) :
    BoardFrame s { s.board with memory := s.board.memory.loadAt s.core.hl bytes } :=
  { refl s with
    pages := .loadAt _ _ _
    bank := .inl (s.board.memory.bank_loadAt _ _)
    bytes := fun l => by
      rcases s.board.memory.byteAt_loadAt s.core.hl bytes l with same | ⟨k, inside, there⟩
      · exact .inl same
      · exact .inr (.inr ⟨function, k, six ▸ inside, there⟩) }

theorem selectBank (function : Asks s .systemSetBank) (bank : UInt8) :
    BoardFrame s { s.board with memory := s.board.memory.selectBank bank } :=
  { refl s with
    pages := .selectBank _ bank
    bank := .inr function
    bytes := fun l => .inl (by cases l <;> rfl) }

theorem move (write : Bool) (function : Asks s (if write then .diskWrite else .diskRead)) :
    BoardFrame s (transfer s write).1.board := by
  have frame := Transfer.Frame.moveMany write s.core.c.toNat s.core.e.toNat (.ofCall s)
  exact
    { refl s with
      pages := frame.pages
      bank := .inl frame.bank
      bytes := fun l => by
        cases write with
        | false => exact .inr (.inl function)
        | true => exact .inl (congrArg (Memory.byteAt · l) (frame.memory rfl))
      disks := .inr (.inr (asksTransfer function))
      unit := frame.unit
      warning := by
        cases write with
        | false => exact .inl (frame.warning rfl)
        | true => exact .inr function }

end BoardFrame

theorem board_refused (s : HbiosState) : (refused s).board = s.board := by
  unfold refused
  split <;> rfl

theorem board_of_refusal {reason : HbiosResult} (h : refusal? s = some reason) (now : UInt64) :
    (call now s).1.board = s.board := by
  rw [call_of_refusal h]
  exact board_refused s

/-- **What a call may change of the board.** -/
theorem call_board (now : UInt64) (s : HbiosState) : BoardFrame s (call now s).1.board := by
  cases refused : refusal? s with
  | some reason =>
      rw [board_of_refusal refused]
      exact .refl s
  | none =>
      have served := call_served refused now
      generalize call now s = r at served ⊢
      cases served with
      | block | restart | status | answer => exact .refl s
      | takeInput function console pending => exact .withUart _ ⟨.inl function, console⟩
      | putOutput function console => exact .withUart _ ⟨.inr function, console⟩
      | seek function lba => exact .seek function lba
      | move write function => exact .move write function
      | clock function => exact .clock function rfl
      | selectBank function => exact .selectBank function s.core.c

/-! ### Failures -/

theorem action_of_refusal {reason : HbiosResult} (h : refusal? s = some reason) (now : UInt64) :
    (call now s).2 = .proceed := by
  rw [call_of_refusal h]
  rfl

/-- A refused call reports its reason. -/
theorem result_of_refusal {reason : HbiosResult} (h : refusal? s = some reason) (now : UInt64) :
    (call now s).1.core.a = reason.code := by
  rw [call_of_refusal h]
  rfl

theorem failureAnswers_of_other {f : HbiosFunction} (function : Asks s f)
    (other : f ∉ [.diskMedia, .diskRead, .diskWrite]) : failureAnswers s = [.a] :=
  if_neg (no_count function other)

theorem call_of_transfer (asked : AsksTransfer s) (now : UInt64) :
    ∃ write, call now s = transfer s write := by
  rcases asked with function | function
  · refine ⟨false, ?_⟩
    rw [call, function]
  · refine ⟨true, ?_⟩
    rw [call, function]

/-- A transfer that counts no sector leaves the board alone. -/
theorem board_transfer (write : Bool) (none_moved : (transfer s write).1.core.e = 0) :
    (transfer s write).1.board = s.board := by
  have same : ((Transfer.ofCall s).moveMany write s.core.c.toNat s.core.e.toNat).2 =
      Transfer.ofCall s :=
    Transfer.moveMany_of_moved write _ _ _ (Transfer.room_ofCall s) none_moved
  have board : (transfer s write).1.board =
      { memory := ((Transfer.ofCall s).moveMany write s.core.c.toNat s.core.e.toNat).2.memory
        devices := { s.board.devices with
          disks := ((Transfer.ofCall s).moveMany write s.core.c.toNat s.core.e.toNat).2.disks } } := rfl
  rw [board, same]
  rfl

/-- **A call that fails** changes its result alone, unless it is a transfer that has moved some sectors.
A status query that answers with a number other than zero changes nothing else, either. -/
theorem failed_call (proceeds : (call now s).2 = .proceed) (nonzero : (call now s).1.core.a ≠ 0) :
    (AsksTransfer s ∧ (call now s).1.core.e ≠ 0) ∨
      ((call now s).1.board = s.board ∧
        (call now s).1.core = s.core.taking (call now s).1.core (failureAnswers s)) := by
  cases refused : refusal? s with
  | some reason => exact .inr ⟨board_of_refusal refused now, taking_of_refusal refused now⟩
  | none =>
      have served := call_served refused now
      generalize call now s = r at served proceeds nonzero ⊢
      cases served with
      | block | restart => cases proceeds
      | takeInput | putOutput | answer | seek | clock | selectBank => exact absurd rfl nonzero
      | status function query v =>
          refine .inr ⟨rfl, ?_⟩
          rcases query with rfl | rfl <;>
            rw [failureAnswers_of_other function (by decide)] <;> rfl
      | move write function =>
          have asked := asksTransfer function
          by_cases none_moved : (transfer s write).1.core.e = 0
          · refine .inr ⟨board_transfer write none_moved, ?_⟩
            rw [failureAnswers, if_pos (.inr asked)]
            rfl
          · exact .inl ⟨asked, none_moved⟩

/-- A transfer of no sectors succeeds, whatever its unit. -/
theorem call_of_no_sectors (asked : AsksTransfer s) (no_sectors : s.core.e = 0) (now : UInt64) :
    (call now s).1.core.a = 0 ∧ (call now s).1.board = s.board := by
  obtain ⟨write, h⟩ := call_of_transfer asked now
  have ends : transfer s write = finish { s with core := { s.core with e := 0 } } .success := by
    unfold transfer
    rw [no_sectors]
    rfl
  rw [h, ends]
  exact ⟨rfl, rfl⟩

/-! ### Waiting and restarting -/

theorem waits_iff (now : UInt64) (s : HbiosState) : (call now s).2 = .waitForInput ↔ Blocks s := by
  constructor
  · intro waits
    cases refused : refusal? s with
    | some reason => exact absurd ((action_of_refusal refused now).symm.trans waits) nofun
    | none =>
        have served := call_served refused now
        generalize call now s = r at served waits
        cases served with
        | block blocks => exact blocks
        | _ => cases waits
  · rintro ⟨function, console, empty⟩
    rw [call_charInput_of_nil function console empty]

theorem restarts_iff (now : UInt64) (s : HbiosState) (cold : Bool) :
    (call now s).2 = .restart cold ↔
      Asks s .systemReset ∧ s.core.c = if cold then 2 else 1 := by
  constructor
  · intro restarts
    cases refused : refusal? s with
    | some reason => exact absurd ((action_of_refusal refused now).symm.trans restarts) nofun
    | none =>
        have served := call_served refused now
        generalize call now s = r at served restarts
        cases served with
        | restart cold function kind =>
            cases restarts
            exact ⟨function, kind⟩
        | _ => cases restarts
  · rintro ⟨function, kind⟩
    rw [call, function]
    cases cold with
    | false =>
        have warm : s.core.c = 1 := kind
        show (systemCall s .systemReset).2 = _
        rw [systemCall, if_pos warm]
    | true =>
        have cold : s.core.c = 2 := kind
        have not_warm : s.core.c ≠ 1 := by
          rw [cold]
          decide
        show (systemCall s .systemReset).2 = _
        rw [systemCall, if_neg not_warm, if_pos cold]

/-- A call that does not go on has left the board alone. -/
theorem board_of_not_proceed (h : (call now s).2 ≠ .proceed) : (call now s).1.board = s.board := by
  cases refused : refusal? s with
  | some reason => exact board_of_refusal refused now
  | none =>
      have served := call_served refused now
      generalize call now s = r at served h ⊢
      cases served with
      | block | restart => rfl
      | _ => exact absurd rfl h

/-! ### All together -/

/-- What a call leaves alone, and how it fails. -/
structure CallFrame (s : HbiosState) (r : HbiosState × HbiosAction) : Prop where
  /-- All registers but those of the answer are as before. -/
  registers : r.1.core = s.core.taking r.1.core (answers s)
  board : BoardFrame s r.1.board
  waits : r.2 = .waitForInput ↔ Blocks s
  restarts (cold : Bool) :
    r.2 = .restart cold ↔ Asks s .systemReset ∧ s.core.c = if cold then 2 else 1
  still : r.2 ≠ .proceed → r.1.board = s.board
  /-- A failing call other than a transfer that has moved some sectors changes its result alone. -/
  failed : r.2 = .proceed → r.1.core.a ≠ 0 →
    (AsksTransfer s ∧ r.1.core.e ≠ 0) ∨
      (r.1.board = s.board ∧ r.1.core = s.core.taking r.1.core (failureAnswers s))
  refused (reason : HbiosResult) : refusal? s = some reason →
    r.2 = .proceed ∧ r.1.board = s.board ∧ r.1.core = s.core.taking r.1.core (failureAnswers s)
  unknown : refusal? s = some .noFunction → r.1.core.a.toInt8 = -3
  bad_unit : refusal? s = some .noUnit → r.1.core.a.toInt8 = -4
  empty_unit : refusal? s = some .noMedia → r.1.core.a.toInt8 = -7
  /-- A transfer of no sectors does not look at its unit. -/
  no_sectors : AsksTransfer s → s.core.e = 0 → r.1.core.a = 0 ∧ r.1.board = s.board

/-- **A firmware call touches only what it documents**: for every function and unit number, whatever the
registers, the memory and the devices hold. -/
theorem call_touches_only_documented (now : UInt64) (s : HbiosState) : CallFrame s (call now s) where
  registers := call_registers now s
  board := call_board now s
  waits := waits_iff now s
  restarts := restarts_iff now s
  still := board_of_not_proceed
  failed := failed_call
  refused _ h := ⟨action_of_refusal h now, board_of_refusal h now, taking_of_refusal h now⟩
  unknown h := by
    rw [result_of_refusal h]
    rfl
  bad_unit h := by
    rw [result_of_refusal h]
    rfl
  empty_unit h := by
    rw [result_of_refusal h]
    rfl
  no_sectors asked none := call_of_no_sectors asked none now

end Hbios

end BankedZ80
