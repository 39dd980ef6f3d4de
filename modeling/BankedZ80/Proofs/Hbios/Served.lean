import BankedZ80.Proofs.Hbios.Refusal

/-!
# What a firmware call does that is not refused

`Served` lists what a call can do when `refusal?` finds nothing wrong, each case with the function that
does it, and `call_served` is the inversion. The registers in which a call answers are listed beside it:
`HbiosFunction.answers` for a function that is carried out, and `Hbios.answers` for any call, told from the
registers and devices that the call finds.
-/

namespace BankedZ80

/-- A register in which some call answers. -/
inductive CallRegister where
  | a
  | b
  | c
  | d
  | e
  | h
  | l
  | pc
deriving DecidableEq, Repr

/-- Take some registers over from another core, and leave everything else. -/
def Core.taking (core other : Core) (registers : List CallRegister) : Core :=
  { core with
    a := if .a ∈ registers then other.a else core.a
    b := if .b ∈ registers then other.b else core.b
    c := if .c ∈ registers then other.c else core.c
    d := if .d ∈ registers then other.d else core.d
    e := if .e ∈ registers then other.e else core.e
    h := if .h ∈ registers then other.h else core.h
    l := if .l ∈ registers then other.l else core.l
    pc := if .pc ∈ registers then other.pc else core.pc }

/-- The registers in which a function answers when it is not refused. -/
def HbiosFunction.answers : HbiosFunction → List CallRegister
  | charInput | diskRead | diskWrite | diskMedia | systemGet => [.a, .e]
  | diskCapacity => [.a, .b, .c, .d, .e, .h, .l]
  | systemVersion => [.a, .d, .e, .l]
  | systemSetBank | systemGetBank => [.a, .c]
  | _ => [.a]

theorem HbiosFunction.a_mem_answers (f : HbiosFunction) : .a ∈ f.answers := by
  cases f <;> decide

namespace Hbios

/-- The registers in which a call reports a failure. -/
def failureAnswers (s : HbiosState) : List CallRegister :=
  if Asks s .diskMedia ∨ AsksTransfer s then [.a, .e] else [.a]

/-- The registers in which a call answers. -/
def answers (s : HbiosState) : List CallRegister :=
  if Blocks s then [.pc]
  else if Restarts s then []
  else if (refusal? s).isSome then failureAnswers s
  else ((HbiosFunction.ofCode? s.core.b).map HbiosFunction.answers).getD []

/-! ### Calls that are not refused -/

/-- What a call does that is not refused. -/
inductive Served (now : UInt64) (s : HbiosState) : HbiosState × HbiosAction → Prop where
  | block (blocks : Blocks s) :
      Served now s ({ s with core := { s.core with pc := s.core.pc - trapLength } }, .waitForInput)
  | restart (cold : Bool) (function : Asks s .systemReset) (kind : s.core.c = if cold then 2 else 1) :
      Served now s (s, .restart cold)
  | takeInput (function : Asks s .charInput) (console : isConsole s.core.c = true) {v : UInt8}
      {rest : List UInt8} (pending : s.board.devices.uart.input = v :: rest) :
      Served now s
        (finish (withUart { s with core := { s.core with e := s.board.devices.uart.seenByGuest v } }
          { s.board.devices.uart with input := rest }) .success)
  | putOutput (function : Asks s .charOutput) (console : isConsole s.core.c = true) :
      Served now s (finish (withUart s (s.board.devices.uart.putOutput s.core.e)) .success)
  | status {f : HbiosFunction} (function : Asks s f)
      (query : f = .charInputStatus ∨ f = .charOutputStatus) (v : UInt8) :
      Served now s ({ s with core := { s.core with a := v } }, .proceed)
  /-- An answer in the registers alone. -/
  | answer {f : HbiosFunction} (function : Asks s f) (input : f ≠ .charInput) (reset : f ≠ .systemReset)
      {core : Core} (registers : core = s.core.taking core f.answers) :
      Served now s (finish { s with core } .success)
  | seek (function : Asks s .diskSeek) (lba : UInt32) :
      Served now s
        (finish (withDisks s (s.board.devices.disks.setSeek s.core.c.toNat lba)) .success)
  | move (write : Bool) (function : Asks s (if write then .diskWrite else .diskRead)) :
      Served now s (transfer s write)
  | clock (function : Asks s .clockRead) :
      Served now s
        (finish { s with board := { s.board with
          memory := s.board.memory.loadAt s.core.hl (DateTime.ofUnix now).toBuffer } } .success)
  | selectBank (function : Asks s .systemSetBank) :
      Served now s
        (finish { core := { s.core with c := s.board.memory.bank }
                  board := { s.board with memory := s.board.memory.selectBank s.core.c } } .success)

variable {now : UInt64} {s : HbiosState}

/-- A test whose failure is a reason to refuse has not failed. -/
theorem of_not_refused {p : Prop} [Decidable p] {reason : HbiosResult}
    (h : (if p then none else some reason) = none) : p := by
  by_contra failed
  rw [if_neg failed] at h
  cases h

theorem unit_of_not_missing {disks : DiskController} {n : Nat} (h : missing? disks n = none) :
    ∃ d, disks.unit n = .ok d := by
  rw [missing?_eq] at h
  cases found : disks.unit n with
  | ok d => exact ⟨d, rfl⟩
  | error e =>
      rw [found] at h
      cases h

theorem consoleCall_served {f : HbiosFunction} (function : Asks s f)
    (console : isConsole s.core.c = true)
    (group : f = .charInput ∨ f = .charOutput ∨ f = .charInputStatus ∨ f = .charOutputStatus) :
    Served now s (consoleCall s f) := by
  rcases group with rfl | rfl | rfl | rfl <;> unfold consoleCall <;> rw [console]
  · cases pending : s.board.devices.uart.input with
    | nil =>
        dsimp only
        rw [Uart.takeInput_of_nil _ pending]
        exact .block ⟨function, console, pending⟩
    | cons v rest =>
        dsimp only
        rw [Uart.takeInput_of_cons _ pending]
        exact .takeInput function console pending
  · exact .putOutput function console
  · exact .status function (.inl rfl) _
  · exact .status function (.inr rfl) 1

theorem diskCall_served {f : HbiosFunction} (function : Asks s f)
    (there : missing? s.board.devices.disks s.core.c.toNat = none)
    (group : f = .diskStatus ∨ f = .diskSeek ∨ f = .diskMedia ∨ f = .diskCapacity) :
    Served now s (diskCall s f) := by
  obtain ⟨d, found⟩ := unit_of_not_missing there
  rcases group with rfl | rfl | rfl | rfl <;> unfold diskCall <;> dsimp only <;> rw [found]
  · exact .answer function nofun nofun rfl
  · exact .seek function _
  · exact .answer function nofun nofun rfl
  · exact .answer function nofun nofun rfl

theorem systemGet_served (function : Asks s .systemGet)
    (known : s.core.c = 0x00 ∨ s.core.c = 0x10 ∨ s.core.c = 0x20) :
    Served now s (systemCall s .systemGet) := by
  obtain ⟨count, counted⟩ := Option.isSome_iff_exists.1
    ((systemCount?_isSome_iff s.board.devices.disks s.core.c).2 known)
  unfold systemCall
  dsimp only
  rw [counted]
  exact .answer function nofun nofun rfl

theorem systemReset_served (function : Asks s .systemReset) (known : s.core.c = 1 ∨ s.core.c = 2) :
    Served now s (systemCall s .systemReset) := by
  unfold systemCall
  dsimp only
  by_cases warm : s.core.c = 1
  · rw [if_pos warm]
    exact .restart false function warm
  · have cold : s.core.c = 2 := known.resolve_left warm
    rw [if_neg warm, if_pos cold]
    exact .restart true function cold

/-- **What a firmware call does** that is not refused. By cases on the function. -/
theorem call_served (accepted : refusal? s = none) (now : UInt64) : Served now s (call now s) := by
  unfold refusal? at accepted
  cases function : HbiosFunction.ofCode? s.core.b with
  | none =>
      rw [function] at accepted
      cases accepted
  | some f =>
      rw [function] at accepted
      rw [call, function]
      cases f with
      | charInput | charOutput | charInputStatus | charOutputStatus =>
          have console := (isConsole_iff s.core.c).2 (of_not_refused accepted)
          exact consoleCall_served function console (by simp)
      | diskRead => exact .move false function
      | diskWrite => exact .move true function
      | diskStatus | diskSeek | diskMedia | diskCapacity =>
          exact diskCall_served function accepted (by simp)
      | clockRead => exact .clock function
      | systemReset => exact systemReset_served function (of_not_refused accepted)
      | systemVersion => exact .answer function (by decide) (by decide) rfl
      | systemSetBank => exact .selectBank function
      | systemGetBank => exact .answer function (by decide) (by decide) rfl
      | systemGet => exact systemGet_served function (of_not_refused accepted)

/-! ### Functions and their calls -/

theorem not_blocks {f : HbiosFunction} (function : Asks s f) (other : f ≠ .charInput) :
    ¬Blocks s := fun blocks => other (asks_unique function blocks.1)

theorem not_restarts {f : HbiosFunction} (function : Asks s f) (other : f ≠ .systemReset) :
    ¬Restarts s := fun restarts => other (asks_unique function restarts.1)

theorem restarts_of_kind {cold : Bool} (function : Asks s .systemReset)
    (kind : s.core.c = if cold then 2 else 1) : Restarts s := by
  refine ⟨function, ?_⟩
  cases cold with
  | false => exact .inl kind
  | true => exact .inr kind

end Hbios

end BankedZ80
