import BankedZ80.Hbios.Call

/-!
# What a firmware call does

Whatever the registers say, a firmware call does one of nine things besides changing registers, and
`Effect` lists them:

* **Console.** It takes a byte of input, transmits a byte, or finds no input and blocks.
* **Disks and memory.** It moves sectors, sets a seek position, stores bytes in memory, or selects a
  bank.
* **Machine.** It asks for a restart and changes nothing yet.
* **Anything else**, every refusal included, is an answer in the registers alone.

`call_effect` is the inversion: facts about all calls are proved by these nine cases.
-/

namespace BankedZ80.Hbios

/-- What a call made in a state may leave and ask for. -/
inductive Effect (s : HbiosState) : HbiosState × HbiosAction → Prop where
  | answer (core : Core) : Effect s ({ s with core }, .proceed)
  | takeInput (core : Core) {v : UInt8} {uart : Uart}
      (taken : s.board.devices.uart.takeInput = some (v, uart)) :
      Effect s (withUart { s with core } uart, .proceed)
  | putOutput (core : Core) (v : UInt8) :
      Effect s (withUart { s with core } (s.board.devices.uart.putOutput v), .proceed)
  | block (core : Core) (empty : s.board.devices.uart.input = []) :
      Effect s ({ s with core }, .waitForInput)
  | move (write : Bool)
      (function : HbiosFunction.ofCode? s.core.b =
        some (if write then .diskWrite else .diskRead)) :
      Effect s (transfer s write)
  | seek (core : Core) (n : Nat) (lba : UInt32) :
      Effect s (withDisks { s with core } (s.board.devices.disks.setSeek n lba), .proceed)
  | store (core : Core) (address : UInt16) (bytes : List UInt8) :
      Effect s
        ({ core, board := { s.board with memory := s.board.memory.loadAt address bytes } }, .proceed)
  | selectBank (core : Core) (bank : UInt8) :
      Effect s
        ({ core, board := { s.board with memory := s.board.memory.selectBank bank } }, .proceed)
  | restart (cold : Bool) : Effect s (s, .restart cold)

variable (s : HbiosState)

/-- A refusal, or a result with nothing else. -/
theorem finish_effect (r : HbiosResult) : Effect s (finish s r) := .answer (setResult s.core r)

theorem consoleCall_effect (f : HbiosFunction) : Effect s (consoleCall s f) := by
  unfold consoleCall
  dsimp only
  split
  · exact finish_effect s .noUnit
  · split
    · split
      · next taken => exact .takeInput _ taken
      · next none =>
          refine .block _ ?_
          unfold Uart.takeInput at none
          split at none
          · assumption
          · cases none
    · exact .putOutput _ s.core.e
    · exact .answer _
    · exact .answer _

theorem diskCall_effect (f : HbiosFunction) : Effect s (diskCall s f) := by
  unfold diskCall
  dsimp only
  split
  · exact .seek _ s.core.c.toNat _
  all_goals exact .answer _

theorem systemCall_effect (f : HbiosFunction) : Effect s (systemCall s f) := by
  unfold systemCall
  split
  · split
    · exact .restart false
    · split
      · exact .restart true
      · exact finish_effect s .noFunction
  · exact .answer _
  · exact .selectBank _ s.core.c
  · exact .answer _
  · split
    · exact .answer _
    · exact finish_effect s .noFunction

/-- **What a firmware call does**, whatever the registers and the devices hold. -/
theorem call_effect (now : UInt64) : Effect s (call now s) := by
  unfold call
  split
  · exact finish_effect s .noFunction
  · next f function =>
      cases f with
      | charInput | charOutput | charInputStatus | charOutputStatus => exact consoleCall_effect s _
      | diskRead => exact .move false function
      | diskWrite => exact .move true function
      | diskStatus | diskSeek | diskMedia | diskCapacity => exact diskCall_effect s _
      | clockRead => exact .store _ s.core.hl _
      | systemReset | systemVersion | systemSetBank | systemGetBank | systemGet =>
          exact systemCall_effect s _

/-- Only a call that finds no input waits for some. -/
theorem input_eq_nil_of_wait (now : UInt64) (h : (call now s).2 = .waitForInput) :
    (call now s).1.board.devices.uart.input = [] := by
  have effect := call_effect s now
  generalize call now s = r at h effect ⊢
  cases effect with
  | block core empty => exact empty
  | _ => cases h

end BankedZ80.Hbios
