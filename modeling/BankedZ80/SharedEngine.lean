import BankedZ80.Engine

/-!
# Engines behind shared handles

An engine that several threads use through handles: a lock around the engine, and a running flag
beside it. A closure that fails while it holds the lock poisons it for good. The engine can be taken
back only through the last handle.

The state of all handles together is one value, and every call on a handle is a function on it.
Running a batch consists of three steps between which calls of other threads may come: reading the
flag, the batch itself under the lock, and lowering the flag if the batch was the last
(`readFlag`, `lockedBatch`, `lowerFlag`); `runBatchReport` is the three without anything in between.
-/

namespace BankedZ80

/-- The engine behind its lock, and what its handles share. -/
@[ext] structure SharedEngine where
  engine : Engine
  running : Bool := false
  poisoned : Bool := false
  handles : Nat := 1
deriving DecidableEq

namespace SharedEngine

/-- Share an engine through a first handle; it starts stopped. -/
def ofEngine (e : Engine) : SharedEngine := { engine := e }

/-- Use the engine under the lock. -/
def withEngine {α : Type} (s : SharedEngine) (f : Engine → α × Engine) :
    Except MachineError α × SharedEngine :=
  if s.poisoned then (.error .lockPoisoned, s)
  else
    let (a, engine) := f s.engine
    (.ok a, { s with engine })

/-- Use the engine under the lock and fail in the middle of it. -/
def failWithEngine (s : SharedEngine) (f : Engine → Engine) : SharedEngine :=
  if s.poisoned then s else { s with engine := f s.engine, poisoned := true }

/-- Queue a byte of keyboard input. -/
def queueInput (s : SharedEngine) (v : UInt8) : Except MachineError Unit × SharedEngine :=
  s.withEngine fun e => ((), e.queueInput v)

/-- Queue the ASCII characters of a text. -/
def queueText (s : SharedEngine) (text : String) : Except MachineError Unit × SharedEngine :=
  s.withEngine fun e => ((), e.queueText text)

/-- Allow batches to run. -/
def start (s : SharedEngine) : SharedEngine := { s with running := true }

/-- Stop further batches. -/
def stop (s : SharedEngine) : SharedEngine := { s with running := false }

/-! ### Running a batch -/

/-- The first step of a batch: is it allowed to run? -/
def readFlag (s : SharedEngine) : Bool := s.running

/-- The second step: the batch itself. -/
def lockedBatch (s : SharedEngine) (clock : Clock) :
    Except MachineError BatchResult × SharedEngine :=
  s.withEngine fun e => e.runBatch clock

/-- The third step: no batch follows one that does not continue. -/
def lowerFlag (s : SharedEngine) (result : BatchResult) : SharedEngine :=
  if result.report.outcome.shouldContinue then s else s.stop

/-- Run a batch if that is allowed. -/
def runBatchReport (s : SharedEngine) (clock : Clock) :
    Except MachineError (Option BatchResult) × SharedEngine :=
  if s.readFlag then
    match s.lockedBatch clock with
    | (.ok result, s) => (.ok (some result), s.lowerFlag result)
    | (.error e, s) => (.error e, s)
  else (.ok none, s)

/-- Run a batch if that is allowed; should the caller go on? -/
def runBatch (s : SharedEngine) (clock : Clock) : Except MachineError Bool × SharedEngine :=
  let (result, s) := s.runBatchReport clock
  (result.map fun r => (r.map fun r => r.report.outcome.shouldContinue).getD false, s)

/-! ### Handles -/

/-- Make another handle. -/
def clone (s : SharedEngine) : SharedEngine := { s with handles := s.handles + 1 }

/-- Give a handle up. -/
def drop (s : SharedEngine) : SharedEngine := { s with handles := s.handles - 1 }

/-- Give a handle up to take the engine back; refused if there are other handles. -/
def intoEngine (s : SharedEngine) : Except MachineError Engine × SharedEngine :=
  if s.handles ≠ 1 then (.error (.notReady .shared), s.drop)
  else if s.poisoned then (.error .lockPoisoned, s.drop)
  else (.ok s.engine, s.drop)

end SharedEngine

end BankedZ80
