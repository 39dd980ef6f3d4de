import BankedZ80.CommandLine.Run
import Std.Time.DateTime.Timestamp

/-!
# The program

Carries a run out on the operating system: files, the standard output, remarks on the standard error,
the clock, and the keyboard by lines. Whatever is decided is decided in `BankedZ80.CommandLine.Run`.
-/

namespace BankedZ80.Program

/-- Why a file could not be read. -/
def faultOf : IO.Error → FileFault
  | .noFileOrDirectory .. => .missing
  | .inappropriateType .. => .directory
  | _ => .failed

/-- The contents of a file. -/
def read (path : String) : IO (Except FileFault ByteArray) := do
  try return .ok (← IO.FS.readBinFile path)
  catch e => return .error (faultOf e)

/-- Write a file; was that possible? -/
def write (path : String) (contents : ByteArray) : IO Bool := do
  try
    IO.FS.writeBinFile path contents
    return true
  catch _ => return false

/-- The names of the files directly inside a directory. -/
def list (directory : String) : IO (Option (List String)) := do
  try
    let entries ← (IO.FS.DirEntry.mk directory "").path.readDir
    let files ← entries.toList.filterM fun entry => do
      try return (← entry.path.metadata).type == .file
      catch _ => return false
    return some (files.map (·.fileName))
  catch _ => return none

/-- Write to the standard output. -/
def emit (bytes : ByteArray) : IO Unit := do
  let out ← IO.getStdout
  try
    out.write bytes
    out.flush
  catch _ => pure ()

/-- The clock during the batch that begins. A batch takes a moment, and all of it is told the time of
its beginning. -/
def clock : IO Clock := do
  let seconds := (← Std.Time.Timestamp.now).toSecondsSinceUnixEpoch.val.toNat.toUInt64
  return .still seconds

/-- Carry requests out. -/
def perform {α : Type} : HostProgram α → IO α
  | .done a => return a
  | .readFile path next => do perform (next (← read path))
  | .writeFile path contents next => do perform (next (← write path contents))
  | .listFiles directory next => do perform (next (← list directory))
  | .emit bytes next => do
    emit bytes
    perform (next ())
  | .remark text next => do
    IO.eprint (text ++ "\r\n")
    perform (next ())
  | .clock next => do perform (next (← clock))

/-- Wait for the user: a line of the standard input, or a moment when there is no more. -/
def awaitInput (r : Run) : IO Run := do
  let line ← (← IO.getStdin).getLine
  if line.isEmpty then IO.sleep 10
  return r.typeText line

/-- Run batches until the guest halts. -/
partial def turns (r : Run) : IO Run := do
  let (outcome, r) ← perform r.turn
  match outcome with
  | .budgetExhausted => turns r
  | .waitingForInput => turns (← awaitInput r)
  | .halted | .notRunning => return r

/-- Carry out a command line. -/
def run (args : List String) : IO UInt32 := do
  match Arguments.parse args with
  | .error stop => perform (Run.stopped stop)
  | .ok args =>
    match ← perform (Run.start args).run with
    | .error e => perform (Run.fail e)
    | .ok r => perform (← turns r).finish

end BankedZ80.Program

/-- Run a machine in the terminal. -/
def main (args : List String) : IO UInt32 := BankedZ80.Program.run args
