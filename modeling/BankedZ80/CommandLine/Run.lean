import BankedZ80.Bundle
import BankedZ80.CommandLine.Arguments
import BankedZ80.CommandLine.Help
import BankedZ80.Session
import BankedZ80.Transfer

/-!
# A run of the command line

From arguments to exit code: `Build.engine` sets a machine up from the files that the arguments name,
`Run.start` adds the session, `Run.turn` runs one batch and serves the host's side of it, and
`Run.finish` writes changed disk images back. `Run.whole` puts the parts together for a guest that
halts within a number of batches, and `Run.commandLine` is that from the words of the command line on.

Everything is a `HostProgram`, so a run is a function of the host's answers alone.
-/

namespace BankedZ80

/-- Why a run does not start, or does not end well. -/
inductive StartError where
  | machine (error : MachineError)
  /-- There is neither a bundle nor a ROM. -/
  | noImage
  /-- All units are taken. -/
  | noFreeUnit
deriving DecidableEq, Repr

/-- The wording of a start error. -/
def StartError.message : StartError → String
  | machine error => error.message
  | noImage => "no bundle or --rom given"
  | noFreeUnit => "no free disk unit"

/-- A sequence of requests that may end early with an error. -/
abbrev HostAction (α : Type) := ExceptT StartError HostProgram α

/-- The file behind a unit. -/
structure DiskFile where
  unit : Nat
  path : String
deriving DecidableEq, Repr

namespace Build

/-- Go on with a result of the machine. -/
def orStop {α : Type} (r : Except MachineError α) : HostAction α :=
  match r with
  | .ok a => return a
  | .error e => throw (.machine e)

/-- The contents of a file that must be there. -/
def readFile (path : String) : HostAction ByteArray := do
  match ← HostProgram.askFile path with
  | .ok contents => return contents
  | .error _ => throw (.machine .file)

/-- Read the bundle, if one is named. A directory is no archive. -/
def bundle (args : Arguments) : HostAction (Option LoadedBundle) := do
  match args.bundle with
  | none => return none
  | some path =>
    match ← HostProgram.askFile path with
    | .ok archive =>
      let bundle ← orStop (Bundle.load archive)
      let disks := bundle.disks.length
      HostProgram.say s!"Loaded bundle: {bundle.manifest.name} ({disks} disks)"
      return some bundle
    | .error .directory => throw (.machine .archive)
    | .error _ => throw (.machine .file)

/-- The configuration: that of the file named for it, else the bundle's, else the default. -/
def config (args : Arguments) (bundle : Option LoadedBundle) : HostAction Config := do
  match args.config, bundle with
  | some path, _ =>
    let text ← readFile path
    if text.validateUTF8 then orStop (Config.parse (Bytes.toList text))
    else throw (.machine .file)
  | none, some bundle => return bundle.config
  | none, none => return {}

/-- Install the bundle, or else insist on a ROM. -/
def install (args : Arguments) (bundle : Option LoadedBundle) (e : Engine) : HostAction Engine := do
  match bundle with
  | some bundle =>
    let (result, e) := bundle.install.runOn e
    let _ ← orStop result
    return e
  | none => if args.rom.isNone then throw .noImage else return e

/-- Load the ROM that is named, in place of the bundle's. -/
def rom (args : Arguments) (e : Engine) : HostAction Engine := do
  match args.rom with
  | none => return e
  | some path => orStop (e.loadRom (← readFile path))

/-- The first unit without a disk. -/
def freeUnit? (e : Engine) : Option Nat :=
  (List.range maxUnits).find? fun n => !e.devices.disks.isLoaded n

/-- Load a disk image as the user's own, and note the file behind its unit. -/
def disk (loaded : Engine × List DiskFile) (d : DiskArgument) :
    HostAction (Engine × List DiskFile) := do
  let (e, files) := loaded
  match d.unit <|> freeUnit? e with
  | none => throw .noFreeUnit
  | some unit =>
    let image ← readFile d.path
    let e ← orStop (e.loadDisk unit image)
    let e ← orStop (e.setManifest unit false)
    HostProgram.say s!"Disk unit {unit}: {d.path}"
    return (e, files ++ [⟨unit, d.path⟩])

/-- Set a machine up, ready to run; also the files behind the units, in the order they were
loaded. -/
def engine (args : Arguments) : HostAction (Engine × List DiskFile) := do
  let bundle ← bundle args
  let config ← config args bundle
  let e ← orStop (Engine.new config)
  let e ← install args bundle e
  let e ← rom args e
  let (e, files) ← args.disks.foldlM disk (e, [])
  if e.isReady then return (e, files)
  else return (← orStop e.completeInit, files)

end Build

/-- A run under way. -/
structure Run where
  engine : Engine
  session : Session
  transfer : FileTransfer
  /-- Where the session is kept. -/
  stateFile : Option String
  diskFiles : List DiskFile
  saveDisks : Bool
deriving DecidableEq

namespace Run

/-- The session to start from. -/
def loadSession (args : Arguments) : HostAction Session := do
  let session ← match args.state with
    | none => pure {}
    | some path => Build.orStop (← Session.load path)
  return { session with silenceAll := session.silenceAll || args.quietWrites }

/-- Set up the machine and bring it to the session and the boot option asked for. -/
def start (args : Arguments) : HostAction Run := do
  let (e, diskFiles) ← Build.engine args
  let session ← loadSession args
  let (applied, e) := session.apply.runOn e
  Build.orStop applied
  let e ← match args.boot with
    | none => pure e
    | some s => Build.orStop (e.setSetting s)
  for d in e.devices.disks.driveMap do
    HostProgram.say s!"  {d.letter}: unit {d.unit} slice {d.slice}"
  HostProgram.say ("Boot setting: " ++ if e.setting = "" then "(none)" else e.setting)
  return {
    engine := e.setSink true
    session
    transfer := ⟨args.imports, args.exports⟩
    stateFile := args.state
    diskFiles
    saveDisks := args.saveDisks }

/-- Type a text on the machine's keyboard. -/
def typeText (r : Run) (s : String) : Run := { r with engine := r.engine.queueText s }

/-- Keep the boot setting if the boot record has changed. -/
def keepSetting (r : Run) : HostProgram Run := do
  let (changed, e) := r.engine.takeSettingChange
  let r := { r with engine := e }
  if changed then
    let session := { r.session with setting := e.setting }
    match r.stateFile with
    | none => pure ()
    | some path =>
      if !(← session.save path) then HostProgram.say s!"cannot save {path}"
    return { r with session }
  else return r

/-- Tell the user about a write to a catalog image. -/
def warn (r : Run) : HostProgram Run := do
  let (warning, e) := r.engine.takeWarning
  match warning with
  | none => pure ()
  | some n =>
    HostProgram.say s!"*** write to bundle disk in unit {n} (changes are not kept)"
  return { r with engine := e }

/-- Run one batch, hand its output over, and serve what the guest asked for; the result tells how the
batch ended. -/
def turn (r : Run) : HostProgram (BatchOutcome × Run) := do
  let (result, e) := r.engine.runBatch (← HostProgram.askClock)
  match result.delivered with
  | none => pure ()
  | some bytes => HostProgram.write bytes
  let (_, e) ← r.transfer.service e
  let r ← warn { r with engine := e }
  let r ← keepSetting r
  return (result.report.outcome, r)

/-- Write the images of changed disks back to their files, until one cannot be written. -/
def saveImages (e : Engine) : List DiskFile → HostProgram Bool
  | [] => return true
  | d :: rest => do
    if e.devices.disks.isDirty d.unit then
      match e.devices.disks.image d.unit with
      | none => saveImages e rest
      | some image =>
        if ← HostProgram.putFile d.path image then
          HostProgram.say s!"Saved unit {d.unit} to {d.path}"
          saveImages e rest
        else return false
    else saveImages e rest

/-- Exit code of a run whose guest has halted. -/
def finish (r : Run) : HostProgram UInt32 := do
  if r.saveDisks then
    return if ← saveImages r.engine r.diskFiles then 0 else 1
  else return 0

/-- Exit code of a run that did not start. -/
def fail (e : StartError) : HostProgram UInt32 := do
  HostProgram.say s!"Error: {e.message}"
  return 1

/-- Run batches until the guest halts, at most so many. -/
def turns (r : Run) : Nat → HostProgram (Option Run)
  | 0 => return none
  | n + 1 => do
    let (outcome, r) ← r.turn
    if outcome.shouldContinue then turns r n else return some r

/-- A whole run; none if the guest does not halt within so many batches. -/
def whole (args : Arguments) (batches : Nat) : HostProgram (Option UInt32) := do
  match ← (start args).run with
  | .error e => return some (← fail e)
  | .ok r =>
    match ← r.turns batches with
    | none => return none
    | some r => return some (← r.finish)

/-- Exit code of a command line that leads to no run. -/
def stopped : ArgumentStop → HostProgram UInt32
  | .help => do
    HostProgram.write helpText.toUTF8
    return 0
  | .refused => do
    HostProgram.say usageLine
    return 2

/-- What the words of a command line do, as `whole`. -/
def commandLine (args : List String) (batches : Nat) : HostProgram (Option UInt32) := do
  match Arguments.parse args with
  | .error stop => return some (← stopped stop)
  | .ok args => whole args batches

end Run

end BankedZ80
