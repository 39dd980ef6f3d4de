import BankedZ80.Engine
import BankedZ80.Host.Program
import BankedZ80.Json.Decode
import BankedZ80.Json.Printer

/-!
# Session files

What is kept from one session to the next: the boot setting, and which write warnings the user has
silenced. It is written as JSON, and a file that names only some of it leaves the rest at its
default.
-/

namespace BankedZ80

/-- What is kept between sessions. -/
structure Session where
  /-- Text of the boot option, empty if there never was one. -/
  setting : String := ""
  silenceAll : Bool := false
  silencedUnits : List Nat := []
deriving DecidableEq, Repr

namespace Session

/-! ### JSON -/

/-- A session from JSON. -/
def ofJson? (j : Json) : Option Session := do
  let f ← j.fields? ["nvram", "suppressAllWarnings", "suppressedUnits"]
  return {
    setting := ← f.withDefault "nvram" Json.text? ""
    silenceAll := ← f.withDefault "suppressAllWarnings" Json.bool? false
    silencedUnits := ← f.withDefault "suppressedUnits" (Json.list? Json.size?) [] }

/-- A session as JSON. -/
def toJson (s : Session) : Json :=
  .object [
    (some "nvram", .string (some s.setting)),
    (some "suppressAllWarnings", .bool s.silenceAll),
    (some "suppressedUnits", .array (s.silencedUnits.map fun n => .number (some n)))]

/-- A session from the text of its file. -/
def ofText? (text : List UInt8) : Option Session := do ofJson? (← Json.parse? text)

/-- The text of a session's file. -/
def toText (s : Session) : List UInt8 := s.toJson.pretty

/-! ### Files -/

/-- Read the session's file; a missing file is a session without anything kept. -/
def load (path : String) : HostProgram (Except MachineError Session) := do
  match ← HostProgram.askFile path with
  | .error .missing => return .ok {}
  | .error _ => return .error .file
  | .ok contents =>
    if contents.validateUTF8 then
      match ofText? (Bytes.toList contents) with
      | some s => return .ok s
      | none => return .error .json
    else return .error .file

/-- Write the session's file; was that possible? -/
def save (s : Session) (path : String) : HostProgram Bool :=
  HostProgram.putFile path (Bytes.ofList s.toText)

/-! ### Engines -/

/-- Bring an engine to what was kept. -/
def apply (s : Session) : EngineCalls Unit := do
  if s.setting ≠ "" then EngineCalls.attempt (·.setSetting s.setting)
  if s.silenceAll then EngineCalls.attempt fun e => .ok (e.setAllSilenced true)
  for n in s.silencedUnits do
    EngineCalls.attempt (·.setSilenced n true)

end Session

end BankedZ80
